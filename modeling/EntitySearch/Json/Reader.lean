import EntitySearch.Json.Error
import EntitySearch.Json.Lexer
import EntitySearch.Reading

namespace EntitySearch.Json

abbrev Parsed (α : Type) (bound : Nat) := Reading Token Error α bound

-- Reads a value of some form. At least one token is taken.
abbrev Reader (α : Type) := (ts : List Token) → Parsed α ts.length

variable {α σ : Type}

def faulty {n : Nat} (f : Fault) : Parsed α n :=
  .failed (.fault f)

-- Fails at a value of another form than the expected one.
def unexpected (expected : Expected) : Reader α
  | [] => faulty .endsEarly
  | t :: _ =>
    let found := fun f => .failed (.mismatch (.kind f expected))
    match t with
    | .null => found .null
    | .bool b => found (.bool b)
    | .number (some n) => found (.number n)
    | .string (some s) => found (.string s)
    | .openBracket => found .array
    | .openBrace => found .object
    | .brokenWord f => faulty f
    | .brokenNumber f => faulty f
    | .brokenString f _ => faulty f
    | _ => faulty .malformed

def string : Reader String
  | .string (some s) :: rest => .found s rest (Nat.lt_succ_self _)
  | ts => unexpected .string ts

-- Reads what follows an item of an array: further items, up to the closing bracket. An item that a
-- comma or a bracket fails to follow is malformed whatever follows it, so that a broken token tells
-- its own fault only where a value or a key is due.
def furtherItems (item : Reader α) (ts : List Token) : Parsed (List α) ts.length :=
  match ts with
  | [] => faulty .endsEarly
  | .closeBracket :: rest => .found [] rest (Nat.lt_succ_self _)
  | .comma :: ts =>
    match item ts with
    | .failed e => .failed e
    | .found a rest fewer =>
      match furtherItems item rest with
      | .failed e => .failed e
      | .found as rest' fewer' => .found (a :: as) rest' (by simp only [List.length_cons]; omega)
  | _ => faulty .malformed
termination_by ts.length

def array (item : Reader α) : Reader (List α)
  | .openBracket :: .closeBracket :: rest => .found [] rest (by simp only [List.length_cons]; omega)
  | .openBracket :: ts =>
    match item ts with
    | .failed e => .failed e
    | .found a rest fewer =>
      match furtherItems item rest with
      | .failed e => .failed e
      | .found as rest' fewer' => .found (a :: as) rest' (by simp only [List.length_cons]; omega)
  | ts => unexpected .array ts

-- Reads the value of a key into what has been read of an object before, or refuses the key.
abbrev EntryReader (σ : Type) := String → σ → Except Error (Reader σ)

def entry (read : EntryReader σ) (s : σ) : Reader σ
  | [] => faulty .endsEarly
  | .brokenString f _ :: _ => faulty f
  | .string (some key) :: ts =>
    match read key s with
    | .error e => .failed e
    | .ok value =>
      match ts with
      | [] => faulty .endsEarly
      | .colon :: ts => (value ts).weaken (by simp only [List.length_cons]; omega)
      | _ => faulty .malformed
  | _ => faulty .malformed

-- Reads what follows an entry of an object: further entries, up to the closing brace.
def furtherEntries (read : EntryReader σ) (s : σ) (ts : List Token) : Parsed σ ts.length :=
  match ts with
  | [] => faulty .endsEarly
  | .closeBrace :: rest => .found s rest (Nat.lt_succ_self _)
  | .comma :: ts =>
    match entry read s ts with
    | .failed e => .failed e
    | .found s rest fewer =>
      (furtherEntries read s rest).weaken (by simp only [List.length_cons]; omega)
  | _ => faulty .malformed
termination_by ts.length

-- Reads the entries of an object behind its opening brace.
def entries (read : EntryReader σ) (s : σ) (ts : List Token) : Parsed σ ts.length :=
  match ts with
  | .closeBrace :: rest => .found s rest (Nat.lt_succ_self _)
  | ts =>
    match entry read s ts with
    | .failed e => .failed e
    | .found s rest fewer => (furtherEntries read s rest).weaken (Nat.le_of_lt fewer)

def object (read : EntryReader σ) (s : σ) : Reader σ
  | .openBrace :: ts => (entries read s ts).weaken (Nat.le_succ _)
  | ts => unexpected .object ts

-- How many arrays and objects may stand one within another where they are read.
def maxDepth : Nat := 127

-- Reads any value, with arrays and objects up to some depth.
def value (depth : Nat) : Reader Value := fun ts =>
  match depth, ts with
  | 0, .openBracket :: _ => faulty .malformed
  | 0, .openBrace :: _ => faulty .malformed
  | depth + 1, .openBracket :: ts => (array (value depth) (.openBracket :: ts)).map .array
  | depth + 1, .openBrace :: ts =>
    (object (fun key es => .ok fun ts => (value depth ts).map fun v => es ++ [(key, v)]) []
      (.openBrace :: ts)).map .object
  | _, .null :: rest => .found .null rest (Nat.lt_succ_self _)
  | _, .bool b :: rest => .found (.bool b) rest (Nat.lt_succ_self _)
  | _, .number (some n) :: rest => .found (.number n) rest (Nat.lt_succ_self _)
  | _, .string (some s) :: rest => .found (.string s) rest (Nat.lt_succ_self _)
  | _, .brokenWord f :: _ => faulty f
  | _, .brokenNumber f :: _ => faulty f
  | _, .brokenString f _ :: _ => faulty f
  | _, [] => faulty .endsEarly
  | _, _ => faulty .malformed

mutual

-- Passes over any value, however deep.
def skip (ts : List Token) : Parsed Unit ts.length :=
  match ts with
  | [] => faulty .endsEarly
  | .null :: rest => .found () rest (Nat.lt_succ_self _)
  | .bool _ :: rest => .found () rest (Nat.lt_succ_self _)
  | .number _ :: rest => .found () rest (Nat.lt_succ_self _)
  | .string _ :: rest => .found () rest (Nat.lt_succ_self _)
  | .brokenWord f :: _ => faulty f
  | .brokenString _ f :: _ => faulty f
  | .openBracket :: .closeBracket :: rest => .found () rest (by simp only [List.length_cons]; omega)
  | .openBrace :: .closeBrace :: rest => .found () rest (by simp only [List.length_cons]; omega)
  | .openBracket :: ts =>
    match skip ts with
    | .failed e => .failed e
    | .found _ rest fewer => (skipItems rest).weaken (by simp only [List.length_cons]; omega)
  | .openBrace :: ts =>
    match skipEntry ts with
    | .failed e => .failed e
    | .found _ rest fewer => (skipEntries rest).weaken (by simp only [List.length_cons]; omega)
  | _ => faulty .malformed
termination_by ts.length

-- Passes over further items of an array and its closing bracket.
def skipItems (ts : List Token) : Parsed Unit ts.length :=
  match ts with
  | [] => faulty .endsEarly
  | .closeBracket :: rest => .found () rest (Nat.lt_succ_self _)
  | .comma :: ts =>
    match skip ts with
    | .failed e => .failed e
    | .found _ rest fewer => (skipItems rest).weaken (by simp only [List.length_cons]; omega)
  | _ => faulty .malformed
termination_by ts.length

-- Passes over a key, a colon and a value.
def skipEntry (ts : List Token) : Parsed Unit ts.length :=
  match ts with
  | [] => faulty .endsEarly
  | .brokenString _ f :: _ => faulty f
  | [.string _] => faulty .endsEarly
  | .string _ :: .colon :: ts => (skip ts).weaken (by simp only [List.length_cons]; omega)
  | _ => faulty .malformed
termination_by ts.length

-- Passes over further entries of an object and its closing brace.
def skipEntries (ts : List Token) : Parsed Unit ts.length :=
  match ts with
  | [] => faulty .endsEarly
  | .closeBrace :: rest => .found () rest (Nat.lt_succ_self _)
  | .comma :: ts =>
    match skipEntry ts with
    | .failed e => .failed e
    | .found _ rest fewer => (skipEntries rest).weaken (by simp only [List.length_cons]; omega)
  | _ => faulty .malformed
termination_by ts.length

end

structure Field (σ : Type) where
  name : String
  isSet : σ → Bool
  read : σ → Reader σ

-- The form of a record. It is written as an object of its fields in any order, with other keys
-- among them that do not count, or as an array of its fields in their order, where fields may be
-- left out at the end.
structure Record (σ α : Type) where
  name : String
  fields : List (Field σ)
  start : σ
  -- The record of a draft, or else the position of the first field that is missing.
  build : σ → Except Nat α

namespace Record

def readEntry (r : Record σ α) : EntryReader σ := fun key s =>
  match r.fields.find? (·.name = key) with
  | none => .ok fun ts => (skip ts).map fun _ => s
  | some f => if f.isSet s then .error (.mismatch (.duplicateField key)) else .ok (f.read s)

-- Reads what follows a field of a record in an array: further fields, up to the closing bracket.
def furtherFields (s : σ) : List (Field σ) → (ts : List Token) → Parsed σ ts.length
  | _, [] => faulty .endsEarly
  | _, .closeBracket :: rest => .found s rest (Nat.lt_succ_self _)
  | f :: fs, .comma :: ts =>
    match f.read s ts with
    | .failed e => .failed e
    | .found s rest fewer =>
      (furtherFields s fs rest).weaken (by simp only [List.length_cons]; omega)
  | _, _ => faulty .malformed

-- Reads the fields of a record in an array behind its opening bracket.
def itemFields (r : Record σ α) (ts : List Token) : Parsed σ ts.length :=
  match r.fields, ts with
  | _, .closeBracket :: rest => .found r.start rest (Nat.lt_succ_self _)
  | f :: fs, ts =>
    match f.read r.start ts with
    | .failed e => .failed e
    | .found s rest fewer => (furtherFields s fs rest).weaken (Nat.le_of_lt fewer)
  | [], _ => faulty .malformed

-- Makes a record of its draft.
def finish (r : Record σ α) (missing : Nat → Mismatch) {n : Nat} : Parsed σ n → Parsed α n
  | .failed e => .failed e
  | .found s rest fewer =>
    match r.build s with
    | .ok a => .found a rest fewer
    | .error i => .failed (.mismatch (missing i))

def fieldName (r : Record σ α) (i : Nat) : String :=
  (r.fields[i]?.map Field.name).getD ""

def read (r : Record σ α) : Reader α
  | .openBracket :: ts =>
    (r.finish (fun i => .tooShort i r.name r.fields.length) (r.itemFields ts)).weaken
      (Nat.le_succ _)
  | .openBrace :: ts =>
    (r.finish (fun i => .missingField (r.fieldName i)) (entries r.readEntry r.start ts)).weaken
      (Nat.le_succ _)
  | ts => unexpected (.record r.name) ts

end Record

def readText (reader : Reader α) (text : String) : Except Error α :=
  match reader (tokens text.toList) with
  | .failed e => .error e
  | .found a [] _ => .ok a
  | .found _ (_ :: _) _ => .error (.fault .malformed)

end EntitySearch.Json
