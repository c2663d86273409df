import EntitySearch.Json.Number
import EntitySearch.Json.Token

namespace EntitySearch.Json

-- Holds of space, tab, line feed and carriage return, which may stand between tokens.
def isSpace (c : Char) : Bool :=
  c = ' ' || c = '\t' || c = '\n' || c = '\r'

inductive Scan
  | closed (content : Option (List Char)) (rest : List Char)
  | broken (whenRead whenSkipped : Fault)

namespace Scan

-- Puts a character before the content.
def after (c : Char) : Scan → Scan
  | closed content rest => closed (content.map (c :: ·)) rest
  | broken whenRead whenSkipped => broken whenRead whenSkipped

-- What a string turns out to be when its beginning can be skipped but not read.
def unreadable : Scan → Scan
  | closed _ rest => closed none rest
  | broken _ whenSkipped => broken .malformed whenSkipped

end Scan

def hexDigit? (c : Char) : Option Nat :=
  if '0' ≤ c ∧ c ≤ '9' then some (c.toNat - '0'.toNat)
  else if 'a' ≤ c ∧ c ≤ 'f' then some (c.toNat - 'a'.toNat + 10)
  else if 'A' ≤ c ∧ c ≤ 'F' then some (c.toNat - 'A'.toNat + 10)
  else none

-- The number of four hexadecimal digits.
def hexUnit? (a b c d : Char) : Option Nat := do
  return (((← hexDigit? a) * 16 + (← hexDigit? b)) * 16 + (← hexDigit? c)) * 16 + (← hexDigit? d)

-- Reads four hexadecimal digits. A text of less than four bytes ends early, whatever is in it.
def unit? (cs : List Char) : Except Fault (Nat × List Char) :=
  match cs with
  | a :: b :: c :: d :: rest =>
    match hexUnit? a b c d with
    | some n => .ok (n, rest)
    | none => .error .malformed
  | cs => .error (if (String.ofList cs).utf8ByteSize < 4 then .endsEarly else .malformed)

theorem length_of_unit? {cs rest : List Char} {n : Nat} (h : unit? cs = .ok (n, rest)) :
    rest.length < cs.length := by
  unfold unit? at h
  split at h
  · split at h
    · cases h; simp only [List.length_cons]; omega
    · cases h
  · cases h

def isLead (n : Nat) : Bool := 0xD800 ≤ n && n ≤ 0xDBFF

def isTrail (n : Nat) : Bool := 0xDC00 ≤ n && n ≤ 0xDFFF

-- The character of a surrogate pair.
def ofPair (lead trail : Nat) : Char :=
  .ofNat ((lead - 0xD800) * 0x400 + (trail - 0xDC00) + 0x10000)

-- The character behind a backslash that stands for a single character.
def escaped? : Char → Option Char
  | '"' => some '"'
  | '\\' => some '\\'
  | '/' => some '/'
  | 'b' => some '\x08'
  | 'f' => some '\x0c'
  | 'n' => some '\n'
  | 'r' => some '\r'
  | 't' => some '\t'
  | _ => none

inductive Escape
  | char (c : Char) (rest : List Char)
  -- Half a surrogate pair.
  | half (rest : List Char)
  | broken (fault : Fault)

-- Reads the second half of a surrogate pair behind the first.
def scanTrail (lead : Nat) (cs : List Char) : Escape :=
  match cs with
  | [] => .broken .endsEarly
  | ['\\'] => .broken .endsEarly
  | '\\' :: 'u' :: cs =>
    match unit? cs with
    | .error f => .broken f
    | .ok (n, rest) => if isTrail n then .char (ofPair lead n) rest else .half rest
  | cs => .half cs

-- Reads what stands behind a backslash.
def scanEscape (cs : List Char) : Escape :=
  match cs with
  | [] => .broken .endsEarly
  | 'u' :: cs =>
    match unit? cs with
    | .error f => .broken f
    | .ok (n, rest) =>
      if isLead n then scanTrail n rest
      else if isTrail n then .half rest
      else .char (.ofNat n) rest
  | c :: rest =>
    match escaped? c with
    | some d => .char d rest
    | none => .broken .malformed

-- What an escape leaves of a text.
def Escape.rest : Escape → List Char
  | char _ rest => rest
  | half rest => rest
  | broken _ => []

theorem length_scanTrail_le (lead : Nat) (cs : List Char) :
    (scanTrail lead cs).rest.length ≤ cs.length := by
  unfold scanTrail
  split
  · simp [Escape.rest]
  · simp [Escape.rest]
  · split
    next => simp [Escape.rest]
    next h =>
      have := length_of_unit? h
      split <;> simp only [Escape.rest, List.length_cons] <;> omega
  · exact Nat.le_refl _

theorem length_scanEscape_le (cs : List Char) : (scanEscape cs).rest.length ≤ cs.length := by
  unfold scanEscape
  split
  · exact Nat.le_refl _
  · split
    next => simp [Escape.rest]
    next cs n rest h =>
      have := length_of_unit? h
      have := length_scanTrail_le n rest
      split
      · simp only [List.length_cons]; omega
      split <;> simp only [Escape.rest, List.length_cons] <;> omega
  · split <;> simp [Escape.rest]

-- Scans a string behind its opening mark.
def scanString (cs : List Char) : Scan :=
  match cs with
  | [] => .broken .endsEarly .endsEarly
  | '"' :: rest => .closed (some []) rest
  | '\\' :: cs =>
    match _h : scanEscape cs with
    | .char c rest => (scanString rest).after c
    | .half rest => (scanString rest).unreadable
    | .broken f => .broken f f
  | c :: rest =>
    if c < ' ' then .broken .malformed .malformed else (scanString rest).after c
termination_by cs.length
decreasing_by
  · have := length_scanEscape_le cs
    simp_all only [Escape.rest, List.length_cons]
    omega
  · have := length_scanEscape_le cs
    simp_all only [Escape.rest, List.length_cons]
    omega
  · exact Nat.lt_succ_self _

-- What a string leaves of a text.
def Scan.rest : Scan → List Char
  | closed _ rest => rest
  | broken _ _ => []

@[simp]
theorem Scan.rest_after (c : Char) (s : Scan) : (s.after c).rest = s.rest := by
  cases s <;> rfl

@[simp]
theorem Scan.rest_unreadable (s : Scan) : s.unreadable.rest = s.rest := by
  cases s <;> rfl

theorem length_scanString_le (cs : List Char) : (scanString cs).rest.length ≤ cs.length := by
  fun_induction scanString cs with
  | case1 => exact Nat.le_refl _
  | case2 rest => simp [Scan.rest]
  | case3 cs c rest h ih =>
    have := length_scanEscape_le cs
    simp_all only [Escape.rest, Scan.rest_after, List.length_cons]
    omega
  | case4 cs rest h ih =>
    have := length_scanEscape_le cs
    simp_all only [Escape.rest, Scan.rest_unreadable, List.length_cons]
    omega
  | case5 => simp [Scan.rest]
  | case6 => simp [Scan.rest]
  | case7 c rest _ _ _ ih =>
    simp only [Scan.rest_after, List.length_cons]
    omega

-- Cuts the digits off the front of a text.
def digits (cs : List Char) : List Char × List Char :=
  (cs.takeWhile Char.isDigit, cs.dropWhile Char.isDigit)

-- The fault of a number that a digit would have to go on with.
def digitMissing (cs : List Char) : Fault :=
  if cs.isEmpty then .endsEarly else .malformed

-- Reads the digits before the point. A zero stands alone.
def scanWhole (cs : List Char) : Except Fault (List Char × List Char) :=
  match digits cs with
  | ([], rest) => .error (digitMissing rest)
  | ('0' :: _ :: _, _) => .error .malformed
  | (ds, rest) => .ok (ds, rest)

-- Reads a point and the digits behind it, if there is a point.
def scanFraction (cs : List Char) : Except Fault (Option (List Char) × List Char) :=
  match cs with
  | '.' :: cs =>
    match digits cs with
    | ([], rest) => .error (digitMissing rest)
    | (ds, rest) => .ok (some ds, rest)
  | cs => .ok (none, cs)

-- Takes a sign off an exponent.
def scanSign (cs : List Char) : Bool × List Char :=
  match cs with
  | '-' :: cs => (true, cs)
  | '+' :: cs => (false, cs)
  | cs => (false, cs)

-- Reads an exponent, if there is one.
def scanExponent (cs : List Char) : Except Fault (Option Int × List Char) :=
  match cs with
  | [] => .ok (none, [])
  | c :: cs =>
    if c = 'e' || c = 'E' then
      match digits (scanSign cs).2 with
      | ([], rest) => .error (digitMissing rest)
      | (ds, rest) =>
        let n := ds.foldl (fun n d => n * 10 + Numeral.digitValue d) 0
        .ok (some (if (scanSign cs).1 then -(n : Int) else n), rest)
    else .ok (none, c :: cs)

-- Reads a number behind its sign.
def scanUnsigned (negative : Bool) (cs : List Char) : Except Fault (Numeral × List Char) := do
  let (whole, cs) ← scanWhole cs
  let (fraction?, cs) ← scanFraction cs
  let (exponent, cs) ← scanExponent cs
  return ({ negative, whole, fraction := fraction?.getD [], hasFraction := fraction?.isSome,
            exponent }, cs)

def scanNumber (cs : List Char) : Except Fault (Numeral × List Char) :=
  match cs with
  | '-' :: cs => scanUnsigned true cs
  | cs => scanUnsigned false cs

theorem length_digits (cs : List Char) :
    (digits cs).1.length + (digits cs).2.length = cs.length := by
  rw [← List.length_append]
  simp [digits]

theorem length_of_scanWhole {cs rest ds : List Char} (h : scanWhole cs = .ok (ds, rest)) :
    rest.length < cs.length := by
  have := length_digits cs
  unfold scanWhole at h
  split at h
  · cases h
  · cases h
  next ds' rest' hds _ heq =>
    cases h
    rw [heq] at this
    cases ds with
    | nil => exact (hds rfl).elim
    | cons => simp only [List.length_cons] at this; omega

theorem length_of_scanFraction {cs rest : List Char} {ds : Option (List Char)}
    (h : scanFraction cs = .ok (ds, rest)) : rest.length ≤ cs.length := by
  unfold scanFraction at h
  split at h
  next cs =>
    have := length_digits cs
    split at h
    · cases h
    next heq => cases h; rw [heq] at this; simp only [List.length_cons] at *; omega
  · cases h; exact Nat.le_refl _

theorem length_scanSign_le (cs : List Char) : (scanSign cs).2.length ≤ cs.length := by
  unfold scanSign
  split <;> simp

theorem length_of_scanExponent {cs rest : List Char} {n : Option Int}
    (h : scanExponent cs = .ok (n, rest)) : rest.length ≤ cs.length := by
  unfold scanExponent at h
  split at h
  · cases h; exact Nat.le_refl _
  next c cs =>
    split at h
    · have := length_scanSign_le cs
      have := length_digits (scanSign cs).2
      split at h
      · cases h
      next heq => cases h; rw [heq] at this; simp only [List.length_cons] at *; omega
    · cases h; exact Nat.le_refl _

theorem length_of_scanUnsigned {negative : Bool} {cs rest : List Char} {n : Numeral}
    (h : scanUnsigned negative cs = .ok (n, rest)) : rest.length < cs.length := by
  unfold scanUnsigned at h
  match hw : scanWhole cs with
  | .error _ => simp [hw, bind, Except.bind] at h
  | .ok (whole, cs₁) =>
    match hf : scanFraction cs₁ with
    | .error _ => simp [hw, hf, bind, Except.bind] at h
    | .ok (fraction, cs₂) =>
      match he : scanExponent cs₂ with
      | .error _ => simp [hw, hf, he, bind, Except.bind] at h
      | .ok (exponent, cs₃) =>
        simp only [hw, hf, he, bind, Except.bind, pure, Except.pure, Except.ok.injEq,
          Prod.mk.injEq] at h
        have := length_of_scanWhole hw
        have := length_of_scanFraction hf
        have := length_of_scanExponent he
        rw [← h.2]
        omega

theorem length_of_scanNumber {cs rest : List Char} {n : Numeral}
    (h : scanNumber cs = .ok (n, rest)) : rest.length < cs.length := by
  unfold scanNumber at h
  split at h
  · exact Nat.lt_trans (length_of_scanUnsigned h) (Nat.lt_succ_self _)
  · exact length_of_scanUnsigned h

-- Reads the rest of a word.
def scanWord : List Char → List Char → Except Fault (List Char)
  | [], cs => .ok cs
  | _ :: _, [] => .error .endsEarly
  | w :: word, c :: cs => if c = w then scanWord word cs else .error .malformed

-- A word with what it stands for.
def wordToken (t : Token) (word : String) (cs : List Char) : Token × List Char :=
  match scanWord word.toList cs with
  | .ok rest => (t, rest)
  | .error f => (.brokenWord f, [])

-- The token that begins with a character, and the text behind it. Nothing is left behind a token
-- that is broken.
def token (c : Char) (cs : List Char) : Token × List Char :=
  match c with
  | '\x7b' => (.openBrace, cs)
  | '\x7d' => (.closeBrace, cs)
  | '[' => (.openBracket, cs)
  | ']' => (.closeBracket, cs)
  | ',' => (.comma, cs)
  | ':' => (.colon, cs)
  | 'n' => wordToken .null "ull" cs
  | 't' => wordToken (.bool true) "rue" cs
  | 'f' => wordToken (.bool false) "alse" cs
  | '"' =>
    match scanString cs with
    | .closed content rest => (.string (content.map String.ofList), rest)
    | .broken whenRead whenSkipped => (.brokenString whenRead whenSkipped, [])
  | c =>
    if c = '-' || c.isDigit then
      match scanNumber (c :: cs) with
      | .ok (n, rest) => (.number n.value?, rest)
      | .error f => (.brokenNumber f, [])
    else (.stray, [])

theorem length_of_scanWord {word cs rest : List Char} (h : scanWord word cs = .ok rest) :
    rest.length ≤ cs.length := by
  induction word generalizing cs with
  | nil => cases h; exact Nat.le_refl _
  | cons w word ih =>
    cases cs with
    | nil => cases h
    | cons c cs =>
      unfold scanWord at h
      split at h
      · exact Nat.le_succ_of_le (ih h)
      · cases h

theorem length_wordToken_le (t : Token) (word : String) (cs : List Char) :
    (wordToken t word cs).2.length ≤ cs.length := by
  unfold wordToken
  split
  next h => exact length_of_scanWord h
  next => exact Nat.zero_le _

theorem length_token_le (c : Char) (cs : List Char) : (token c cs).2.length ≤ cs.length := by
  unfold token
  split
  any_goals exact Nat.le_refl _
  any_goals exact length_wordToken_le ..
  · have := length_scanString_le cs
    split
    next h => rw [h] at this; exact this
    next => exact Nat.zero_le _
  · split
    · split
      next h => exact Nat.le_of_lt_succ (length_of_scanNumber h)
      next => exact Nat.zero_le _
    · exact Nat.zero_le _

def tokens (cs : List Char) : List Token :=
  match cs with
  | [] => []
  | c :: cs =>
    if isSpace c then tokens cs
    else
      let r := token c cs
      r.1 :: tokens r.2
termination_by cs.length
decreasing_by
  · exact Nat.lt_succ_self _
  · exact Nat.lt_succ_of_le (length_token_le c cs)

end EntitySearch.Json
