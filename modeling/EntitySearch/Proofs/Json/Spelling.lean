import EntitySearch.Json.Lexer
import Mathlib.Data.List.Forall2

namespace EntitySearch.Json

section Strings

-- The characters that have an escape of their own, behind what it is spelled with.
def shortEscapes : List (Char × Char) :=
  [('"', '"'), ('\\', '\\'), ('/', '/'), ('b', '\x08'), ('f', '\x0c'), ('n', '\n'), ('r', '\r'),
    ('t', '\t')]

-- Hexadecimal digits of either case.
inductive HexDigit : Char → Nat → Prop
  | lower {n : Nat} : n < 16 → HexDigit (Nat.digitChar n) n
  | upper {n : Nat} : n < 16 → HexDigit (Nat.digitChar n).toUpper n

-- A number of four hexadecimal digits.
inductive HexUnit : List Char → Nat → Prop
  | intro {a b c d : Char} {i j k l : Nat} :
    HexDigit a i → HexDigit b j → HexDigit c k → HexDigit d l →
    HexUnit [a, b, c, d] (((i * 16 + j) * 16 + k) * 16 + l)

-- What may stand for itself between quotes.
structure IsPlain (c : Char) : Prop where
  printable    : ' ' ≤ c
  not_quote    : c ≠ '"'
  not_backslash : c ≠ '\\'

-- A character between quotes. One beyond four hexadecimal digits is escaped as a surrogate pair.
inductive SpellsChar : List Char → Char → Prop
  | plain {c : Char} : IsPlain c → SpellsChar [c] c
  | short {e c : Char} : (e, c) ∈ shortEscapes → SpellsChar ['\\', e] c
  | unit {digits : List Char} {c : Char} :
    HexUnit digits c.toNat → SpellsChar ('\\' :: 'u' :: digits) c
  | pair {digits more : List Char} {c : Char} {high low : Nat} :
    (c.toNat = 0x10000 + high * 0x400 + low) → (high < 0x400) → (low < 0x400) →
    HexUnit digits (0xD800 + high) → HexUnit more (0xDC00 + low) →
    SpellsChar ('\\' :: 'u' :: (digits ++ '\\' :: 'u' :: more)) c

inductive SpellsString : List Char → String → Prop
  | intro {pieces : List (List Char)} {s : String} :
    List.Forall₂ SpellsChar pieces s.toList → SpellsString ('"' :: (pieces.flatten ++ ['"'])) s

-- A character or an escape in a string that is skipped.
inductive IsPiece : List Char → Prop
  | plain {c : Char} : IsPlain c → IsPiece [c]
  | short {e c : Char} : (e, c) ∈ shortEscapes → IsPiece ['\\', e]
  | unit {digits : List Char} {n : Nat} : HexUnit digits n → IsPiece ('\\' :: 'u' :: digits)

inductive IsString : List Char → Prop
  | intro {pieces : List (List Char)} :
    (∀ piece ∈ pieces, IsPiece piece) → IsString ('"' :: (pieces.flatten ++ ['"']))

end Strings

section Numbers

structure IsDigits (ds : List Char) : Prop where
  nonempty : ds ≠ []
  all      : ∀ d ∈ ds, d.isDigit

-- The digits before the point. A zero stands alone.
structure IsWhole (ds : List Char) : Prop where
  digits : IsDigits ds
  zero   : ds.head? = some '0' → ds = ['0']

inductive IsFraction : List Char → Prop
  | none : IsFraction []
  | some {ds : List Char} : IsDigits ds → IsFraction ('.' :: ds)

inductive IsExponent : List Char → Prop
  | none : IsExponent []
  | some {e : Char} {sign ds : List Char} :
    (e ∈ ['e', 'E']) → (sign ∈ [[], ['+'], ['-']]) → IsDigits ds → IsExponent (e :: (sign ++ ds))

inductive IsNumber : List Char → Prop
  | intro {sign whole fraction exponent : List Char} :
    (sign ∈ [[], ['-']]) → IsWhole whole → IsFraction fraction → IsExponent exponent →
    IsNumber (sign ++ (whole ++ (fraction ++ exponent)))

end Numbers

section Lists

variable {α : Type}

-- Holds of what may stand between tokens.
def IsGap (cs : List Char) : Prop :=
  ∀ c ∈ cs, isSpace c

-- What stands in gaps on both sides.
inductive Spaced (Spells : List Char → α → Prop) : List Char → α → Prop
  | intro {before text after : List Char} {a : α} :
    IsGap before → Spells text a → IsGap after → Spaced Spells (before ++ (text ++ after)) a

-- One or more with commas between them.
inductive Separated (Spells : List Char → α → Prop) : List Char → List α → Prop
  | one {text : List Char} {a : α} : Spaced Spells text a → Separated Spells text [a]
  | cons {text more : List Char} {a : α} {as : List α} :
    Spaced Spells text a → Separated Spells more as →
    Separated Spells (text ++ ',' :: more) (a :: as)

-- Any number of them between brackets.
inductive Enclosed (opening closing : Char) (Spells : List Char → α → Prop) :
    List Char → List α → Prop
  | empty {gap : List Char} :
    IsGap gap → Enclosed opening closing Spells (opening :: (gap ++ [closing])) []
  | full {text : List Char} {as : List α} :
    Separated Spells text as → Enclosed opening closing Spells (opening :: (text ++ [closing])) as

-- A key and a value.
inductive SpellsEntry (Spells : String → List Char → α → Prop) : List Char → String × α → Prop
  | intro {keyText before after text : List Char} {key : String} {a : α} :
    SpellsString keyText key → IsGap before → IsGap after → Spells key text a →
    SpellsEntry Spells (keyText ++ (before ++ ':' :: (after ++ text))) (key, a)

end Lists

section Values

-- The parts of a text that is skipped: values, and what stands between the brackets of arrays and
-- objects that are not empty.
inductive Part
  | value
  | items
  | entries

inductive WellFormed : Part → List Char → Prop
  | word {text : List Char} :
    (text ∈ ["null".toList, "true".toList, "false".toList]) → WellFormed .value text
  | number {text : List Char} : IsNumber text → WellFormed .value text
  | string {text : List Char} : IsString text → WellFormed .value text
  | emptyArray {gap : List Char} : IsGap gap → WellFormed .value ('[' :: (gap ++ [']']))
  | array {text : List Char} :
    WellFormed .items text → WellFormed .value ('[' :: (text ++ [']']))
  | emptyObject {gap : List Char} : IsGap gap → WellFormed .value ('\x7b' :: (gap ++ ['\x7d']))
  | object {text : List Char} :
    WellFormed .entries text → WellFormed .value ('\x7b' :: (text ++ ['\x7d']))
  | item {before text after : List Char} :
    IsGap before → WellFormed .value text → IsGap after →
    WellFormed .items (before ++ (text ++ after))
  | items {text more : List Char} :
    WellFormed .items text → WellFormed .items more → WellFormed .items (text ++ ',' :: more)
  | entry {before key inner inner' text after : List Char} :
    IsGap before → IsString key → IsGap inner → IsGap inner' → WellFormed .value text →
    IsGap after →
    WellFormed .entries (before ++ (key ++ (inner ++ ':' :: (inner' ++ (text ++ after)))))
  | entries {text more : List Char} :
    WellFormed .entries text → WellFormed .entries more →
    WellFormed .entries (text ++ ',' :: more)

end Values

section Records

-- How a field of a record is spelled: its name, the texts of its value, and whether it may be left
-- out.
structure FieldSpelling where
  name     : String
  Spells   : List Char → Prop
  Optional : Prop

-- The value of a key in a record. Under other keys than those of the fields there may be anything.
def SpellsField (fields : List FieldSpelling) (key : String) (text : List Char) (_ : Unit) : Prop :=
  (∀ f ∈ fields, f.name = key → f.Spells text) ∧
    ((∀ f ∈ fields, f.name ≠ key) → WellFormed .value text)

-- A record is an object of its fields in any order, each once, with other keys among them, or an
-- array of its fields in their order, where the last ones may be left out.
inductive SpellsRecord (fields : List FieldSpelling) : List Char → Prop
  | object {text : List Char} {entries : List (String × Unit)} :
    Enclosed '\x7b' '\x7d' (SpellsEntry (SpellsField fields)) text entries →
    (∀ f ∈ fields, (entries.map Prod.fst).count f.name = 1 ∨
      f.name ∉ entries.map Prod.fst ∧ f.Optional) →
    SpellsRecord fields text
  | array {text : List Char} {given left : List FieldSpelling} :
    Enclosed '[' ']' (fun text (f : FieldSpelling) => f.Spells text) text given →
    (fields = given ++ left) → (∀ f ∈ left, f.Optional) →
    SpellsRecord fields text

end Records

end EntitySearch.Json
