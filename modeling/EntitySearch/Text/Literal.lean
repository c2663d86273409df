import EntitySearch.Text.Printable

namespace EntitySearch.Literal

-- A character by its code point in hexadecimal digits.
def codePoint (c : Char) : List Char :=
  ['\\', 'u', '\x7b'] ++ Nat.toDigits 16 c.toNat ++ ['\x7d']

def spell (c : Char) : List Char :=
  match c with
  | '\x00' => ['\\', '0']
  | '\t' => ['\\', 't']
  | '\n' => ['\\', 'n']
  | '\r' => ['\\', 'r']
  | '"' => ['\\', '"']
  | '\\' => ['\\', '\\']
  | c => if isPrintable c then [c] else codePoint c

def quoted (s : String) : String :=
  String.ofList ('"' :: (s.toList.flatMap spell ++ ['"']))

end EntitySearch.Literal
