namespace EntitySearch.Quoted

-- What stands before the closing quote mark, and the text from that mark on, which is empty if the
-- quote is not closed.
def split (q : Char) : List Char → List Char × List Char
  | [] => ([], [])
  | c :: cs =>
    if c = q then ([], c :: cs)
    else match c, cs with
      | '\\', d :: ds =>
        let r := split q ds
        ('\\' :: d :: r.1, r.2)
      | c, cs =>
        let r := split q cs
        (c :: r.1, r.2)

theorem split_append (q : Char) (cs : List Char) : (split q cs).1 ++ (split q cs).2 = cs := by
  fun_induction split q cs with
  | case1 => rfl
  | case2 => rfl
  | case3 d ds r _ ih => simpa using ih
  | case4 c cs r _ _ ih => simpa using ih

-- Reads the inside of a quote: a backslash before a quote mark is dropped.
def decode (q : Char) : List Char → List Char
  | [] => []
  | [c] => [c]
  | c :: d :: cs => if c = '\\' ∧ d = q then q :: decode q cs else c :: decode q (d :: cs)

-- Writes a text for the inside of a quote, behind a run of backslashes whose length is odd as told.
-- A quote mark gets a backslash of its own, and so does the last of an odd run that stands before a
-- quote mark or at the end.
def encodeAfter (q : Char) (odd : Bool) : List Char → List Char
  | [] => if odd then ['\\'] else []
  | c :: cs =>
    if c = '\\' then '\\' :: encodeAfter q (!odd) cs
    else if c = q then
      (if odd then ['\\', '\\', q] else ['\\', q]) ++ encodeAfter q false cs
    else c :: encodeAfter q false cs

-- Only a backslash right before a mark is taken away when a quote is read. So a run of backslashes
-- that stands before a mark in it, or at its end, has to be of even length.
def encode (q : Char) (cs : List Char) : List Char :=
  encodeAfter q false cs

-- Holds if an odd run of backslashes stands right before a quote mark, behind a run as told. Such a
-- text has no spelling between these marks.
def hasOddRunAfter (q : Char) (odd : Bool) : List Char → Bool
  | [] => false
  | c :: cs =>
    if c = '\\' then hasOddRunAfter q (!odd) cs
    else (c = q && odd) || hasOddRunAfter q false cs

-- Holds if an odd run of backslashes stands right before a quote mark.
def hasOddRun (q : Char) (cs : List Char) : Bool :=
  hasOddRunAfter q false cs

end EntitySearch.Quoted
