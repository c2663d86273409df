import EntitySearch.Text.Quoted
import Mathlib.Data.List.Induction

namespace EntitySearch.Quoted

-- The number of backslashes that a text ends in.
def endRun (cs : List Char) : Nat :=
  (cs.reverse.takeWhile (· = '\\')).length

-- Holds if a text ends in an odd run of backslashes, which escapes the character behind it.
def EndsOdd (cs : List Char) : Prop :=
  endRun cs % 2 = 1

instance (cs : List Char) : Decidable (EndsOdd cs) :=
  inferInstanceAs (Decidable (endRun cs % 2 = 1))

-- Holds if every `q` in a text is escaped.
def AllEscaped (q : Char) (cs : List Char) : Prop :=
  ∀ before after, cs = before ++ q :: after → EndsOdd before

-- A text without the backslashes that stand right before a `q`.
def dropEscapes (q : Char) : List Char → List Char
  | [] => []
  | c :: cs => if c = '\\' ∧ cs.head? = some q then dropEscapes q cs else c :: dropEscapes q cs

-- A text in which every odd run of backslashes that stands right before a `q` or at the end has
-- become longer by one. The run before the text is odd or not, as told.
def padAfter (q : Char) (odd : Bool) : List Char → List Char
  | [] => if odd then ['\\'] else []
  | c :: cs =>
    if c = '\\' then '\\' :: padAfter q (!odd) cs
    else if c = q ∧ odd then '\\' :: c :: padAfter q false cs
    else c :: padAfter q false cs

def pad (q : Char) (cs : List Char) : List Char :=
  padAfter q false cs

section Parity

-- Whether the run of backslashes behind a text is odd, if the one before it is odd as told. This
-- goes over a text from the front, as all functions on quoted texts do.
def oddAfter (odd : Bool) (cs : List Char) : Bool :=
  cs.foldl (fun odd c => c = '\\' && !odd) odd

@[simp]
theorem oddAfter_nil (odd : Bool) : oddAfter odd [] = odd := rfl

@[simp]
theorem oddAfter_cons (odd : Bool) (c : Char) (cs : List Char) :
    oddAfter odd (c :: cs) = oddAfter (c = '\\' && !odd) cs := rfl

@[simp]
theorem oddAfter_append (odd : Bool) (cs ds : List Char) :
    oddAfter odd (cs ++ ds) = oddAfter (oddAfter odd cs) ds := by
  simp [oddAfter]

theorem endRun_append_singleton (cs : List Char) (c : Char) :
    endRun (cs ++ [c]) = if c = '\\' then endRun cs + 1 else 0 := by
  by_cases h : c = '\\' <;> simp [endRun, h]

theorem endsOdd_iff (cs : List Char) : EndsOdd cs ↔ oddAfter false cs := by
  induction cs using List.reverseRecOn
  case nil => simp [EndsOdd, endRun]
  case append_singleton cs c ih =>
    unfold EndsOdd at ih ⊢
    by_cases h : c = '\\'
    · simp only [endRun_append_singleton, h, oddAfter_append, oddAfter_cons, oddAfter_nil]
      cases ho : oddAfter false cs <;> simp [ho] at ih ⊢ <;> omega
    · simp [endRun_append_singleton, h]

-- Every `q` in a text is escaped, behind a run as told.
def AllEscapedAfter (q : Char) (odd : Bool) (cs : List Char) : Prop :=
  ∀ before after, cs = before ++ q :: after → oddAfter odd before

theorem allEscaped_iff {q : Char} {cs : List Char} :
    AllEscaped q cs ↔ AllEscapedAfter q false cs := by
  simp only [AllEscaped, AllEscapedAfter, endsOdd_iff]

theorem allEscapedAfter_nil (q : Char) (odd : Bool) : AllEscapedAfter q odd [] := by
  intro before after h
  simp at h

theorem allEscapedAfter_cons {q : Char} {odd : Bool} {c : Char} {cs : List Char} :
    AllEscapedAfter q odd (c :: cs) ↔
      (c = q → odd) ∧ AllEscapedAfter q (c = '\\' && !odd) cs := by
  constructor
  case mp =>
    intro h
    refine ⟨fun hc => ?_, fun before after hcs => ?_⟩
    · exact h [] cs (by simp [hc])
    · simpa using h (c :: before) after (by simp [hcs])
  case mpr =>
    intro ⟨hc, h⟩ before after hcs
    cases before
    case nil => exact hc (List.cons.inj hcs).1
    case cons b before =>
      simp only [List.cons_append, List.cons.injEq] at hcs
      simpa [hcs.1] using h before after hcs.2

end Parity

section Split

variable {q : Char}

-- Where a quote that goes on with `inside ++ rest` ends: at the first quote mark that is not
-- escaped, or at the end of the text if there is none.
structure EndsAt (q : Char) (inside rest : List Char) : Prop where
  escaped : AllEscaped q inside
  stop : rest = [] ∨ ∃ behind, rest = q :: behind ∧ ¬EndsOdd inside

theorem endsAt_cons {c : Char} {inside rest : List Char} (hc : c ≠ q) (he : c ≠ '\\')
    (h : EndsAt q inside rest) : EndsAt q (c :: inside) rest where
  escaped := by
    have := allEscaped_iff.1 h.escaped
    simpa [allEscaped_iff, allEscapedAfter_cons, hc, he] using this
  stop := by
    have := h.stop
    simpa [endsOdd_iff, he] using this

theorem endsAt_escape {d : Char} {inside rest : List Char} (hq : q ≠ '\\')
    (h : EndsAt q inside rest) : EndsAt q ('\\' :: d :: inside) rest where
  escaped := by
    have := allEscaped_iff.1 h.escaped
    simpa [allEscaped_iff, allEscapedAfter_cons, hq.symm] using this
  stop := by
    have := h.stop
    simpa [endsOdd_iff] using this

theorem endsAt_split (hq : q ≠ '\\') (cs : List Char) :
    EndsAt q (split q cs).1 (split q cs).2 := by
  fun_induction split q cs
  case case1 => exact ⟨by simp [allEscaped_iff, allEscapedAfter_nil], .inl rfl⟩
  case case2 cs =>
    exact ⟨by simp [allEscaped_iff, allEscapedAfter_nil], .inr ⟨cs, rfl, by simp [endsOdd_iff]⟩⟩
  case case3 d ds r hc ih => exact endsAt_escape hq ih
  case case4 c cs hesc r hc ih =>
    by_cases he : c = '\\'
    · -- A backslash with nothing behind it.
      cases cs
      case nil =>
        exact ⟨by simp [allEscaped_iff, allEscapedAfter_cons, allEscapedAfter_nil, hc, r, split],
          .inl rfl⟩
      case cons d ds => exact (hesc d ds he rfl).elim
    · exact endsAt_cons hc he ih

-- A quote does not end at two places.
theorem EndsAt.not_before {inside rest more rest' : List Char} (h : EndsAt q inside rest)
    (h' : EndsAt q (inside ++ more) rest') (hr : rest = more ++ rest') : more = [] := by
  cases more
  case nil => rfl
  case cons c more =>
    cases h.stop
    case inl hn => simp [hn] at hr
    case inr hs =>
      obtain ⟨behind, rfl, heven⟩ := hs
      obtain ⟨rfl, -⟩ := List.cons.inj hr
      exact absurd (h'.escaped inside more rfl) heven

theorem split_eq_iff (hq : q ≠ '\\') {cs inside rest : List Char} :
    split q cs = (inside, rest) ↔ inside ++ rest = cs ∧ EndsAt q inside rest := by
  have hs := split_append q cs
  have he := endsAt_split hq cs
  generalize split q cs = r at hs he ⊢
  obtain ⟨inside', rest'⟩ := r
  constructor
  case mp =>
    rintro ⟨⟩
    exact ⟨hs, he⟩
  case mpr =>
    rintro ⟨h, ha⟩
    rw [← h] at hs
    cases List.append_eq_append_iff.1 hs
    case inl hm =>
      obtain ⟨more, rfl, hr⟩ := hm
      simp [he.not_before ha hr] at hr ⊢
      exact hr
    case inr hm =>
      obtain ⟨more, rfl, hr⟩ := hm
      simp [ha.not_before he hr] at hr ⊢
      exact hr.symm

end Split

section Decode

theorem decode_eq_dropEscapes {q : Char} (hq : q ≠ '\\') (cs : List Char) :
    decode q cs = dropEscapes q cs := by
  fun_induction decode q cs
  case case1 => rfl
  case case2 c => simp [dropEscapes]
  case case3 c d cs h ih => simp [dropEscapes, h, hq, ih]
  case case4 c d cs h ih => simp [dropEscapes, h, ih]

-- What is written never begins with a bare quote mark.
theorem head?_encodeAfter_ne {q : Char} (hq : q ≠ '\\') (odd : Bool) (cs : List Char) :
    (encodeAfter q odd cs).head? ≠ some q := by
  fun_cases encodeAfter q odd cs
  case case1 => simpa using hq.symm
  case case2 => simp
  case case3 => simpa using hq.symm
  case case4 cs _ => cases odd <;> simpa using hq.symm
  case case5 => simp_all

theorem dropEscapes_encodeAfter {q : Char} (hq : q ≠ '\\') (odd : Bool) (cs : List Char) :
    dropEscapes q (encodeAfter q odd cs) = padAfter q odd cs := by
  fun_induction encodeAfter q odd cs
  case case1 => simp [dropEscapes, padAfter]
  case case2 odd h => simp [dropEscapes, padAfter, h]
  case case3 odd cs ih => simp [dropEscapes, padAfter, head?_encodeAfter_ne hq, ih]
  case case4 odd cs _ ih => cases odd <;> simp [dropEscapes, padAfter, hq, hq.symm, ih]
  case case5 odd c cs hb hc ih => simp [dropEscapes, padAfter, hb, hc, ih]

-- Reading what was written gives the text with its odd runs padded.
theorem dropEscapes_encode {q : Char} (hq : q ≠ '\\') (cs : List Char) :
    dropEscapes q (encode q cs) = pad q cs :=
  dropEscapes_encodeAfter hq false cs

theorem oddAfter_encodeAfter {q : Char} (hq : q ≠ '\\') (odd : Bool) (cs : List Char) :
    oddAfter odd (encodeAfter q odd cs) = false := by
  fun_induction encodeAfter q odd cs
  case case1 => rfl
  case case2 odd h => simpa using h
  case case3 odd cs ih => simpa using ih
  case case4 odd cs _ ih => cases odd <;> simpa [hq] using ih
  case case5 odd c cs hb hc ih => simpa [hb] using ih

theorem allEscapedAfter_encodeAfter {q : Char} (hq : q ≠ '\\') (odd : Bool) (cs : List Char) :
    AllEscapedAfter q odd (encodeAfter q odd cs) := by
  fun_induction encodeAfter q odd cs
  case case1 => simp [allEscapedAfter_cons, allEscapedAfter_nil, hq.symm]
  case case2 odd h => exact allEscapedAfter_nil q odd
  case case3 odd cs ih => simpa [allEscapedAfter_cons, hq.symm] using ih
  case case4 odd cs _ ih =>
    cases odd <;> simpa [allEscapedAfter_cons, hq, hq.symm] using ih
  case case5 odd c cs hb hc ih => simpa [allEscapedAfter_cons, hb, hc] using ih

-- What was written between quote marks ends at the closing one.
theorem endsAt_encode {q : Char} (hq : q ≠ '\\') (cs behind : List Char) :
    EndsAt q (encode q cs) (q :: behind) where
  escaped := allEscaped_iff.2 (allEscapedAfter_encodeAfter hq false cs)
  stop := .inr ⟨behind, rfl, by simp [endsOdd_iff, encode, oddAfter_encodeAfter hq]⟩

end Decode

section Pad

variable {q : Char}

theorem hasOddRunAfter_append_singleton (odd : Bool) (cs : List Char) :
    hasOddRunAfter q odd (cs ++ ['\\']) = hasOddRunAfter q odd cs := by
  fun_induction hasOddRunAfter q odd cs
  case case1 => simp [hasOddRunAfter]
  case case2 => simp_all [hasOddRunAfter]
  case case3 => simp_all [hasOddRunAfter]

-- Without an odd run before a quote mark only the end is padded.
theorem padAfter_eq_of_not_hasOddRunAfter {odd : Bool} {cs : List Char}
    (h : hasOddRunAfter q odd cs = false) :
    padAfter q odd cs = cs ++ if oddAfter odd cs then ['\\'] else [] := by
  fun_induction hasOddRunAfter q odd cs
  case case1 => rfl
  case case2 odd cs ih => simpa [padAfter] using ih h
  case case3 odd c cs hb ih =>
    simp only [Bool.or_eq_false_iff, Bool.and_eq_false_imp, decide_eq_true_eq] at h
    have hc : ¬(c = q ∧ odd) := by simpa using h.1
    simp [padAfter, hb, hc, ih h.2]

theorem pad_eq_of_not_hasOddRun {cs : List Char} (h : hasOddRun q cs = false) :
    pad q cs = cs ++ if EndsOdd cs then ['\\'] else [] := by
  simpa [pad, endsOdd_iff] using padAfter_eq_of_not_hasOddRunAfter h

-- Padding leaves no odd run before a quote mark.
theorem hasOddRunAfter_padAfter (odd : Bool) (cs : List Char) :
    hasOddRunAfter q odd (padAfter q odd cs) = false := by
  fun_induction padAfter q odd cs
  case case1 => simp [hasOddRunAfter]
  case case2 => simp [hasOddRunAfter]
  case case3 => simpa [hasOddRunAfter]
  case case4 odd c cs hb hc ih =>
    simp only [hc.2] at ih ⊢
    simpa [hasOddRunAfter, hb] using ih
  case case5 odd c cs hb hc ih =>
    simp only [not_and, Bool.not_eq_true] at hc
    simpa [hasOddRunAfter, hb] using ⟨hc, ih⟩

-- A text is written in the same way when it has been padded before.
theorem encodeAfter_padAfter (odd : Bool) (cs : List Char) :
    encodeAfter q odd (padAfter q odd cs) = encodeAfter q odd cs := by
  fun_induction padAfter q odd cs
  case case1 => simp [encodeAfter]
  case case2 => simp [encodeAfter]
  case case3 => simpa [encodeAfter]
  case case4 odd c cs hb hc ih =>
    obtain ⟨rfl, rfl⟩ := hc
    simpa [encodeAfter, hb] using ih
  case case5 odd c cs hb hc ih => simp [encodeAfter, hb, ih]

theorem encode_pad (cs : List Char) : encode q (pad q cs) = encode q cs :=
  encodeAfter_padAfter false cs

-- What is read has no odd run before a quote mark, and ends as the text that it was read from. An
-- odd run does not go on into that text if it begins with a quote mark.
theorem hasOddRunAfter_decode (hq : q ≠ '\\') {odd : Bool} {cs : List Char}
    (hc : odd → cs.head? ≠ some q) (h : AllEscapedAfter q odd cs) :
    hasOddRunAfter q odd (decode q cs) = false ∧ oddAfter odd (decode q cs) = oddAfter odd cs := by
  fun_induction decode q cs generalizing odd
  case case1 => simp [hasOddRunAfter]
  case case2 c => cases odd <;> simp_all [hasOddRunAfter]
  case case3 c d cs hcd ih =>
    obtain ⟨rfl, rfl⟩ := hcd
    simp only [allEscapedAfter_cons] at h
    obtain ⟨-, heven, h⟩ := h
    have hodd : odd = false := by simpa using heven trivial
    simpa [hasOddRunAfter, hodd, hq] using @ih false (by simp) (by simpa [hq] using h)
  case case4 c d cs hcd ih =>
    rw [allEscapedAfter_cons] at h
    by_cases hb : c = '\\'
    · subst hb
      have hd : d ≠ q := fun hd => hcd ⟨rfl, hd⟩
      simpa [hasOddRunAfter] using @ih (!odd) (by simp [hd]) (by simpa using h.2)
    · have hcq : c = q → odd = false := by
        intro hcq
        simpa [hcq] using mt hc
      have := @ih false (by simp) (by simpa [hb] using h.2)
      simpa [hasOddRunAfter, hb, this] using hcq

end Pad

end EntitySearch.Quoted
