import EntitySearch.Proofs.Token.Tokenization

namespace EntitySearch

namespace Quoted

section Escape

variable {q : Char} {odd : Bool} {cs : List Char}

-- A text with one more backslash before each quote mark.
def escapeMarks (q : Char) (cs : List Char) : List Char :=
  cs.flatMap fun c => if c = q then ['\\', c] else [c]

-- Holds if the run of backslashes right before each quote mark in a text is even.
def EvenAtMarks (q : Char) (cs : List Char) : Prop :=
  ∀ before after, cs = before ++ q :: after → ¬EndsOdd before

-- The same behind a run as told.
def EvenAtMarksAfter (q : Char) (odd : Bool) (cs : List Char) : Prop :=
  ∀ before after, cs = before ++ q :: after → ¬oddAfter odd before

theorem evenAtMarks_iff : EvenAtMarks q cs ↔ EvenAtMarksAfter q false cs := by
  simp only [EvenAtMarks, EvenAtMarksAfter, endsOdd_iff]

theorem evenAtMarksAfter_nil : EvenAtMarksAfter q odd [] := by
  intro before after h
  simp at h

theorem evenAtMarksAfter_cons {c : Char} :
    EvenAtMarksAfter q odd (c :: cs) ↔
      (c = q → ¬odd) ∧ EvenAtMarksAfter q (c = '\\' && !odd) cs := by
  constructor
  case mp =>
    intro h
    refine ⟨fun hc => h [] cs (by simp [hc]), fun before after hcs => ?_⟩
    simpa using h (c :: before) after (by simp [hcs])
  case mpr =>
    intro ⟨hc, h⟩ before after hcs
    cases before
    case nil => exact hc (List.cons.inj hcs).1
    case cons b before =>
      simp only [List.cons_append, List.cons.injEq] at hcs
      simpa [hcs.1] using h before after hcs.2

@[simp]
theorem escapeMarks_nil : escapeMarks q [] = [] := rfl

theorem escapeMarks_mark : escapeMarks q (q :: cs) = '\\' :: q :: escapeMarks q cs := by
  simp [escapeMarks]

theorem escapeMarks_cons {c : Char} (hc : c ≠ q) :
    escapeMarks q (c :: cs) = c :: escapeMarks q cs := by
  simp [escapeMarks, hc]

-- A text that is escaped never begins with a bare quote mark.
theorem head?_escapeMarks_ne (hq : q ≠ '\\') : (escapeMarks q cs).head? ≠ some q := by
  cases cs
  case nil => simp
  case cons c cs =>
    by_cases hc : c = q
    case pos => simpa [hc, escapeMarks_mark] using hq.symm
    case neg => simpa [escapeMarks_cons hc] using hc

theorem dropEscapes_escapeMarks (hq : q ≠ '\\') : dropEscapes q (escapeMarks q cs) = cs := by
  induction cs
  case nil => rfl
  case cons c cs ih =>
    by_cases hc : c = q
    case pos => simp [hc, escapeMarks_mark, dropEscapes, hq, ih]
    case neg => simp [escapeMarks_cons hc, dropEscapes, head?_escapeMarks_ne hq, ih]

-- The further backslashes do not change the run at the end.
theorem oddAfter_escapeMarks (hq : q ≠ '\\') :
    oddAfter odd (escapeMarks q cs) = oddAfter odd cs := by
  induction cs generalizing odd
  case nil => rfl
  case cons c cs ih =>
    by_cases hc : c = q
    case pos => simp [hc, escapeMarks_mark, hq, ih]
    case neg => simp [escapeMarks_cons hc, ih]

theorem endsOdd_escapeMarks (hq : q ≠ '\\') : EndsOdd (escapeMarks q cs) ↔ EndsOdd cs := by
  rw [endsOdd_iff, endsOdd_iff, oddAfter_escapeMarks hq]

-- One more backslash makes an even run odd.
theorem allEscapedAfter_escapeMarks (hq : q ≠ '\\') :
    AllEscapedAfter q odd (escapeMarks q cs) ↔ EvenAtMarksAfter q odd cs := by
  induction cs generalizing odd
  case nil => simp [allEscapedAfter_nil, evenAtMarksAfter_nil]
  case cons c cs ih =>
    rw [evenAtMarksAfter_cons]
    by_cases hc : c = q
    case pos => simp [hc, escapeMarks_mark, allEscapedAfter_cons, hq, hq.symm, ih]
    case neg => simp [hc, escapeMarks_cons hc, allEscapedAfter_cons, ih]

theorem allEscaped_escapeMarks (hq : q ≠ '\\') :
    AllEscaped q (escapeMarks q cs) ↔ EvenAtMarks q cs := by
  rw [allEscaped_iff, evenAtMarks_iff, allEscapedAfter_escapeMarks hq]

-- Where all quote marks are escaped, reading takes away the one backslash that stands before each.
theorem escapeMarks_decode (hn : cs.head? ≠ some q) (h : AllEscapedAfter q odd cs) :
    escapeMarks q (decode q cs) = cs := by
  fun_induction decode q cs generalizing odd
  case case1   => rfl
  case case2 c => exact escapeMarks_cons (by simpa using hn)
  case case3 c d cs hcd ih =>
    obtain ⟨rfl, rfl⟩ := hcd
    simp only [allEscapedAfter_cons] at h
    rw [escapeMarks_mark, ih ?_ h.2.2]
    -- No run of backslashes goes on behind the mark.
    rintro hcs
    obtain ⟨ds, rfl⟩ := List.head?_eq_some_iff.1 hcs
    have hd := h.2.2 [] ds rfl
    simp_all
  case case4 c d cs hcd ih =>
    have hc : c ≠ q := by simpa using hn
    rw [allEscapedAfter_cons] at h
    rw [escapeMarks_cons hc, ih ?_ h.2]
    rintro hd
    obtain rfl : d = q := by simpa using hd
    have ho := h.2 [] cs rfl
    simp_all

-- A text is the content of one inside of a quote at most.
theorem allEscaped_and_dropEscapes_iff {inside : List Char} (hq : q ≠ '\\') :
    (AllEscaped q inside ∧ dropEscapes q inside = cs) ↔
      (EvenAtMarks q cs ∧ inside = escapeMarks q cs) := by
  constructor
  case mp =>
    rintro ⟨ha, rfl⟩
    have hn : inside.head? ≠ some q := by
      intro hi
      obtain ⟨ds, rfl⟩ := List.head?_eq_some_iff.1 hi
      exact absurd (ha [] ds rfl) (by decide)
    have he := escapeMarks_decode hn (allEscaped_iff.1 ha)
    rw [decode_eq_dropEscapes hq] at he
    exact ⟨(allEscaped_escapeMarks hq).1 (he.symm ▸ ha), he.symm⟩
  case mpr =>
    rintro ⟨he, rfl⟩
    exact ⟨(allEscaped_escapeMarks hq).2 he, dropEscapes_escapeMarks hq⟩

end Escape

end Quoted

section Content

open Quoted

variable {q : QuoteMark} {content : String} {rest text : List Char} {kind : TokenKind}
  {t : Token}

-- What stands in a source for a value between quote marks, or behind one that is not closed.
def quotedText (q : QuoteMark) (closed : Bool) (content : String) : List Char :=
  q.toChar :: (escapeMarks q.toChar content.toList ++ if closed then [q.toChar] else [])

-- A token for a value between quote marks.
def Token.IsClosedQuote (t : Token) (q : QuoteMark) (content : String) : Prop :=
  (t.kind = .value content (some q)) ∧ ¬IsUnclosed t.kind t.text.toList

-- A token for a value behind a quote mark that is not closed.
def Token.IsOpenQuote (t : Token) (q : QuoteMark) (content : String) : Prop :=
  (t.kind = .value content (some q)) ∧ IsUnclosed t.kind t.text.toList

theorem not_isUnclosed_of_closed {inside : List Char} (he : ¬EndsOdd inside) :
    ¬IsUnclosed (.value content (some q)) (q.toChar :: (inside ++ [q.toChar])) := by
  rintro ⟨content', q', inside', hk, ht, ha⟩
  obtain ⟨-, rfl⟩ : content = content' ∧ q = q' := by simpa using hk
  exact he (ha inside [] (List.cons.inj ht).2.symm)

theorem lexicalRule_closed_iff :
    (LexicalRule rest (.value content (some q)) text ∧
      ¬IsUnclosed (.value content (some q)) text) ↔
    (EvenAtMarks q.toChar content.toList) ∧ (¬EndsOdd content.toList) ∧
      (text = quotedText q true content) := by
  have hq := q.toChar_ne_backslash
  constructor
  case mp =>
    rintro ⟨hr, hu⟩
    cases hr
    case closed inside he ha =>
      obtain ⟨hm, hi⟩ := (allEscaped_and_dropEscapes_iff hq).1 ⟨ha, rfl⟩
      rw [String.toList_ofList]
      refine ⟨hm, ?_, ?_⟩
      · rwa [hi, endsOdd_escapeMarks hq] at he
      · rw [quotedText, String.toList_ofList, ← hi, if_pos rfl]
    case unclosed inside _ ha => exact absurd ⟨_, q, inside, rfl, rfl, ha⟩ hu
  case mpr =>
    rintro ⟨hm, he, rfl⟩
    rw [← endsOdd_escapeMarks hq] at he
    have hr : LexicalRule rest _ _ := .closed q ((allEscaped_escapeMarks hq).2 hm) he
    rw [dropEscapes_escapeMarks hq, String.ofList_toList] at hr
    exact ⟨hr, not_isUnclosed_of_closed he⟩

theorem lexicalRule_unclosed_iff :
    (LexicalRule rest (.value content (some q)) text ∧
      IsUnclosed (.value content (some q)) text) ↔
    (EvenAtMarks q.toChar content.toList) ∧ (rest = []) ∧ (text = quotedText q false content) := by
  have hq := q.toChar_ne_backslash
  constructor
  case mp =>
    rintro ⟨hr, hu⟩
    cases hr
    case closed inside he ha => exact absurd hu (not_isUnclosed_of_closed he)
    case unclosed inside hn ha =>
      obtain ⟨hm, hi⟩ := (allEscaped_and_dropEscapes_iff hq).1 ⟨ha, rfl⟩
      refine ⟨by rwa [String.toList_ofList], hn, ?_⟩
      rw [quotedText, String.toList_ofList, ← hi, if_neg Bool.false_ne_true, List.append_nil]
  case mpr =>
    rintro ⟨hm, rfl, rfl⟩
    have ha := (allEscaped_escapeMarks hq).2 hm
    have hr : LexicalRule [] _ _ := .unclosed q ha rfl
    rw [dropEscapes_escapeMarks hq, String.ofList_toList] at hr
    rw [quotedText, if_neg Bool.false_ne_true, List.append_nil]
    exact ⟨hr, content, q, _, rfl, rfl, ha⟩

theorem Token.isClosedQuote_iff (hr : LexicalRule rest t.kind t.text.toList) :
    t.IsClosedQuote q content ↔
      (t.kind = .value content (some q)) ∧ (EvenAtMarks q.toChar content.toList) ∧
        (¬EndsOdd content.toList) ∧ (t.text.toList = quotedText q true content) := by
  refine and_congr_right fun hk => ?_
  rw [hk] at hr ⊢
  exact (and_iff_right hr).symm.trans lexicalRule_closed_iff

theorem Token.isOpenQuote_iff (hr : LexicalRule rest t.kind t.text.toList) :
    t.IsOpenQuote q content ↔
      (t.kind = .value content (some q)) ∧ (EvenAtMarks q.toChar content.toList) ∧
        (rest = []) ∧ (t.text.toList = quotedText q false content) := by
  refine and_congr_right fun hk => ?_
  rw [hk] at hr ⊢
  exact (and_iff_right hr).symm.trans lexicalRule_unclosed_iff

-- A text that is a token by the rules is read as this token alone.
theorem tokenize_of_lexicalRule (hr : LexicalRule [] kind text) :
    ∃ t, (tokenize (String.ofList text) = .ok [t]) ∧ (t.kind = kind) ∧ (t.text.toList = text) := by
  let l : Lexeme := { kind := kind, text := text }
  have hl : lexemes text = ([l], []) :=
    Lexeme.lexemes_eq_iff.2 ⟨by simp [l], Lexeme.tile_cons.2 ⟨hr, Lexeme.tile_nil _⟩, rfl⟩
  have ht : tokenize (String.ofList text) = .ok (Token.place .start [l]) := by
    rw [tokenize, String.toList_ofList, hl]
  exact ⟨_, ht, rfl, String.toList_ofList⟩

-- Behind a token stands nothing if its rule allows nothing there.
theorem eq_nil_of_tokenize {source : String} {before behind : List Token}
    (ht : tokenize source = .ok (before ++ t :: behind))
    (hn : (String.join (behind.map Token.text)).toList = []) : behind = [] := by
  cases behind
  case nil => rfl
  case cons u behind =>
    have hr := (tokenize_eq_ok_iff_isTokenization.1 ht).ruled (before ++ [t]) u behind (by simp)
    have := hr.text_ne_nil
    simp_all [String.toList_join]

-- Some text has a value as the content of a closed quote just if all runs of backslashes before
-- quote marks in it and the run at its end are even, and some text ends in a quote with this
-- content that is not closed just if those before quote marks are. The quote is then written in one
-- way.
theorem quoted_contents (q : QuoteMark) (content : String) :
    ((∃ source t, (tokenize source = .ok [t]) ∧ t.IsClosedQuote q content) ↔
      EvenAtMarks q.toChar content.toList ∧ ¬EndsOdd content.toList) ∧
    ((∃ source ts t, (tokenize source = .ok (ts ++ [t])) ∧ t.IsOpenQuote q content) ↔
      EvenAtMarks q.toChar content.toList) ∧
    ∀ source before t behind, tokenize source = .ok (before ++ t :: behind) →
      (t.IsClosedQuote q content → t.text.toList = quotedText q true content) ∧
      (t.IsOpenQuote q content → behind = [] ∧ t.text.toList = quotedText q false content) := by
  have rule {source : String} (before : List Token) {behind : List Token} {t : Token}
      (ht : tokenize source = .ok (before ++ t :: behind)) :=
    (tokenize_eq_ok_iff_isTokenization.1 ht).ruled before t behind rfl
  refine ⟨⟨?_, ?_⟩, ⟨?_, ?_⟩, fun source before t behind ht => ⟨?_, ?_⟩⟩
  case refine_1 =>
    rintro ⟨source, t, ht, hc⟩
    obtain ⟨-, hm, he, -⟩ := (Token.isClosedQuote_iff (rule [] ht)).1 hc
    exact ⟨hm, he⟩
  case refine_2 =>
    rintro ⟨hm, he⟩
    obtain ⟨hr, -⟩ := lexicalRule_closed_iff.2 ⟨hm, he, rfl⟩
    obtain ⟨t, ht, hk, hx⟩ := tokenize_of_lexicalRule hr
    exact ⟨_, t, ht, (Token.isClosedQuote_iff (rule [] ht)).2 ⟨hk, hm, he, hx⟩⟩
  case refine_3 =>
    rintro ⟨source, ts, t, ht, ho⟩
    exact ((Token.isOpenQuote_iff (rule ts ht)).1 ho).2.1
  case refine_4 =>
    intro hm
    obtain ⟨hr, -⟩ := lexicalRule_unclosed_iff.2 ⟨hm, rfl, rfl⟩
    obtain ⟨t, ht, hk, hx⟩ := tokenize_of_lexicalRule hr
    exact ⟨_, [], t, ht, (Token.isOpenQuote_iff (rule [] ht)).2 ⟨hk, hm, rfl, hx⟩⟩
  case refine_5 => exact fun hc => ((Token.isClosedQuote_iff (rule before ht)).1 hc).2.2.2
  case refine_6 =>
    intro ho
    obtain ⟨-, -, hn, hx⟩ := (Token.isOpenQuote_iff (rule before ht)).1 ho
    exact ⟨eq_nil_of_tokenize ht hn, hx⟩

end Content

end EntitySearch
