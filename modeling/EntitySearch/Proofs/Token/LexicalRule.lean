import EntitySearch.Proofs.Text.Quoted
import EntitySearch.Proofs.Text.Run
import EntitySearch.Token.Lexer

namespace EntitySearch

-- `LexicalRule rest kind text` holds if a token of this kind and text may stand before `rest`. An
-- unclosed quote may stand only at the end.
inductive LexicalRule (rest : List Char) : TokenKind → List Char → Prop
  | space {text : List Char} :
    (text ≠ []) → (LongestRun isBlank text rest) → LexicalRule rest .space text
  | symbol (s : Symbol) :
    LexicalRule rest (.symbol s) [s.toChar]
  | path {names : List Char} :
    (LongestRun isPathChar names rest) →
    LexicalRule rest (.path (String.ofList ('/' :: names))) ('/' :: names)
  | closed (q : QuoteMark) {inside : List Char} :
    (Quoted.AllEscaped q.toChar inside) → (¬Quoted.EndsOdd inside) →
    LexicalRule rest (.value (String.ofList (Quoted.dropEscapes q.toChar inside)) (some q))
      (q.toChar :: (inside ++ [q.toChar]))
  | unclosed (q : QuoteMark) {inside : List Char} :
    (Quoted.AllEscaped q.toChar inside) → (rest = []) →
    LexicalRule rest (.value (String.ofList (Quoted.dropEscapes q.toChar inside)) (some q))
      (q.toChar :: inside)
  | bare {text : List Char} :
    (text ≠ []) → (LongestRun isBareChar text rest) →
    (∀ c ∈ text.head?, c ≠ '/' ∧ ∀ q : QuoteMark, c ≠ q.toChar) →
    LexicalRule rest (.value (String.ofList text) none) text

theorem Symbol.isWhiteSpace_toChar (s : Symbol) : isWhiteSpace s.toChar = false := by
  cases s <;> decide

theorem QuoteMark.isWhiteSpace_toChar (q : QuoteMark) : isWhiteSpace q.toChar = false := by
  cases q <;> decide

theorem QuoteMark.toChar_ne_backslash (q : QuoteMark) : q.toChar ≠ '\\' := by
  cases q <;> decide

theorem isBareChar_iff {c : Char} : isBareChar c ↔ ¬isWhiteSpace c ∧ ¬isSymbol c := by
  simp [isBareChar]

theorem toNat_of_isWhiteSpace {c : Char} (h : isWhiteSpace c) :
    c.toNat ≤ 0x20 ∨ 0x85 ≤ c.toNat := by
  obtain ⟨r, hr, hlo, hhi⟩ := CharSet.contains_iff.1 h
  simp only [CharSet.whiteSpace, List.mem_cons, List.not_mem_nil, or_false] at hr
  rcases hr with rfl | rfl | rfl | rfl | rfl | rfl | rfl | rfl | rfl | rfl <;>
    simp at hlo hhi <;> omega

theorem toNat_of_isPathChar {c : Char} (h : isPathChar c) : 0x20 < c.toNat ∧ c.toNat < 0x85 := by
  have hu : c.isUpper = decide (65 ≤ c.val ∧ c.val ≤ 90) := rfl
  have hl : c.isLower = (decide (97 ≤ c.val) && decide (c.val ≤ 122)) := rfl
  have ha : c.isAlpha = (c.isUpper || c.isLower) := rfl
  simp only [isPathChar, isNameChar, Char.isAlphanum, ha, hu, hl, Char.isDigit, Bool.or_eq_true,
    Bool.and_eq_true, decide_eq_true_eq, UInt32.le_iff_toNat_le, ge_iff_le, Char.toNat_val] at h
  rcases h with ((((⟨h₁, h₂⟩ | ⟨h₁, h₂⟩) | ⟨h₁, h₂⟩) | rfl) | rfl)
  case inr     => decide
  case inl.inr => decide
  all_goals
    simp at h₁ h₂
    omega

theorem not_isPathChar_of_isWhiteSpace {c : Char} (h : isWhiteSpace c) : ¬isPathChar c := by
  intro hp
  have := toNat_of_isWhiteSpace h
  have := toNat_of_isPathChar hp
  omega

theorem isBareChar_of_isPathChar {c : Char} (h : isPathChar c) : isBareChar c := by
  refine isBareChar_iff.2 ⟨fun hw => not_isPathChar_of_isWhiteSpace hw h, fun hs => ?_⟩
  obtain ⟨s, rfl⟩ := isSymbol_iff.1 hs
  cases s <;> revert h <;> decide

-- A quote that begins with its mark and has no closing one.
def IsUnclosed (kind : TokenKind) (text : List Char) : Prop :=
  ∃ content q inside,
    (kind = .value content (some q)) ∧ (text = q.toChar :: inside) ∧
    Quoted.AllEscaped q.toChar inside

namespace LexicalRule

variable {rest rest' : List Char} {kind : TokenKind} {text : List Char}

theorem text_ne_nil (h : LexicalRule rest kind text) : text ≠ [] := by
  cases h <;> simp_all

-- Only the first character behind a token matters.
theorem of_head?_eq (h : LexicalRule rest kind text) (hr : rest.head? = rest'.head?) :
    LexicalRule rest' kind text := by
  have hrun {p run} (h : LongestRun p run rest) : LongestRun p run rest' := ⟨h.all, hr ▸ h.stops⟩
  cases h
  case space hn h         => exact .space hn (hrun h)
  case symbol s           => exact .symbol s
  case path h             => exact .path (hrun h)
  case closed q _ ha he   => exact .closed q ha he
  case unclosed q _ ha hn => exact .unclosed q ha (by simpa [hn] using hr.symm)
  case bare hn h hc       => exact .bare hn (hrun h) hc

theorem not_isUnclosed (h : LexicalRule rest kind text) (hr : rest ≠ []) :
    ¬IsUnclosed kind text := by
  rintro ⟨content, q, inside, hk, ht, ha⟩
  cases h <;> simp at hk
  case closed q' inside' ha' he =>
    obtain ⟨-, rfl⟩ := hk
    rw [List.cons.injEq] at ht
    exact he (ha inside' [] ht.2.symm)
  case unclosed hn => exact hr hn

-- What carries on no bare value ends all tokens but open quotes and, if it is blank, runs of
-- blanks.
theorem of_not_isBareChar (h : LexicalRule rest kind text) (hu : ¬IsUnclosed kind text)
    (hr : ∀ c ∈ rest'.head?, ¬isBareChar c ∧ (kind = .space → ¬isBlank c)) :
    LexicalRule rest' kind text := by
  cases h
  case space hn h =>
    exact .space hn ⟨h.all, fun c hc => (hr c hc).2 rfl⟩
  case symbol s => exact .symbol s
  case path h =>
    exact .path ⟨h.all, fun c hc => mt isBareChar_of_isPathChar (hr c hc).1⟩
  case closed q _ ha he => exact .closed q ha he
  case unclosed q inside ha hn => exact absurd ⟨_, q, inside, rfl, rfl, ha⟩ hu
  case bare hn h hc =>
    exact .bare hn ⟨h.all, fun c hc => (hr c hc).1⟩ hc

end LexicalRule

namespace Lexeme

section First

variable {c : Char} {cs rest inside : List Char} {l : Lexeme}

theorem run_eq {goesOn : Char → Bool} (kind : List Char → TokenKind)
    (h : LongestRun goesOn cs rest) :
    run kind goesOn c (cs ++ rest) = ({ kind := kind (c :: cs), text := c :: cs }, rest) := by
  rw [run, h.takeWhile_append, h.dropWhile_append]

theorem quoted_eq (q : QuoteMark) (h : Quoted.EndsAt q.toChar inside rest) :
    quoted q (inside ++ rest) =
      ({ kind := .value (String.ofList (Quoted.dropEscapes q.toChar inside)) (some q),
         text := q.toChar :: (inside ++ rest.take 1) }, rest.drop 1) := by
  have hs := (Quoted.split_eq_iff q.toChar_ne_backslash).2 ⟨rfl, h⟩
  simp [quoted, hs, Quoted.decode_eq_dropEscapes q.toChar_ne_backslash]

theorem first?_space (hc : isBlank c) (h : LongestRun isBlank cs rest) :
    first? (c :: (cs ++ rest)) = some ({ kind := .space, text := c :: cs }, rest) := by
  simp [first?, hc, run_eq _ h]

theorem first?_symbol (s : Symbol) :
    first? (s.toChar :: rest) = some ({ kind := .symbol s, text := [s.toChar] }, rest) := by
  cases s <;> rfl

theorem first?_path (h : LongestRun isPathChar cs rest) :
    first? ('/' :: (cs ++ rest)) =
      some ({ kind := .path (String.ofList ('/' :: cs)), text := '/' :: cs }, rest) := by
  have hb : isBlank '/' = false := by decide
  have hs : Symbol.ofChar? '/' = none := rfl
  simp [first?, hb, hs, run_eq _ h]

theorem first?_quote (q : QuoteMark) (cs : List Char) :
    first? (q.toChar :: cs) = some (quoted q cs) := by
  cases q <;> rfl

theorem first?_bare (hc : isBareChar c) (hn : c ≠ '/') (hq : ∀ q : QuoteMark, c ≠ q.toChar)
    (h : LongestRun isBareChar cs rest) :
    first? (c :: (cs ++ rest)) =
      some ({ kind := .value (String.ofList (c :: cs)) none, text := c :: cs }, rest) := by
  obtain ⟨hw, hs⟩ := isBareChar_iff.1 hc
  have hb : ¬isBlank c := mt isWhiteSpace_of_isBlank hw
  have hs : Symbol.ofChar? c = none := by simpa [isSymbol] using hs
  have hq : QuoteMark.ofChar? c = none :=
    Option.eq_none_iff_forall_ne_some.2 fun q h => hq q (QuoteMark.ofChar?_eq_some_iff.1 h).symm
  simp [first?, hb, hs, hn, hq, hw, run_eq _ h]

theorem lexicalRule_quoted (q : QuoteMark) (cs : List Char) :
    LexicalRule (quoted q cs).2 (quoted q cs).1.kind (quoted q cs).1.text := by
  have hs := Quoted.split_append q.toChar cs
  have he := Quoted.endsAt_split q.toChar_ne_backslash cs
  rw [← hs, quoted_eq q he]
  cases he.stop
  case inl hr =>
    simp only [hr, List.take_nil, List.append_nil]
    exact .unclosed q he.escaped rfl
  case inr hr =>
    obtain ⟨behind, hr, heven⟩ := hr
    simp only [hr, List.take_succ_cons, List.take_zero]
    exact .closed q he.escaped heven

theorem lexicalRule_of_first? (h : first? cs = some (l, rest)) :
    LexicalRule rest l.kind l.text := by
  cases cs
  case nil => cases h
  case cons c cs =>
    simp only [first?] at h
    split at h
    case isTrue hb =>
      cases h
      exact .space (List.cons_ne_nil _ _) ((LongestRun.of_takeWhile isBlank cs).cons hb)
    split at h
    case h_1 s hs =>
      cases h
      rw [← Symbol.ofChar?_eq_some_iff.1 hs]
      exact .symbol s
    split at h
    case isTrue hn =>
      cases h
      rw [hn]
      exact .path (LongestRun.of_takeWhile isPathChar cs)
    split at h
    case h_1 q hq =>
      cases h
      exact lexicalRule_quoted q cs
    split at h
    case isTrue => cases h
    case isFalse hb _ hs hn _ hq hw =>
      cases h
      have hs : ¬isSymbol c := by simpa [isSymbol, Option.eq_none_iff_forall_ne_some] using hs
      have hc : isBareChar c := isBareChar_iff.2 ⟨hw, hs⟩
      refine .bare (List.cons_ne_nil _ _) ((LongestRun.of_takeWhile isBareChar cs).cons hc) ?_
      rintro _ ⟨rfl⟩
      exact ⟨hn, fun q h => hq q (QuoteMark.ofChar?_eq_some_iff.2 h.symm)⟩

theorem first?_eq_some_iff :
    first? cs = some (l, rest) ↔ l.text ++ rest = cs ∧ LexicalRule rest l.kind l.text := by
  constructor
  case mp => exact fun h => ⟨append_of_first? h, lexicalRule_of_first? h⟩
  case mpr =>
    obtain ⟨kind, text⟩ := l
    rintro ⟨rfl, h : LexicalRule rest kind text⟩
    cases h
    case space hn h =>
      cases text
      case nil         => contradiction
      case cons c text => exact first?_space (h.all c List.mem_cons_self) h.tail
    case symbol s => exact first?_symbol s
    case path h => exact first?_path h
    case closed q inside ha he =>
      have := quoted_eq q ⟨ha, .inr ⟨rest, rfl, he⟩⟩
      simp [first?_quote, this]
    case unclosed q inside ha hr =>
      subst hr
      have := quoted_eq q ⟨ha, .inl rfl⟩
      simpa [first?_quote] using this
    case bare hn h hc =>
      cases text
      case nil         => contradiction
      case cons c text =>
        obtain ⟨hn, hq⟩ := hc c rfl
        exact first?_bare (h.all c List.mem_cons_self) hn hq h.tail

-- No token begins at the end, nor with white space that is no blank.
theorem first?_eq_none_iff : first? cs = none ↔ ∀ c ∈ cs.head?, isWhiteSpace c ∧ ¬isBlank c := by
  cases cs
  case nil => simp [first?]
  case cons c cs =>
    simp only [first?, List.head?_cons, Option.mem_def, Option.some.injEq, forall_eq']
    split
    case isTrue hb => simp [hb]
    split
    case h_1 s hs =>
      simp [← Symbol.ofChar?_eq_some_iff.1 hs, s.isWhiteSpace_toChar]
    split
    case isTrue hn =>
      have hw : isWhiteSpace '/' = false := by decide
      simp [hn, hw]
    split
    case h_1 q hq =>
      simp [← QuoteMark.ofChar?_eq_some_iff.1 hq, q.isWhiteSpace_toChar]
    split
    case isTrue hb _ _ _ _ _ hw => simp [hb, hw]
    case isFalse hb _ _ _ _ _ hw => simp [hw]

end First

end Lexeme

end EntitySearch
