import EntitySearch.Proofs.Json.Spelling
import EntitySearch.Proofs.Text.Run

namespace EntitySearch.Json

section Scanning

theorem hexDigit?_of_hexDigit {c : Char} {n : Nat} (h : HexDigit c n) : hexDigit? c = some n := by
  have hl : ∀ n < 16, hexDigit? (Nat.digitChar n) = some n := by decide
  have hu : ∀ n < 16, hexDigit? (Nat.digitChar n).toUpper = some n := by decide
  cases h
  case lower h => exact hl n h
  case upper h => exact hu n h

theorem unit?_of_hexUnit {digits : List Char} {n : Nat} (h : HexUnit digits n)
    (rest : List Char) : unit? (digits ++ rest) = .ok (n, rest) := by
  cases h
  case intro ha hb hc hd =>
    simp [unit?, hexUnit?, hexDigit?_of_hexDigit ha, hexDigit?_of_hexDigit hb,
      hexDigit?_of_hexDigit hc, hexDigit?_of_hexDigit hd]

theorem escaped?_of_short {e c : Char} (h : (e, c) ∈ shortEscapes) : escaped? e = some c := by
  have hall : ∀ p ∈ shortEscapes, escaped? p.1 = some p.2 := by decide
  exact hall _ h

theorem ne_of_short {e c : Char} (h : (e, c) ∈ shortEscapes) : e ≠ 'u' := by
  have hall : ∀ p ∈ shortEscapes, p.1 ≠ 'u' := by decide
  exact hall _ h

theorem scanEscape_short {e c : Char} (h : (e, c) ∈ shortEscapes) (rest : List Char) :
    scanEscape (e :: rest) = .char c rest := by
  rw [scanEscape]
  · simp [escaped?_of_short h]
  · exact ne_of_short h

theorem scanEscape_unit {digits : List Char} {n : Nat} (h : HexUnit digits n)
    (rest : List Char) :
    scanEscape ('u' :: (digits ++ rest)) =
      if isLead n then scanTrail n rest else if isTrail n then .half rest
      else .char (.ofNat n) rest := by
  rw [scanEscape, unit?_of_hexUnit h]

theorem scanTrail_unit {digits : List Char} {n : Nat} (h : HexUnit digits n) (lead : Nat)
    (rest : List Char) :
    scanTrail lead ('\\' :: 'u' :: (digits ++ rest)) =
      if isTrail n then .char (ofPair lead n) rest else .half rest := by
  rw [scanTrail, unit?_of_hexUnit h]

theorem scanString_quote (rest : List Char) :
    scanString ('"' :: rest) = .closed (some []) rest := by
  rw [scanString]

theorem scanString_plain {c : Char} (h : IsPlain c) (rest : List Char) :
    scanString (c :: rest) = (scanString rest).after c := by
  rw [scanString]
  · exact if_neg (Char.not_lt.2 h.printable)
  · exact h.not_quote
  · exact h.not_backslash

theorem scanString_char {cs rest : List Char} {c : Char} (h : scanEscape cs = .char c rest) :
    scanString ('\\' :: cs) = (scanString rest).after c := by
  rw [scanString]
  split <;> simp_all

theorem scanString_half {cs rest : List Char} (h : scanEscape cs = .half rest) :
    scanString ('\\' :: cs) = (scanString rest).unreadable := by
  rw [scanString]
  split <;> simp_all

end Scanning

section Strings

theorem isSurrogate_toNat (c : Char) : isLead c.toNat = false ∧ isTrail c.toNat = false := by
  have hv := c.valid
  have hn : c.toNat = c.val.toNat := rfl
  simp only [UInt32.isValidChar, Nat.isValidChar] at hv
  simp only [isLead, isTrail, hn, Bool.and_eq_false_iff, decide_eq_false_iff_not]
  omega

-- A character is read back from what spells it.
theorem scanString_of_spellsChar {piece : List Char} {c : Char} (h : SpellsChar piece c)
    (rest : List Char) : scanString (piece ++ rest) = (scanString rest).after c := by
  cases h
  case plain h => exact scanString_plain h rest
  case short h => exact scanString_char (scanEscape_short h rest)
  case unit digits h =>
    refine scanString_char ((scanEscape_unit h rest).trans ?_)
    simp [isSurrogate_toNat]
  case pair digits more high low hh hl h h' hc =>
    have hp : ofPair (0xD800 + high) (0xDC00 + low) = c := by
      have hn : (0xD800 + high - 0xD800) * 0x400 + (0xDC00 + low - 0xDC00) + 0x10000 = c.toNat := by
        omega
      rw [ofPair, hn, Char.ofNat_toNat]
    have hlead : isLead (0xD800 + high) = true := by
      simp only [isLead, Bool.and_eq_true, decide_eq_true_eq]
      omega
    have htrail : isTrail (0xDC00 + low) = true := by
      simp only [isTrail, Bool.and_eq_true, decide_eq_true_eq]
      omega
    rw [List.cons_append, List.cons_append, List.append_assoc]
    refine scanString_char ((scanEscape_unit h _).trans ?_)
    rw [if_pos hlead, List.cons_append, List.cons_append, scanTrail_unit h', if_pos htrail, hp]

theorem scanString_of_forall₂ {pieces : List (List Char)} {cs : List Char}
    (h : List.Forall₂ SpellsChar pieces cs) (rest : List Char) :
    scanString (pieces.flatten ++ '"' :: rest) = .closed (some cs) rest := by
  induction h
  case nil => exact scanString_quote rest
  case cons h _ ih =>
    rw [List.flatten_cons, List.append_assoc, scanString_of_spellsChar h, ih]
    rfl

-- Holds of a string that is closed before `rest`, readable or not.
def ClosesBefore (rest : List Char) (s : Scan) : Prop :=
  ∃ content, s = .closed content rest

theorem ClosesBefore.after {rest : List Char} {s : Scan} (h : ClosesBefore rest s) (c : Char) :
    ClosesBefore rest (s.after c) := by
  obtain ⟨content, rfl⟩ := h
  exact ⟨_, rfl⟩

theorem ClosesBefore.unreadable {rest : List Char} {s : Scan} (h : ClosesBefore rest s) :
    ClosesBefore rest s.unreadable := by
  obtain ⟨content, rfl⟩ := h
  exact ⟨_, rfl⟩

theorem scanTrail_half {cs : List Char} (lead : Nat) (hne : cs ≠ []) (hb : cs ≠ ['\\'])
    (hu : ∀ rest, cs ≠ '\\' :: 'u' :: rest) : scanTrail lead cs = .half cs := by
  rw [scanTrail]
  · exact hne
  · exact hb
  · exact hu

-- The first half of a surrogate pair takes an escape of four digits along, if one follows.
theorem scanTrail_pieces (lead : Nat) {pieces : List (List Char)}
    (h : ∀ piece ∈ pieces, IsPiece piece) (rest : List Char) :
    (∃ digits n more, pieces = ('\\' :: 'u' :: digits) :: more ∧ HexUnit digits n) ∨
      scanTrail lead (pieces.flatten ++ '"' :: rest) = .half (pieces.flatten ++ '"' :: rest) := by
  cases pieces
  case nil => exact .inr (scanTrail_half lead (by simp) (by simp) (by simp))
  case cons piece more =>
    cases h piece List.mem_cons_self
    case plain c hc =>
      have hne := hc.not_backslash
      exact .inr (scanTrail_half lead (by simp) (by simp) (by simp [hne]))
    case short e c he =>
      have hne := ne_of_short he
      exact .inr (scanTrail_half lead (by simp) (by simp) (by simp [hne]))
    case unit digits n hn => exact .inl ⟨digits, n, more, rfl, hn⟩

theorem closesBefore_pieces {pieces : List (List Char)} (h : ∀ piece ∈ pieces, IsPiece piece)
    (rest : List Char) : ClosesBefore rest (scanString (pieces.flatten ++ '"' :: rest)) := by
  match pieces with
  | [] => exact ⟨_, scanString_quote rest⟩
  | piece :: pieces =>
    rw [List.forall_mem_cons] at h
    have ih := closesBefore_pieces h.2 rest
    rw [List.flatten_cons, List.append_assoc]
    cases h.1
    case plain c hc => exact scanString_plain hc _ ▸ ih.after c
    case short c he => exact scanString_char (scanEscape_short he _) ▸ ih.after c
    case unit digits n hn =>
      have he := scanEscape_unit hn (pieces.flatten ++ '"' :: rest)
      by_cases hl : isLead n
      case neg =>
        rw [if_neg hl] at he
        split at he
        case isTrue  => exact scanString_half he ▸ ih.unreadable
        case isFalse => exact scanString_char he ▸ ih.after _
      case pos =>
        rw [if_pos hl] at he
        cases scanTrail_pieces n h.2 rest
        case inr ht => exact scanString_half (he.trans ht) ▸ ih.unreadable
        case inl ht =>
          obtain ⟨digits', n', more, rfl, hn'⟩ := ht
          have ih' := closesBefore_pieces (List.forall_mem_cons.1 h.2).2 rest
          have hr : (('\\' :: 'u' :: digits') :: more).flatten ++ '"' :: rest =
              '\\' :: 'u' :: (digits' ++ (more.flatten ++ '"' :: rest)) := by simp
          rw [hr] at he ⊢
          rw [scanTrail_unit hn'] at he
          split at he
          case isTrue  => exact scanString_char he ▸ ih'.after _
          case isFalse => exact scanString_half he ▸ ih'.unreadable
termination_by pieces.length

end Strings

section Numbers

-- Holds of a text that does not go on with a number that stands before it.
def EndsNumber (rest : List Char) : Prop :=
  ∀ c ∈ rest.head?, c.isDigit = false ∧ c ≠ '.' ∧ c ≠ 'e' ∧ c ≠ 'E'

variable {text rest : List Char}

theorem digits_append {ds : List Char} (h : IsDigits ds)
    (hr : ∀ c ∈ rest.head?, c.isDigit = false) : digits (ds ++ rest) = (ds, rest) := by
  have hl : LongestRun Char.isDigit ds rest := ⟨h.all, fun c hc => by simp [hr c hc]⟩
  rw [digits, hl.takeWhile_append, hl.dropWhile_append]

theorem scanWhole_append (h : IsWhole text) (hr : ∀ c ∈ rest.head?, c.isDigit = false) :
    scanWhole (text ++ rest) = .ok (text, rest) := by
  rw [scanWhole, digits_append h.digits hr]
  split
  case h_1 heq => exact absurd (Prod.mk.inj heq).1 h.digits.nonempty
  case h_2 heq =>
    have ht := (Prod.mk.inj heq).1
    have hz := h.zero (by rw [ht]; rfl)
    simp [hz] at ht
  case h_3 heq => rw [← heq]

theorem scanFraction_append (h : IsFraction text)
    (hr : ∀ c ∈ rest.head?, c.isDigit = false ∧ c ≠ '.') :
    ∃ ds, scanFraction (text ++ rest) = .ok (ds, rest) := by
  cases h
  case none =>
    refine ⟨none, ?_⟩
    rw [List.nil_append, scanFraction]
    rintro cs rfl
    exact (hr '.' rfl).2 rfl
  case some ds hd =>
    refine ⟨some ds, ?_⟩
    rw [List.cons_append, scanFraction, digits_append hd fun c hc => (hr c hc).1]
    split
    case h_1 heq => exact absurd (Prod.mk.inj heq).1 hd.nonempty
    case h_2 heq => rw [(Prod.mk.inj heq).1, (Prod.mk.inj heq).2]

theorem scanSign_append {sign ds : List Char} (h : sign ∈ [[], ['+'], ['-']]) (hd : IsDigits ds)
    (rest : List Char) : (scanSign (sign ++ (ds ++ rest))).2 = ds ++ rest := by
  cases ds
  case nil => exact absurd rfl hd.nonempty
  case cons d ds =>
    have hn := hd.all d List.mem_cons_self
    simp only [List.mem_cons, List.not_mem_nil, or_false] at h
    rcases h with rfl | rfl | rfl
    · have hne {c : Char} (hc : c.isDigit = false) : ∀ cs, d :: (ds ++ rest) = c :: cs → False := by
        intro cs he
        rw [(List.cons.inj he).1, hc] at hn
        cases hn
      rw [List.nil_append, List.cons_append, scanSign]
      · exact hne rfl
      · exact hne rfl
    · rfl
    · rfl

theorem scanExponent_append (h : IsExponent text) (hr : EndsNumber rest) :
    ∃ n, scanExponent (text ++ rest) = .ok (n, rest) := by
  cases h
  case none =>
    cases rest
    case nil => exact ⟨none, rfl⟩
    case cons c rest =>
      have hc := hr c rfl
      exact ⟨none, by simp [scanExponent, hc]⟩
  case some e sign ds he hs hd =>
    have hc : (decide (e = 'e') || decide (e = 'E')) = true := by simpa using he
    rw [List.cons_append, List.append_assoc, scanExponent, if_pos hc, scanSign_append hs hd,
      digits_append hd fun c hc => (hr c hc).1]
    split
    case h_1 heq => exact absurd (Prod.mk.inj heq).1 hd.nonempty
    case h_2 heq => exact ⟨_, by rw [(Prod.mk.inj heq).2]⟩

theorem head?_exponent_append (h : IsExponent text) (hr : EndsNumber rest) :
    ∀ c ∈ (text ++ rest).head?, c.isDigit = false ∧ c ≠ '.' := by
  cases h
  case none => exact fun c hc => ⟨(hr c hc).1, (hr c hc).2.1⟩
  case some e sign ds he hs hd =>
    rintro c ⟨rfl⟩
    simp only [List.mem_cons, List.not_mem_nil, or_false] at he
    rcases he with rfl | rfl <;> decide

theorem head?_fraction_append (h : IsFraction text)
    (hr : ∀ c ∈ rest.head?, c.isDigit = false ∧ c ≠ '.') :
    ∀ c ∈ (text ++ rest).head?, c.isDigit = false := by
  cases h
  case none => exact fun c hc => (hr c hc).1
  case some =>
    rintro c ⟨rfl⟩
    rfl

theorem scanNumber_append (h : IsNumber text) (hr : EndsNumber rest) :
    ∃ n, scanNumber (text ++ rest) = .ok (n, rest) := by
  cases h
  case intro sign whole fraction exponent hs hw hf he =>
    have hu (negative : Bool) :
        ∃ n, scanUnsigned negative (whole ++ (fraction ++ (exponent ++ rest))) = .ok (n, rest) := by
      have he' := head?_exponent_append he hr
      obtain ⟨ds, hds⟩ := scanFraction_append hf he'
      obtain ⟨n, hn⟩ := scanExponent_append he hr
      rw [scanUnsigned, scanWhole_append hw (head?_fraction_append hf he')]
      exact ⟨_, by simp only [bind, Except.bind, hds, hn]; rfl⟩
    simp only [List.append_assoc]
    simp only [List.mem_cons, List.not_mem_nil, or_false] at hs
    rcases hs with rfl | rfl
    case inl =>
      rw [List.nil_append, scanNumber]
      · exact hu false
      · intro cs hc
        obtain ⟨d, ds, rfl⟩ := List.exists_cons_of_ne_nil hw.digits.nonempty
        have hd := hw.digits.all d List.mem_cons_self
        rw [(List.cons.inj hc).1] at hd
        exact absurd hd (by decide)
    case inr => exact hu true

-- A number begins with a sign or a digit.
theorem IsNumber.exists_cons (h : IsNumber text) :
    ∃ c cs, text = c :: cs ∧ (c = '-' ∨ c.isDigit) := by
  cases h
  case intro sign whole fraction exponent hs hw hf he =>
    obtain ⟨d, ds, rfl⟩ := List.exists_cons_of_ne_nil hw.digits.nonempty
    simp only [List.mem_cons, List.not_mem_nil, or_false] at hs
    rcases hs with rfl | rfl
    case inl => exact ⟨d, _, rfl, .inr (hw.digits.all d List.mem_cons_self)⟩
    case inr => exact ⟨'-', _, rfl, .inl rfl⟩

end Numbers

section Tokens

theorem tokens_space {c : Char} (h : isSpace c) (cs : List Char) :
    tokens (c :: cs) = tokens cs := by
  rw [tokens, if_pos h]

theorem tokens_gap {gap : List Char} (h : IsGap gap) (cs : List Char) :
    tokens (gap ++ cs) = tokens cs := by
  induction gap
  case nil => rfl
  case cons c gap ih =>
    rw [IsGap, List.forall_mem_cons] at h
    rw [List.cons_append, tokens_space h.1, ih h.2]

theorem tokens_of_token {c : Char} {cs rest : List Char} {t : Token} (hc : isSpace c = false)
    (ht : token c cs = (t, rest)) : tokens (c :: cs) = t :: tokens rest := by
  rw [tokens, hc, ht]
  rfl

@[simp]
theorem tokens_openBrace (cs : List Char) : tokens ('\x7b' :: cs) = .openBrace :: tokens cs :=
  tokens_of_token (by decide) rfl

@[simp]
theorem tokens_closeBrace (cs : List Char) : tokens ('\x7d' :: cs) = .closeBrace :: tokens cs :=
  tokens_of_token (by decide) rfl

@[simp]
theorem tokens_openBracket (cs : List Char) : tokens ('[' :: cs) = .openBracket :: tokens cs :=
  tokens_of_token (by decide) rfl

@[simp]
theorem tokens_closeBracket (cs : List Char) : tokens (']' :: cs) = .closeBracket :: tokens cs :=
  tokens_of_token (by decide) rfl

@[simp]
theorem tokens_comma (cs : List Char) : tokens (',' :: cs) = .comma :: tokens cs :=
  tokens_of_token (by decide) rfl

@[simp]
theorem tokens_colon (cs : List Char) : tokens (':' :: cs) = .colon :: tokens cs :=
  tokens_of_token (by decide) rfl

theorem tokens_of_spellsString {text : List Char} {s : String} (h : SpellsString text s)
    (rest : List Char) : tokens (text ++ rest) = .string (some s) :: tokens rest := by
  cases h
  case intro pieces hp =>
    have hl : '"' :: (pieces.flatten ++ ['"']) ++ rest =
        '"' :: (pieces.flatten ++ '"' :: rest) := by
      simp
    rw [hl]
    refine tokens_of_token (by decide) ?_
    rw [token, scanString_of_forall₂ hp]
    simp

theorem tokens_of_isString {text : List Char} (h : IsString text) (rest : List Char) :
    ∃ content, tokens (text ++ rest) = .string content :: tokens rest := by
  cases h
  case intro pieces hp =>
    have hl : '"' :: (pieces.flatten ++ ['"']) ++ rest =
        '"' :: (pieces.flatten ++ '"' :: rest) := by
      simp
    obtain ⟨content, hc⟩ := closesBefore_pieces hp rest
    rw [hl]
    refine ⟨content.map String.ofList, tokens_of_token (by decide) ?_⟩
    rw [token, hc]

theorem token_of_number {c : Char} (h : c = '-' ∨ c.isDigit) (cs : List Char) :
    token c cs =
      match scanNumber (c :: cs) with
      | .ok (n, rest) => (.number n.value?, rest)
      | .error f      => (.brokenNumber f, []) := by
  have hne {d : Char} (hd : d ≠ '-') (hd' : d.isDigit = false) : c ≠ d := by
    rintro rfl
    exact h.elim hd fun h => by simp [hd'] at h
  have hc : (decide (c = '-') || c.isDigit) = true := by simpa using h
  rw [token]
  · exact if_pos hc
  all_goals refine hne ?_ ?_ <;> decide

theorem tokens_of_isNumber {text rest : List Char} (h : IsNumber text) (hr : EndsNumber rest) :
    ∃ n, tokens (text ++ rest) = .number n :: tokens rest := by
  obtain ⟨n, hn⟩ := scanNumber_append h hr
  obtain ⟨c, cs, rfl, hc⟩ := h.exists_cons
  have hs : isSpace c = false := by
    rw [isSpace, Bool.eq_false_iff]
    intro hs
    simp only [Bool.or_eq_true, decide_eq_true_eq] at hs
    rcases hs with ((rfl | rfl) | rfl) | rfl <;> exact absurd hc (by decide)
  rw [List.cons_append] at hn ⊢
  refine ⟨n.value?, tokens_of_token hs ?_⟩
  rw [token_of_number hc, hn]

theorem tokens_of_word {text : List Char}
    (h : text ∈ ["null".toList, "true".toList, "false".toList]) (rest : List Char) :
    ∃ t, (t = .null ∨ ∃ b, t = .bool b) ∧ tokens (text ++ rest) = t :: tokens rest := by
  simp only [List.mem_cons, List.not_mem_nil, or_false] at h
  rcases h with rfl | rfl | rfl
  · exact ⟨.null, .inl rfl, tokens_of_token (by decide) rfl⟩
  · exact ⟨.bool true, .inr ⟨true, rfl⟩, tokens_of_token (by decide) rfl⟩
  · exact ⟨.bool false, .inr ⟨false, rfl⟩, tokens_of_token (by decide) rfl⟩

end Tokens

end EntitySearch.Json
