import EntitySearch.Proofs.Expression.Failure
import EntitySearch.Proofs.Query.Names
import EntitySearch.Proofs.Text.Line

namespace EntitySearch

-- Holds of a place in a text at which no blank stands.
def Solid (source : String) (p : Position) : Prop :=
  ∃ before after, (source.toList = before ++ after) ∧ (p = Position.start.advance before) ∧
    ∀ c ∈ after.head?, ¬isBlank c

section Places

variable {source : String} {ts : List Token}

theorem solid_endOf (source : String) : Solid source (.endOf source) :=
  ⟨source.toList, [], by simp, rfl, by simp⟩

theorem LexicalRule.not_isBlank {rest text : List Char} {kind : TokenKind}
    (h : LexicalRule rest kind text) (hk : kind ≠ .space) : ∀ c ∈ text.head?, ¬isBlank c := by
  intro c hc hb
  have hw := isWhiteSpace_of_isBlank hb
  cases h <;> simp only [List.head?_cons, Option.mem_def, Option.some.injEq] at hc
  case space              => exact hk rfl
  case symbol s           => simp [← hc, s.isWhiteSpace_toChar] at hw
  case path               => exact absurd (hc ▸ hb) (by decide)
  case closed q _ _ _     => simp [← hc, q.isWhiteSpace_toChar] at hw
  case unclosed q _ _ _   => simp [← hc, q.isWhiteSpace_toChar] at hw
  case bare h _           => exact (isBareChar_iff.1 (h.all c (List.mem_of_head? hc))).1 hw

theorem Token.solid_start (ht : tokenize source = .ok ts) {t : Token} (hm : t ∈ ts)
    (hk : t.kind ≠ .space) : Solid source t.start := by
  obtain ⟨before, after, rfl⟩ := List.append_of_mem hm
  obtain ⟨htexts, htile, hp⟩ := isTokenization_iff.1 (tokenize_eq_ok_iff_isTokenization.1 ht)
  have hr := Lexeme.tile_map_lexeme_iff.1 htile before t after rfl
  refine ⟨before.flatMap (·.text.toList), t.text.toList ++ after.flatMap (·.text.toList), ?_,
    (hp before t after rfl).1, ?_⟩
  · simp [← htexts]
  · obtain ⟨c, cs, hc⟩ := List.exists_cons_of_ne_nil hr.text_ne_nil
    have := hr.not_isBlank hk
    rw [hc] at this ⊢
    exact this

end Places

-- Holds of an error that is told of a solid place.
def Pointed (source : String) (e : SyntaxError) : Prop :=
  ∃ kind text p, (e = .inSource kind text source p) ∧ Solid source p

namespace Pointed

variable {source : String} {e : SyntaxError}

theorem of_tokenize (h : tokenize source = .error e) : Pointed source e := by
  obtain ⟨ls, c, behind, hls, rfl⟩ := tokenize_eq_error_iff.1 h
  obtain ⟨hs, -, hc⟩ := Lexeme.lexemes_eq_iff.1 hls
  refine ⟨_, _, _, rfl, ls.flatMap Lexeme.text, c :: behind, hs.symm, rfl, ?_⟩
  exact fun d hd => (Lexeme.first?_eq_none_iff.1 hc d hd).2

theorem of_parse (h : parse source = .error e) : Pointed source e := by
  cases ht : tokenize source
  case error e' =>
    rw [parse, ht] at h
    cases h
    exact of_tokenize ht
  case ok ts =>
    obtain ⟨f, hf, rfl⟩ := (parse_eq_error_iff ht).1 h
    refine ⟨_, _, _, rfl, ?_⟩
    obtain ⟨front, ha, -⟩ := Expression.error_of_ofAtoms hf
    rw [ParseFailure.position]
    split
    case h_1 a rest hr =>
      have hm : a ∈ ts.filterMap Token.atom? := by simp [ha, hr]
      obtain ⟨t, hts, hta⟩ := List.mem_filterMap.1 hm
      rw [Token.position_of_atom? hta]
      exact Token.solid_start ht hts fun hk => by simp [Token.atom?, hk] at hta
    case h_2 => exact solid_endOf source

theorem of_compile {A C F : Type} {v : Vocabulary A C F} (h : compile v source = .error e) :
    Pointed source e := by
  cases hp : parse source
  case error e' =>
    rw [compile_of_parse_error hp] at h
    cases h
    exact of_parse hp
  case ok cs =>
    obtain ⟨ts, ht, -⟩ := bind_eq_ok_iff.1 hp
    have hm := (parse_eq_ok_iff ht).1 hp
    cases hn : (Chain.namesAll cs).find? v.rejects
    case none =>
      obtain ⟨qs, -, hc⟩ := compile_of_find?_eq_none hp hn
      rw [hc] at h
      cases h
    case some n =>
      rw [compile_of_find?_eq_some hp hn] at h
      cases h
      refine ⟨_, _, _, rfl, ?_⟩
      obtain ⟨t, hts, hst, hk⟩ := exists_token_of_mem_namesAll hm (List.mem_of_find?_eq_some hn)
      rw [← hst]
      exact Token.solid_start ht hts fun hs => by simp [hs, TokenKind.unquoted] at hk

end Pointed

section Caret

variable {source : String} {e : SyntaxError}

-- Holds if the picture of a place in a source is the line of the place with a caret below it, which
-- is as far from the start of the line as the place.
structure IsPicture (source : String) (place : SyntaxError.Place)
    (above left right below line : List Char) : Prop where
  parts   : LineParts source.toList above left right below
  offset  : place.position.offset = (String.ofList (above ++ left)).utf8ByteSize
  located : place.position = .locate source place.position.offset
  column  : place.position.column = left.length + 1
  shown   : Shows below (left ++ right) line
  picture : place.picture = String.ofList
    (line ++ '\n' :: (List.replicate (place.position.column - 1) ' ' ++ ['^']))
  caret   : line.take (place.position.column - 1) = left

theorem Solid.isPicture {p : Position} (h : Solid source p) :
    ∃ above left right below line,
      IsPicture source ⟨p, caretUnder source p.row p.column⟩ above left right below line := by
  obtain ⟨before, after, hs, rfl, hb⟩ := h
  obtain ⟨above, left, right, below, rfl, rfl, hparts⟩ := exists_lineParts before after
  rw [← hs] at hparts
  have hshown := hparts.shows_lineAt
  -- What stands at the place ends no line, so that the line goes on there or is the last.
  have hr : right = [] → below = [] := by
    rintro rfl
    cases below
    case nil        => rfl
    case cons c cs  => exact absurd (hparts.below c rfl ▸ hb c rfl) (by decide)
  have hcolumn := hparts.column_advance
  have hcaret := hshown.take_left hr
  rw [← Nat.add_sub_cancel left.length 1, ← hcolumn] at hcaret
  exact ⟨above, left, right, below, _, hparts, Position.offset_start_advance _,
    (Position.locate_offset_advance _ _ hs).symm, hcolumn, hshown, rfl, hcaret⟩

-- Whatever error there is about a source text, its picture is that of its place.
theorem error_pictured {A C F : Type} (v : Vocabulary A C F)
    (h : tokenize source = .error e ∨ parse source = .error e ∨ compile v source = .error e) :
    ∃ place above left right below line,
      (e.place = some place) ∧ IsPicture source place above left right below line := by
  have hp : Pointed source e := h.elim .of_tokenize (Or.elim · .of_parse .of_compile)
  obtain ⟨kind, text, p, rfl, hs⟩ := hp
  obtain ⟨above, left, right, below, line, h⟩ := hs.isPicture
  exact ⟨_, above, left, right, below, line, rfl, h⟩

-- A bracket that is left over in the second line of a text, behind letters of two bytes each.
theorem error_pictured_second_line :
    let place : SyntaxError.Place := { position := ⟨2, 4, 8⟩, picture := "' ü)\n   ^" }
    ∃ e, (parse "'é\n' ü)\r\n" = .error e) ∧ (e.place = some place) ∧
      ∃ above left right below line,
        IsPicture "'é\n' ü)\r\n" place above left right below line := by
  intro place
  let ts := Token.place .start [⟨.value "é\n" (some .single), ['\'', 'é', '\n', '\'']⟩,
    ⟨.space, [' ']⟩, ⟨.value "ü" none, ['ü']⟩, ⟨.symbol .closing, [')']⟩, ⟨.space, ['\r', '\n']⟩]
  have ht : tokenize "'é\n' ü)\r\n" = .ok ts := by decide +kernel
  have hf : Expression.ofAtoms (ts.filterMap Token.atom?) =
      .error (.leftover (.symbol .closing ⟨2, 4, 8⟩) []) := by
    have ha : ts.filterMap Token.atom? = [.value ⟨"é\n", ⟨1, 1, 0⟩⟩, .value ⟨"ü", ⟨2, 3, 6⟩⟩,
        .symbol .closing ⟨2, 4, 8⟩] := by
      decide +kernel
    rw [ha]
    cbv
  have he := (parse_eq_error_iff ht).2 ⟨_, hf, rfl⟩
  obtain ⟨_, above, left, right, below, line, hp, h⟩ :=
    error_pictured (.ofNames "every" [] [] []) (.inr (.inl he))
  cases hp
  exact ⟨_, he, by decide +kernel, above, left, right, below, line, h⟩

end Caret

end EntitySearch
