import EntitySearch.Proofs.Text.Position
import EntitySearch.Proofs.Token.LexicalRule

namespace EntitySearch

namespace Lexeme

section Run

variable {cs rest : List Char} {ls : List Lexeme}

-- Lexemes that stand one behind another before `rest`, each by the rules.
def Tile (ls : List Lexeme) (rest : List Char) : Prop :=
  ∀ before l after, ls = before ++ l :: after →
    LexicalRule (after.flatMap text ++ rest) l.kind l.text

theorem tile_nil (rest : List Char) : Tile [] rest := by
  intro before l after h
  simp at h

theorem tile_cons {l : Lexeme} :
    Tile (l :: ls) rest ↔ LexicalRule (ls.flatMap text ++ rest) l.kind l.text ∧ Tile ls rest := by
  constructor
  case mp =>
    intro h
    exact ⟨h [] l ls rfl, fun before l' after hl => h (l :: before) l' after (by simp [hl])⟩
  case mpr =>
    rintro ⟨hl, h⟩ before l' after hls
    cases before
    case nil =>
      obtain ⟨rfl, rfl⟩ := List.cons.inj hls
      exact hl
    case cons b before => exact h before l' after (List.cons.inj hls).2

theorem tile_append {ms : List Lexeme} :
    Tile (ls ++ ms) rest ↔ Tile ls (ms.flatMap text ++ rest) ∧ Tile ms rest := by
  induction ls
  case nil => simp [tile_nil]
  case cons l ls ih => simp [tile_cons, ih, and_assoc]

theorem tile_lexemes (cs : List Char) : Tile (lexemes cs).1 (lexemes cs).2 := by
  fun_induction lexemes cs
  case case1 => exact tile_nil _
  case case2 cs l rest h r ih =>
    rw [tile_cons, append_of_lexemes]
    exact ⟨lexicalRule_of_first? h, ih⟩

theorem first?_of_lexemes (cs : List Char) : first? (lexemes cs).2 = none := by
  fun_induction lexemes cs
  case case1 cs h => exact h
  case case2 cs l rest h r ih => exact ih

theorem lexemes_of_tile (ht : Tile ls rest) (hr : first? rest = none) :
    lexemes (ls.flatMap text ++ rest) = (ls, rest) := by
  induction ls
  case nil => rw [lexemes]; split <;> simp_all
  case cons l ls ih =>
    obtain ⟨hl, ht⟩ := tile_cons.1 ht
    have := first?_eq_some_iff.2 ⟨rfl, hl⟩
    rw [lexemes]
    split
    case h_1 h => simp_all
    case h_2 h => simp_all

theorem lexemes_eq_iff :
    lexemes cs = (ls, rest) ↔ ls.flatMap text ++ rest = cs ∧ Tile ls rest ∧ first? rest = none := by
  constructor
  case mp =>
    intro h
    have ht := tile_lexemes cs
    have hr := first?_of_lexemes cs
    have ha := append_of_lexemes cs
    rw [h] at ht hr ha
    exact ⟨ha, ht, hr⟩
  case mpr =>
    rintro ⟨rfl, ht, hr⟩
    exact lexemes_of_tile ht hr

-- What stands behind an unclosed quote is nothing.
theorem Tile.not_isUnclosed (h : Tile ls rest) (hr : rest ≠ []) :
    ∀ l ∈ ls.getLast?, ¬IsUnclosed l.kind l.text := by
  intro l hl
  obtain ⟨before, rfl⟩ := List.getLast?_eq_some_iff.1 hl
  exact (h before l [] rfl).not_isUnclosed (by simpa using hr)

-- What stands behind a lexeme begins with it, whatever comes later.
theorem head?_append_of_tile {l : Lexeme} (h : Tile (l :: ls) rest) (as bs : List Char) :
    ((l :: ls).flatMap text ++ as).head? = ((l :: ls).flatMap text ++ bs).head? := by
  obtain ⟨c, cs, hl⟩ := List.exists_cons_of_ne_nil (tile_cons.1 h).1.text_ne_nil
  simp [hl]

-- Before white space that is no blank stand those lexemes that could also end the text, unless
-- the last of them is an unclosed quote.
theorem tile_stray_iff {c : Char} {behind : List Char} (hw : isWhiteSpace c) (hb : ¬isBlank c) :
    Tile ls (c :: behind) ↔ Tile ls [] ∧ ∀ l ∈ ls.getLast?, ¬IsUnclosed l.kind l.text := by
  induction ls
  case nil => simp [tile_nil]
  case cons l ls ih =>
    cases ls
    case nil =>
      simp only [tile_cons, tile_nil, and_true, List.flatMap_nil, List.nil_append,
        List.getLast?_singleton, Option.mem_def, Option.some.injEq, forall_eq']
      constructor
      case mp =>
        intro h
        have hu := h.not_isUnclosed (List.cons_ne_nil _ _)
        exact ⟨h.of_not_isBareChar hu (by simp), hu⟩
      case mpr =>
        rintro ⟨h, hu⟩
        refine h.of_not_isBareChar hu ?_
        rintro _ ⟨rfl⟩
        exact ⟨by simp [isBareChar, hw], fun _ => hb⟩
    case cons l' ls =>
      -- The rule for `l` sees only the lexeme behind it.
      rw [tile_cons (l := l), tile_cons (l := l), ih, List.getLast?_cons_cons, ← and_assoc]
      refine and_congr_left fun hl => and_congr_left fun ht => ?_
      have hh := head?_append_of_tile ht (c :: behind) []
      exact ⟨fun h => h.of_head?_eq hh, fun h => h.of_head?_eq hh.symm⟩

end Run

end Lexeme

namespace Token

-- A token without its place.
def lexeme (t : Token) : Lexeme where
  kind := t.kind
  text := t.text.toList

-- Tokens that stand one behind another from `p` on.
def Placed (p : Position) (ts : List Token) : Prop :=
  ∀ before t after, ts = before ++ t :: after →
    (t.start = p.advance (before.flatMap (·.text.toList))) ∧
    (t.stop = t.start.advance t.text.toList)

theorem map_lexeme_place (p : Position) (ls : List Lexeme) : (place p ls).map lexeme = ls := by
  induction ls generalizing p
  case nil          => rfl
  case cons l ls ih => simp [place, lexeme, ih]

theorem placed_nil (p : Position) : Placed p [] := by
  intro before t after h
  simp at h

theorem placed_cons {p : Position} {t : Token} {ts : List Token} :
    Placed p (t :: ts) ↔
      ((t.start = p) ∧ (t.stop = t.start.advance t.text.toList)) ∧
      Placed (p.advance t.text.toList) ts := by
  constructor
  case mp =>
    intro h
    refine ⟨by simpa using h [] t ts rfl, fun before t' after hts => ?_⟩
    simpa [Position.advance_append] using h (t :: before) t' after (by simp [hts])
  case mpr =>
    rintro ⟨ht, h⟩ before t' after hts
    cases before
    case nil =>
      obtain ⟨rfl, rfl⟩ := List.cons.inj hts
      simpa using ht
    case cons b before =>
      simp only [List.cons_append, List.cons.injEq] at hts
      simpa [Position.advance_append, hts.1] using h before t' after hts.2

theorem placed_iff {p : Position} {ts : List Token} :
    Placed p ts ↔ ts = place p (ts.map lexeme) := by
  induction ts generalizing p
  case nil => simp [placed_nil, place]
  case cons t ts ih =>
    obtain ⟨kind, start, stop, text⟩ := t
    simp only [placed_cons, ih, List.map_cons, place, lexeme, List.cons.injEq, Token.mk.injEq,
      true_and, String.ofList_toList, and_true]
    constructor
    case mp  => rintro ⟨⟨rfl, rfl⟩, h⟩; exact ⟨⟨rfl, rfl⟩, h⟩
    case mpr => rintro ⟨⟨rfl, rfl⟩, h⟩; exact ⟨⟨rfl, rfl⟩, h⟩

end Token

-- The tokens of a source text by the rules: their texts make up the source, each may stand where
-- it stands, and each knows its place.
structure IsTokenization (source : String) (ts : List Token) : Prop where
  texts  : String.join (ts.map Token.text) = source
  ruled  : ∀ before t after, ts = before ++ t :: after →
    LexicalRule (String.join (after.map Token.text)).toList t.kind t.text.toList
  placed : ∀ before t after, ts = before ++ t :: after →
    (t.start = Position.start.advance (String.join (before.map Token.text)).toList) ∧
    (t.stop = t.start.advance t.text.toList)

theorem Lexeme.tile_map_lexeme_iff {ts : List Token} :
    Lexeme.Tile (ts.map Token.lexeme) [] ↔
      ∀ before t after, ts = before ++ t :: after →
        LexicalRule (after.flatMap (·.text.toList)) t.kind t.text.toList := by
  induction ts
  case nil => simp [tile_nil]
  case cons t ts ih =>
    rw [List.map_cons, tile_cons, ih]
    constructor
    case mp =>
      rintro ⟨ht, h⟩ before t' after hts
      cases before
      case nil =>
        obtain ⟨rfl, rfl⟩ := List.cons.inj hts
        simpa [List.flatMap_map, Token.lexeme] using ht
      case cons b before => exact h before t' after (List.cons.inj hts).2
    case mpr =>
      intro h
      refine ⟨?_, fun before t' after hts => h (t :: before) t' after (by simp [hts])⟩
      simpa [List.flatMap_map, Token.lexeme] using h [] t ts rfl

theorem isTokenization_iff {source : String} {ts : List Token} :
    IsTokenization source ts ↔
      ts.flatMap (·.text.toList) = source.toList ∧ Lexeme.Tile (ts.map Token.lexeme) [] ∧
      Token.Placed .start ts := by
  have hj (us : List Token) :
      (String.join (us.map Token.text)).toList = us.flatMap (·.text.toList) := by
    simp [String.toList_join, List.flatMap_map]
  rw [Lexeme.tile_map_lexeme_iff]
  constructor
  case mp =>
    rintro ⟨ht, hr, hp⟩
    simp only [hj] at hr hp
    exact ⟨by rw [← ht, hj], hr, hp⟩
  case mpr =>
    rintro ⟨ht, hr, hp⟩
    refine ⟨String.toList_inj.1 (by rw [hj, ht]), ?_, ?_⟩
    · simpa only [hj] using hr
    · simp only [hj]
      exact hp

theorem tokenize_eq_ok_iff {source : String} {ts : List Token} :
    tokenize source = .ok ts ↔
      lexemes source.toList = (ts.map Token.lexeme, []) ∧ Token.Placed .start ts := by
  rw [Token.placed_iff, tokenize]
  obtain ⟨ls, rest⟩ := lexemes source.toList
  cases rest
  case nil =>
    simp only [Except.ok.injEq, Prod.mk.injEq, and_true]
    constructor
    case mp  => rintro rfl; simp [Token.map_lexeme_place]
    case mpr => rintro ⟨rfl, h⟩; exact h.symm
  case cons c behind => simp

theorem tokenize_eq_ok_iff_isTokenization {source : String} {ts : List Token} :
    tokenize source = .ok ts ↔ IsTokenization source ts := by
  rw [tokenize_eq_ok_iff, isTokenization_iff, Lexeme.lexemes_eq_iff, List.flatMap_map,
    List.append_nil, and_assoc, and_assoc]
  simp [Token.lexeme, Lexeme.first?]

theorem tokenize_eq_error_iff {source : String} {e : SyntaxError} :
    tokenize source = .error e ↔
      ∃ ls c behind, lexemes source.toList = (ls, c :: behind) ∧
        e = .ofFault (.stray c) source (Position.start.advance (ls.flatMap Lexeme.text)) := by
  rw [tokenize]
  obtain ⟨ls, rest⟩ := lexemes source.toList
  cases rest
  case nil => simp
  case cons c behind =>
    simp only [Except.error.injEq, Prod.mk.injEq, List.cons.injEq]
    constructor
    case mp  => rintro rfl; exact ⟨ls, c, behind, ⟨rfl, rfl, rfl⟩, rfl⟩
    case mpr => rintro ⟨_, _, _, ⟨rfl, rfl, rfl⟩, rfl⟩; rfl

-- A source text that has tokens up to a character of white space that is no blank.
structure StraysAt (source before : String) (c : Char) (behind : String) : Prop where
  parts     : source = before ++ (String.singleton c ++ behind)
  tokens    : ∃ ts, (tokenize before = .ok ts) ∧
    ∀ t ∈ ts.getLast?, ¬IsUnclosed t.kind t.text.toList
  white     : isWhiteSpace c
  not_blank : ¬isBlank c

theorem straysAt_iff {source before behind : String} {c : Char} :
    StraysAt source before c behind ↔
      ∃ ls, (lexemes source.toList = (ls, c :: behind.toList)) ∧
        (ls.flatMap Lexeme.text = before.toList) := by
  constructor
  case mp =>
    rintro ⟨rfl, ⟨ts, hts, hu⟩, hw, hb⟩
    rw [tokenize_eq_ok_iff, Lexeme.lexemes_eq_iff, List.append_nil] at hts
    obtain ⟨⟨ht, htile, -⟩, -⟩ := hts
    refine ⟨ts.map Token.lexeme, Lexeme.lexemes_eq_iff.2 ⟨by simp [ht], ?_, ?_⟩, ht⟩
    · refine (Lexeme.tile_stray_iff hw hb).2 ⟨htile, ?_⟩
      simpa [Token.lexeme, List.getLast?_map] using hu
    · simpa [Lexeme.first?_eq_none_iff] using ⟨hw, by simpa using hb⟩
  case mpr =>
    rintro ⟨ls, hls, ht⟩
    obtain ⟨hs, htile, hc⟩ := Lexeme.lexemes_eq_iff.1 hls
    obtain ⟨hw, hb⟩ := Lexeme.first?_eq_none_iff.1 hc c rfl
    obtain ⟨htile, hu⟩ := (Lexeme.tile_stray_iff hw hb).1 htile
    refine ⟨String.toList_inj.1 (by simp [← hs, ht]), ⟨Token.place .start ls, ?_, ?_⟩, hw, hb⟩
    · rw [tokenize_eq_ok_iff, Token.placed_iff, Token.map_lexeme_place, Lexeme.lexemes_eq_iff]
      exact ⟨⟨by simpa using ht, htile, rfl⟩, rfl⟩
    · have := Token.map_lexeme_place .start ls
      rw [← this, List.getLast?_map] at hu
      simpa [Token.lexeme] using hu

-- Either a source text has exactly the tokens that the rules allow, which are the only ones, or
-- it fails at the first character that begins none.
theorem tokenize_exact (source : String) :
    (∀ ts, tokenize source = .ok ts ↔
      IsTokenization source ts ∧ ∀ us, IsTokenization source us → us = ts) ∧
    (∀ e, tokenize source = .error e ↔
      ∃ before c behind, StraysAt source before c behind ∧
        (e = .ofFault (.stray c) source (.locate source before.utf8ByteSize)) ∧
        (e.kind = .unexpectedCharacter) ∧
        (e.place.map (·.position.offset) = some before.utf8ByteSize)) := by
  constructor
  case left =>
    intro ts
    rw [tokenize_eq_ok_iff_isTokenization]
    constructor
    case mp =>
      intro h
      refine ⟨h, fun us hu => ?_⟩
      rw [← tokenize_eq_ok_iff_isTokenization] at h hu
      exact Except.ok.inj (hu.symm.trans h)
    case mpr => exact And.left
  case right =>
    intro e
    rw [tokenize_eq_error_iff]
    constructor
    case mp =>
      rintro ⟨ls, c, behind, hls, rfl⟩
      have hs : StraysAt source (String.ofList (ls.flatMap Lexeme.text)) c (String.ofList behind) :=
        straysAt_iff.2 ⟨ls, by simpa using hls, by simp⟩
      have hp := Position.locate_append (String.ofList (ls.flatMap Lexeme.text))
        (String.singleton c ++ String.ofList behind)
      rw [← hs.parts, String.toList_ofList] at hp
      refine ⟨_, c, _, hs, by rw [hp], rfl, ?_⟩
      simp [SyntaxError.ofFault, SyntaxError.inSource, Position.offset_advance, Position.start]
    case mpr =>
      rintro ⟨before, c, behind, hs, rfl, -⟩
      obtain ⟨ls, hls, ht⟩ := straysAt_iff.1 hs
      refine ⟨ls, c, behind.toList, hls, ?_⟩
      have hp := Position.locate_append before (String.singleton c ++ behind)
      rw [← hs.parts] at hp
      rw [hp, ht]

end EntitySearch
