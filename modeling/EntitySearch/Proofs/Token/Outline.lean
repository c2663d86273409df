import EntitySearch.Proofs.Expression.Grammar
import EntitySearch.Proofs.Token.Tokenization

namespace EntitySearch

-- What the grammar sees of a lexeme. Of a blank it sees nothing.
def Lexeme.seen? (l : Lexeme) : Option TokenKind :=
  if l.kind = .space then none else some l.kind.unquoted

-- Holds if a text is cut to its end, and this is what the grammar sees of its lexemes.
def Outlines (cs : List Char) (ks : List TokenKind) : Prop :=
  ∃ ls, (lexemes cs = (ls, [])) ∧ (ls.filterMap Lexeme.seen? = ks)

-- Holds of the texts that carry on neither a bare value nor a path.
def Stops (rest : List Char) : Prop :=
  ∀ c ∈ rest.head?, ¬isBareChar c

-- A text that is cut into these tokens whatever stands behind it, if only that stops it.
def CutsInto (cs : List Char) (ks : List TokenKind) : Prop :=
  ∀ rest ls, Stops rest → Outlines rest ls → Outlines (cs ++ rest) (ks ++ ls)

section Outlines

variable {cs rest : List Char} {ks : List TokenKind}

theorem outlines_nil : Outlines [] [] := by
  refine ⟨[], ?_, rfl⟩
  rw [lexemes]
  rfl

instance Outlines.decidable (cs : List Char) (ks : List TokenKind) : Decidable (Outlines cs ks) :=
  decidable_of_iff ((lexemes cs).2 = [] ∧ (lexemes cs).1.filterMap Lexeme.seen? = ks)
    ⟨fun h => ⟨_, Prod.ext rfl h.1, h.2⟩, fun ⟨_, hl, hk⟩ => by rw [hl]; exact ⟨rfl, hk⟩⟩

theorem lexemes_of_first? {l : Lexeme} (h : Lexeme.first? cs = some (l, rest)) :
    lexemes cs = (l :: (lexemes rest).1, (lexemes rest).2) := by
  rw [lexemes]
  split
  case h_1 h' => simp [h'] at h
  case h_2 h' =>
    rw [h'] at h
    cases h
    rfl

theorem outlines_of_first? {l : Lexeme} (h : Lexeme.first? cs = some (l, rest)) :
    Outlines cs ks ↔ ∃ ls, Outlines rest ls ∧ l.seen?.toList ++ ls = ks := by
  unfold Outlines
  rw [lexemes_of_first? h]
  obtain ⟨ls, rest'⟩ := lexemes rest
  cases hs : l.seen? <;> simp [hs]

-- A blank adds nothing, whether it begins a run of blanks or carries one on.
theorem outlines_blank {c : Char} (hc : isBlank c) (h : Outlines cs ks) :
    Outlines (c :: cs) ks := by
  have hs (d : Char) (ds : List Char) (hd : isBlank d) :
      Lexeme.first? (d :: ds) =
        some ({ kind := .space, text := d :: ds.takeWhile isBlank }, ds.dropWhile isBlank) := by
    have := Lexeme.first?_space hd (LongestRun.of_takeWhile isBlank ds)
    rwa [List.takeWhile_append_dropWhile] at this
  rw [outlines_of_first? (hs c cs hc)]
  refine ⟨ks, ?_, rfl⟩
  cases cs
  case nil => simpa using h
  case cons d ds =>
    by_cases hd : isBlank d
    · obtain ⟨ls, hl, rfl⟩ := (outlines_of_first? (hs d ds hd)).1 h
      simpa [hd, Lexeme.seen?] using hl
    · simpa [hd] using h

end Outlines

section CutsInto

variable {cs ds : List Char} {ks ls : List TokenKind}

theorem CutsInto.outlines (h : CutsInto cs ks) : Outlines cs ks := by
  simpa using h [] [] (by simp [Stops]) outlines_nil

theorem cutsInto_nil : CutsInto [] [] :=
  fun _ _ _ h => h

theorem cutsInto_space (h : CutsInto cs ks) : CutsInto (' ' :: cs) ks :=
  fun rest ls hs hr => outlines_blank (by decide) (h rest ls hs hr)

theorem cutsInto_symbol (s : Symbol) (h : CutsInto cs ks) :
    CutsInto (s.toChar :: cs) (.symbol s :: ks) := by
  intro rest ls hs hr
  exact (outlines_of_first? (Lexeme.first?_symbol s)).2 ⟨ks ++ ls, h rest ls hs hr, rfl⟩

-- Texts stand behind one another if a character between them carries nothing on.
theorem cutsInto_append {c : Char} (h : CutsInto cs ks) (hd : CutsInto (c :: ds) ls)
    (hc : isBareChar c = false) : CutsInto (cs ++ c :: ds) (ks ++ ls) := by
  intro rest ms hs hr
  rw [List.append_assoc, List.append_assoc]
  refine h _ _ ?_ (hd rest ms hs hr)
  simp [Stops, hc]

theorem cutsInto_path (h : ∀ c ∈ cs, isPathChar c) :
    CutsInto ('/' :: cs) [.path (String.ofList ('/' :: cs))] := by
  intro rest ls hs hr
  have hl : LongestRun isPathChar cs rest :=
    ⟨h, fun c hc hp => hs c hc (isBareChar_of_isPathChar hp)⟩
  exact (outlines_of_first? (Lexeme.first?_path hl)).2 ⟨ls, hr, rfl⟩

theorem cutsInto_quoted (q : QuoteMark) (cs : List Char) :
    CutsInto (q.toChar :: (Quoted.encode q.toChar cs ++ [q.toChar]))
      [.value (String.ofList (Quoted.pad q.toChar cs)) none] := by
  intro rest ls hs hr
  have hq := q.toChar_ne_backslash
  have he := Lexeme.quoted_eq q (Quoted.endsAt_encode hq cs rest)
  have hf := Lexeme.first?_quote q (Quoted.encode q.toChar cs ++ q.toChar :: rest)
  rw [he, Quoted.dropEscapes_encode hq] at hf
  simpa [Lexeme.seen?, TokenKind.unquoted] using (outlines_of_first? hf).2 ⟨ls, hr, rfl⟩

end CutsInto

section Seams

variable {cs rest : List Char} {ks : List TokenKind} {ls : List Lexeme}

theorem outlines_blanks {bs : List Char} (hb : ∀ c ∈ bs, isBlank c) (h : Outlines cs ks) :
    Outlines (bs ++ cs) ks := by
  induction bs
  case nil => exact h
  case cons c bs ih =>
    rw [List.forall_mem_cons] at hb
    exact outlines_blank hb.1 (ih hb.2)

theorem stops_blanks {bs : List Char} (hn : bs ≠ []) (hb : ∀ c ∈ bs, isBlank c) (cs : List Char) :
    Stops (bs ++ cs) := by
  cases bs
  case nil      => exact absurd rfl hn
  case cons c _ => simp [Stops, isBareChar, isWhiteSpace_of_isBlank (hb c List.mem_cons_self)]

-- A run of blanks may be carried on, which adds nothing. All other lexemes end.
theorem cutsInto_lexeme {l : Lexeme} (h : LexicalRule rest l.kind l.text)
    (hu : ¬IsUnclosed l.kind l.text) : CutsInto l.text l.seen?.toList := by
  intro rest' ms hs hr
  by_cases hk : l.kind = .space
  case pos =>
    have hb : ∀ c ∈ l.text, isBlank c := by
      rw [hk] at h
      cases h
      case space h => exact h.all
    simpa [Lexeme.seen?, hk] using outlines_blanks hb hr
  case neg =>
    have hl : LexicalRule rest' l.kind l.text :=
      h.of_not_isBareChar hu fun c hc => ⟨hs c hc, fun he => absurd he hk⟩
    have hf := Lexeme.first?_eq_some_iff.2 ⟨rfl, hl⟩
    exact (outlines_of_first? hf).2 ⟨ms, hr, rfl⟩

theorem filterMap_seen?_cons (l : Lexeme) (ls : List Lexeme) :
    (l :: ls).filterMap Lexeme.seen? = l.seen?.toList ++ ls.filterMap Lexeme.seen? := by
  cases hs : l.seen? <;> simp [hs]

-- Only what stands directly behind the last lexeme can carry anything on.
theorem Lexeme.Tile.cutsInto (h : Tile ls rest)
    (hu : ∀ l ∈ ls.getLast?, ¬IsUnclosed l.kind l.text) :
    CutsInto (ls.flatMap text) (ls.filterMap seen?) := by
  induction ls
  case nil => exact cutsInto_nil
  case cons l ls ih =>
    obtain ⟨hl, ht⟩ := tile_cons.1 h
    cases ls
    case nil => simpa [filterMap_seen?_cons] using cutsInto_lexeme hl (hu l rfl)
    case cons l' ls =>
      intro rest' ms hs hr
      have hi := ih ht (by simpa using hu) rest' ms hs hr
      have hf := first?_eq_some_iff.2 ⟨rfl, hl.of_head?_eq (head?_append_of_tile ht rest rest')⟩
      rw [List.flatMap_cons, List.append_assoc, filterMap_seen?_cons, List.append_assoc]
      exact (outlines_of_first? hf).2 ⟨_, hi, rfl⟩

theorem Lexeme.Tile.outlines (h : Tile ls []) : Outlines (ls.flatMap text) (ls.filterMap seen?) :=
  ⟨ls, by simpa using lexemes_of_tile h rfl, rfl⟩

end Seams

section Tokens

-- What the grammar sees of tokens.
def outline (ts : List Token) : List TokenKind :=
  (ts.filter (!·.isSpace)).map (·.kind.unquoted)

theorem outline_eq_filterMap (ts : List Token) :
    outline ts = (ts.map Token.lexeme).filterMap Lexeme.seen? := by
  rw [outline, ← List.filterMap_eq_map, List.filterMap_filter, List.filterMap_map]
  refine List.filterMap_congr fun t _ => ?_
  obtain ⟨kind, start, stop, text⟩ := t
  cases kind <;> rfl

theorem map_kind_atoms (ts : List Token) :
    (ts.filterMap Token.atom?).map Atom.kind = outline ts := by
  rw [outline_eq_filterMap, List.map_filterMap, List.filterMap_map]
  refine List.filterMap_congr fun t _ => ?_
  obtain ⟨kind, start, stop, text⟩ := t
  cases kind <;> rfl

theorem outlines_iff {source : String} {ks : List TokenKind} :
    Outlines source.toList ks ↔ ∃ ts, tokenize source = .ok ts ∧ outline ts = ks := by
  constructor
  case mp =>
    rintro ⟨ls, hl, rfl⟩
    have hm := Token.map_lexeme_place .start ls
    refine ⟨Token.place .start ls, tokenize_eq_ok_iff.2 ⟨by rw [hl, hm], ?_⟩, ?_⟩
    · rw [Token.placed_iff, hm]
    · rw [outline_eq_filterMap, hm]
  case mpr =>
    rintro ⟨ts, ht, rfl⟩
    exact ⟨_, (tokenize_eq_ok_iff.1 ht).1, (outline_eq_filterMap ts).symm⟩

-- Holds of the source texts whose last token is a quote that is not closed.
def EndsUnclosed (source : String) : Prop :=
  ∃ ts, (tokenize source = .ok ts) ∧ ∃ t ∈ ts.getLast?, IsUnclosed t.kind t.text.toList

theorem last_of_not_endsUnclosed {source : String} {ts : List Token}
    (h : tokenize source = .ok ts) (hu : ¬EndsUnclosed source) :
    ∀ l ∈ (ts.map Token.lexeme).getLast?, ¬IsUnclosed l.kind l.text := by
  have : ∀ t ∈ ts.getLast?, ¬IsUnclosed t.kind t.text.toList :=
    fun t ht hc => hu ⟨ts, h, t, ht, hc⟩
  simpa [Token.lexeme, List.getLast?_map] using this

theorem cutsInto_of_not_endsUnclosed {source : String} {ts : List Token}
    (h : tokenize source = .ok ts) (hu : ¬EndsUnclosed source) :
    CutsInto source.toList (outline ts) := by
  obtain ⟨ht, htile, -⟩ := Lexeme.lexemes_eq_iff.1 (tokenize_eq_ok_iff.1 h).1
  rw [List.append_nil] at ht
  rw [← ht, outline_eq_filterMap]
  exact htile.cutsInto (last_of_not_endsUnclosed h hu)

-- Blanks between the parts of a text that is cut into tokens add nothing to its outline.
theorem outlines_blanks_between {source : String} {before after : List Token} {blanks : List Char}
    (h : tokenize source = .ok (before ++ after)) (hn : blanks ≠ []) (hb : ∀ c ∈ blanks, isBlank c)
    (hu : after = [] → ¬EndsUnclosed source) :
    Outlines (before.flatMap (·.text.toList) ++ (blanks ++ after.flatMap (·.text.toList)))
      (outline (before ++ after)) := by
  have htile := (Lexeme.lexemes_eq_iff.1 (tokenize_eq_ok_iff.1 h).1).2.1
  rw [List.map_append, Lexeme.tile_append] at htile
  obtain ⟨hbefore, hafter⟩ := htile
  have hl : ∀ l ∈ (before.map Token.lexeme).getLast?, ¬IsUnclosed l.kind l.text := by
    cases after
    case nil =>
      rw [List.append_nil] at h
      exact last_of_not_endsUnclosed h (hu rfl)
    case cons t after =>
      have hn := (Lexeme.tile_cons.1 hafter).1.text_ne_nil
      exact hbefore.not_isUnclosed (by simp [hn])
  have ho := hbefore.cutsInto hl _ _ (stops_blanks hn hb _) (outlines_blanks hb hafter.outlines)
  rw [List.flatMap_map, List.flatMap_map] at ho
  rwa [outline_eq_filterMap, List.map_append, List.filterMap_append]

end Tokens

end EntitySearch
