import EntitySearch.Proofs.Query.Compiled

namespace EntitySearch

-- Holds of the values that are read as they are where they are spelled.
def IsSettled (value : String) : Prop :=
  normValue value = value

-- Holds of an unclosed quote whose content needs quote marks and ends in an odd run of backslashes.
-- In a spelling, where the quote is closed, this run has to become longer.
def IsCutShort (kind : TokenKind) (text : List Char) : Prop :=
  ∃ content quote, (kind = .value content quote) ∧ IsUnclosed kind text ∧
    needsQuotes content.toList ∧ Quoted.EndsOdd content.toList

-- Holds of the source texts whose last token is such a quote.
def EndsCutShort (source : String) : Prop :=
  ∃ ts, (tokenize source = .ok ts) ∧ ∃ t ∈ ts.getLast?, IsCutShort t.kind t.text.toList

theorem isSettled_of_isBareWord {value : String} (h : IsBareWord value.toList) :
    IsSettled value := by
  simp [IsSettled, normValue, needsQuotes_eq_false_iff.2 h]

-- A value that some marks leave as it is changes at most at its end where it is spelled.
theorem normValue_of_not_hasOddRun (q : QuoteMark) (value : String)
    (h : Quoted.hasOddRun q.toChar value.toList = false) :
    normValue value =
      if needsQuotes value.toList ∧ Quoted.EndsOdd value.toList then value.push '\\'
      else value := by
  have hq : Quoted.hasOddRun (quoteFor value.toList).toChar value.toList = false := by
    cases q <;> simp only [QuoteMark.toChar] at h
    case single =>
      cases hd : Quoted.hasOddRun '"' value.toList <;> simp [quoteFor, QuoteMark.toChar, h, hd]
    case double => simp [quoteFor, QuoteMark.toChar, h]
  rw [normValue, Quoted.pad_eq_of_not_hasOddRun hq]
  by_cases hn : needsQuotes value.toList
  case pos =>
    by_cases ho : Quoted.EndsOdd value.toList
    case pos => exact String.toList_inj.1 (by simp [hn, ho])
    case neg => simp [hn, ho]
  case neg => simp [hn]

-- What is read from a quote is left as it is by its marks, and ends as the quote does.
theorem dropEscapes_of_allEscaped (q : QuoteMark) {inside : List Char}
    (h : Quoted.AllEscaped q.toChar inside) :
    Quoted.hasOddRun q.toChar (Quoted.dropEscapes q.toChar inside) = false ∧
    (Quoted.EndsOdd (Quoted.dropEscapes q.toChar inside) ↔ Quoted.EndsOdd inside) := by
  have ha := Quoted.allEscaped_iff.1 h
  have hd := Quoted.hasOddRunAfter_decode q.toChar_ne_backslash (by simp) ha
  rw [Quoted.decode_eq_dropEscapes q.toChar_ne_backslash] at hd
  rw [Quoted.endsOdd_iff, Quoted.endsOdd_iff, hd.2]
  exact ⟨hd.1, Iff.rfl⟩

variable {rest text : List Char}

theorem LexicalRule.reads {kind : TokenKind} (h : LexicalRule rest kind text)
    (hc : ¬IsCutShort kind text) : kind.Reads IsSettled := by
  cases h
  case space  => trivial
  case symbol => trivial
  case path names h => exact ⟨names, by simp, h.all⟩
  case closed q inside ha ho =>
    obtain ⟨hr, he⟩ := dropEscapes_of_allEscaped q ha
    have hn := normValue_of_not_hasOddRun q (String.ofList _) (by simpa using hr)
    simpa [he, ho, TokenKind.Reads, IsSettled] using hn
  case unclosed q inside ha _ =>
    obtain ⟨hr, he⟩ := dropEscapes_of_allEscaped q ha
    have hn := normValue_of_not_hasOddRun q (String.ofList _) (by simpa using hr)
    have hc : ¬(needsQuotes (Quoted.dropEscapes q.toChar inside) ∧
        Quoted.EndsOdd (Quoted.dropEscapes q.toChar inside)) := by
      rintro ⟨hq, ho⟩
      exact hc ⟨_, _, rfl, ⟨_, q, inside, rfl, rfl, ha⟩, by simpa using hq, by simpa using ho⟩
    simpa [hc, TokenKind.Reads, IsSettled] using hn
  case bare hn h hh =>
    have : IsBareWord text := ⟨hn, h.all, hh⟩
    exact isSettled_of_isBareWord (by simpa using this)

theorem LexicalRule.normValue_of_isCutShort {content : String} {quote : Option QuoteMark}
    (h : LexicalRule rest (.value content quote) text)
    (hc : IsCutShort (.value content quote) text) : normValue content = content.push '\\' := by
  obtain ⟨_, _, ⟨⟩, hu, hq, ho⟩ := hc
  have hr : ∃ q : QuoteMark, Quoted.hasOddRun q.toChar content.toList = false := by
    cases h
    case closed q inside ha _   => exact ⟨q, by simpa using (dropEscapes_of_allEscaped q ha).1⟩
    case unclosed q inside ha _ => exact ⟨q, by simpa using (dropEscapes_of_allEscaped q ha).1⟩
    case bare =>
      obtain ⟨_, _, _, hk, -⟩ := hu
      cases hk
  obtain ⟨q, hr⟩ := hr
  rw [normValue_of_not_hasOddRun q content hr, if_pos ⟨hq, ho⟩]

-- A token that is not the last one cannot be cut short.
theorem reads_of_tokenize {source : String} {ts before after : List Token} {t : Token}
    (h : tokenize source = .ok ts) (hts : ts = before ++ t :: after)
    (hc : after = [] → ¬IsCutShort t.kind t.text.toList) : t.kind.Reads IsSettled := by
  have hr := (tokenize_eq_ok_iff_isTokenization.1 h).ruled
  refine (hr before t after hts).reads ?_
  cases after
  case nil => exact hc rfl
  case cons u after =>
    have hu := (hr (before ++ [t]) u after (by simp [hts])).text_ne_nil
    rintro ⟨_, _, -, hu', -⟩
    refine (hr before t (u :: after) hts).not_isUnclosed ?_ hu'
    simp [String.toList_join, hu]

section Values

variable {source value : String}

-- Holds of the source texts that are a single value and nothing else, which is bare or closed.
def SpellsValue (source value : String) : Prop :=
  ∃ t quote, (tokenize source = .ok [t]) ∧ (t.kind = .value value quote) ∧
    ¬IsUnclosed t.kind t.text.toList

theorem tokenize_eq_singleton_iff {t : Token} :
    tokenize source = .ok [t] ↔
      (t.text = source) ∧ (LexicalRule [] t.kind t.text.toList) ∧ (t.start = .start) ∧
      (t.stop = t.start.advance t.text.toList) := by
  rw [tokenize_eq_ok_iff_isTokenization, isTokenization_iff]
  simp [Lexeme.tile_cons, Lexeme.tile_nil, Token.lexeme, Token.placed_cons, Token.placed_nil,
    String.toList_inj]

theorem spellsValue_iff :
    SpellsValue source value ↔
      ∃ quote, LexicalRule [] (.value value quote) source.toList ∧
        ¬IsUnclosed (.value value quote) source.toList := by
  simp only [SpellsValue, tokenize_eq_singleton_iff]
  constructor
  case mp =>
    rintro ⟨t, quote, ⟨rfl, hr, -⟩, hk, hu⟩
    rw [hk] at hr hu
    exact ⟨quote, hr, hu⟩
  case mpr =>
    rintro ⟨quote, hr, hu⟩
    let t : Token := {
      kind := .value value quote
      start := .start
      stop := Position.start.advance source.toList
      text := source }
    exact ⟨t, quote, ⟨rfl, hr, rfl, rfl⟩, rfl, hu⟩

-- A value that has a spelling of some kind is read as it is from its own.
theorem SpellsValue.isSettled (h : SpellsValue source value) : IsSettled value := by
  obtain ⟨quote, hr, hu⟩ := spellsValue_iff.1 h
  exact hr.reads fun ⟨_, _, _, hc, _⟩ => hu hc

theorem spellsValue_spellValue (value : String) :
    SpellsValue (String.ofList (spellValue value)) (normValue value) := by
  rw [spellsValue_iff, String.toList_ofList]
  cases hn : needsQuotes value.toList
  case false =>
    have hb := needsQuotes_eq_false_iff.1 hn
    have hr : LexicalRule [] _ value.toList := .bare hb.nonempty ⟨hb.bare, by simp⟩ hb.head
    rw [String.ofList_toList] at hr
    simp only [spellValue, normValue, hn, Bool.false_eq_true, if_false]
    refine ⟨none, hr, ?_⟩
    rintro ⟨_, _, _, hk, -⟩
    cases hk
  case true =>
    let q := quoteFor value.toList
    have he := Quoted.endsAt_encode q.toChar_ne_backslash value.toList []
    have ho : ¬Quoted.EndsOdd (Quoted.encode q.toChar value.toList) := by
      obtain ⟨_, -, ho⟩ := he.stop.resolve_left (by simp)
      exact ho
    have hr (rest : List Char) : LexicalRule rest _ _ := .closed q he.escaped ho
    simp only [Quoted.dropEscapes_encode q.toChar_ne_backslash] at hr
    simp only [spellValue, normValue, hn, if_true]
    -- A quote that may stand before further text is closed.
    exact ⟨some q, hr [], (hr [' ']).not_isUnclosed (by simp)⟩

variable (A C F : Type) [Named A] [Named C] [Named F]

-- The text of a query for a value is read as this value, if any text is. Otherwise it still is the
-- text of a value, and of the one that is read there.
theorem fullSource_fullText (value : String) :
    ((∃ source, SpellsValue source value) →
      SpellsValue (Query.fullText value : Query A C F).fullSource value) ∧
    (∃ read, SpellsValue (Query.fullText value : Query A C F).fullSource read ∧
      (Query.fullText read : Query A C F).fullSource =
        (Query.fullText value : Query A C F).fullSource) := by
  have hs := spellsValue_spellValue value
  constructor
  case left =>
    rintro ⟨source, h⟩
    rwa [h.isSettled] at hs
  case right =>
    exact ⟨normValue value, hs, congrArg String.ofList (spellValue_normValue value)⟩

-- `a \" 'b'`, where only single marks keep the backslash.
theorem fullSource_fullText_single :
    let value := "a \\\" 'b'"
    (SpellsValue "'a \\\" \\'b\\''" value) ∧
    (SpellsValue (Query.fullText value : Query String String String).fullSource value) ∧
    (∃ read, SpellsValue (Query.fullText value : Query String String String).fullSource read ∧
      (Query.fullText read : Query String String String).fullSource =
        (Query.fullText value : Query String String String).fullSource) := by
  intro value
  let inside := "a \\\" \\'b\\'".toList
  have hi : Quoted.split '\'' (inside ++ ['\'']) = (inside, ['\'']) := by decide +kernel
  have ha := ((Quoted.split_eq_iff (by decide)).1 hi).2.escaped
  have ho : ¬Quoted.EndsOdd inside := by decide
  have hr (rest : List Char) : LexicalRule rest (.value value (some .single)) _ :=
    .closed .single ha ho
  have hs : SpellsValue "'a \\\" \\'b\\''" value :=
    spellsValue_iff.2 ⟨some .single, hr [], (hr [' ']).not_isUnclosed (List.cons_ne_nil _ _)⟩
  have ht := fullSource_fullText String String String value
  exact ⟨hs, ht.1 ⟨_, hs⟩, ht.2⟩

end Values

end EntitySearch
