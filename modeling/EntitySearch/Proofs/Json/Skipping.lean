import EntitySearch.Proofs.Json.Reading

namespace EntitySearch.Json

section Tokens

variable {ts ts' rest : List Token}

theorem refusesClosing_skip : RefusesClosing skip := by
  rintro ts a rest ⟨_, h⟩
  rw [skip] at h
  · cases h
  all_goals simp

theorem skip_word {t : Token} (h : t = .null ∨ ∃ b, t = .bool b) (ts : List Token) :
    (skip (t :: ts)).Gives () ts := by
  rcases h with rfl | ⟨b, rfl⟩ <;> (rw [skip]; exact ⟨_, rfl⟩)

theorem skip_number (n : Option Number) (ts : List Token) :
    (skip (.number n :: ts)).Gives () ts := by
  rw [skip]
  exact ⟨_, rfl⟩

theorem skip_string (content : Option String) (ts : List Token) :
    (skip (.string content :: ts)).Gives () ts := by
  rw [skip]
  exact ⟨_, rfl⟩

theorem skip_emptyArray (ts : List Token) :
    (skip (.openBracket :: .closeBracket :: ts)).Gives () ts := by
  rw [skip]
  exact ⟨_, rfl⟩

theorem skip_emptyObject (ts : List Token) :
    (skip (.openBrace :: .closeBrace :: ts)).Gives () ts := by
  rw [skip]
  exact ⟨_, rfl⟩

theorem skip_array (h : (skip ts).Gives () ts') (hi : (skipItems ts').Gives () rest) :
    (skip (.openBracket :: ts)).Gives () rest := by
  have hne (us : List Token) : ts ≠ .closeBracket :: us := by
    rintro rfl
    exact refusesClosing_skip us () ts' h
  obtain ⟨_, h⟩ := h
  rw [skip]
  · simp only [h]
    exact hi.weaken _
  · exact hne

theorem skip_object (h : (skipEntry ts).Gives () ts') (he : (skipEntries ts').Gives () rest) :
    (skip (.openBrace :: ts)).Gives () rest := by
  have hne (us : List Token) : ts ≠ .closeBrace :: us := by
    rintro rfl
    obtain ⟨_, h⟩ := h
    rw [skipEntry] at h
    · cases h
    all_goals simp
  obtain ⟨_, h⟩ := h
  rw [skip]
  · simp only [h]
    exact he.weaken _
  · exact hne

theorem skipItems_close (ts : List Token) : (skipItems (.closeBracket :: ts)).Gives () ts := by
  rw [skipItems]
  exact ⟨_, rfl⟩

theorem skipItems_comma (h : (skip ts).Gives () ts') (hi : (skipItems ts').Gives () rest) :
    (skipItems (.comma :: ts)).Gives () rest := by
  obtain ⟨_, h⟩ := h
  rw [skipItems, h]
  exact hi.weaken _

theorem skipEntry_colon (content : Option String) (h : (skip ts).Gives () rest) :
    (skipEntry (.string content :: .colon :: ts)).Gives () rest := by
  rw [skipEntry]
  exact h.weaken _

theorem skipEntries_close (ts : List Token) : (skipEntries (.closeBrace :: ts)).Gives () ts := by
  rw [skipEntries]
  exact ⟨_, rfl⟩

theorem skipEntries_comma (h : (skipEntry ts).Gives () ts')
    (he : (skipEntries ts').Gives () rest) : (skipEntries (.comma :: ts)).Gives () rest := by
  obtain ⟨_, h⟩ := h
  rw [skipEntries, h]
  exact he.weaken _

end Tokens

section Texts

-- How a part of a text is passed over. Of items and entries the first one is, and the further ones
-- with whatever follows them.
def Skipped : Part → List Char → Prop
  | .value, text   => ReadAs skip text ()
  | .items, text   => ∀ rest, EndsNumber rest → ∃ ts,
    ((skip (tokens (text ++ rest))).Gives () ts) ∧
    (∀ left, (skipItems (tokens rest)).Gives () left → (skipItems ts).Gives () left)
  | .entries, text => ∀ rest, EndsNumber rest → ∃ ts,
    ((skipEntry (tokens (text ++ rest))).Gives () ts) ∧
    (∀ left, (skipEntries (tokens rest)).Gives () left → (skipEntries ts).Gives () left)

theorem skipped_of_wellFormed {part : Part} {text : List Char} (h : WellFormed part text) :
    Skipped part text := by
  induction h
  case word text h =>
    intro rest _
    obtain ⟨t, ht, he⟩ := tokens_of_word h rest
    rw [he]
    exact skip_word ht _
  case number text h =>
    intro rest hr
    obtain ⟨n, he⟩ := tokens_of_isNumber h hr
    rw [he]
    exact skip_number n _
  case string text h =>
    intro rest _
    obtain ⟨content, he⟩ := tokens_of_isString h rest
    rw [he]
    exact skip_string content _
  case emptyArray gap hg =>
    intro rest _
    rw [List.cons_append, List.append_assoc, tokens_openBracket, tokens_gap hg,
      List.singleton_append, tokens_closeBracket]
    exact skip_emptyArray _
  case array text _ ih =>
    intro rest _
    obtain ⟨ts, hs, hi⟩ := ih (']' :: rest) (endsNumber_cons _ (by decide))
    rw [tokens_closeBracket] at hi
    rw [List.cons_append, List.append_assoc, tokens_openBracket]
    exact skip_array hs (hi _ (skipItems_close _))
  case emptyObject gap hg =>
    intro rest _
    rw [List.cons_append, List.append_assoc, tokens_openBrace, tokens_gap hg,
      List.singleton_append, tokens_closeBrace]
    exact skip_emptyObject _
  case object text _ ih =>
    intro rest _
    obtain ⟨ts, hs, he⟩ := ih ('\x7d' :: rest) (endsNumber_cons _ (by decide))
    rw [tokens_closeBrace] at he
    rw [List.cons_append, List.append_assoc, tokens_openBrace]
    exact skip_object hs (he _ (skipEntries_close _))
  case item before text after hb _ ha ih =>
    intro rest hr
    have hs := ih (after ++ rest) (endsNumber_gap ha hr)
    rw [tokens_gap ha] at hs
    refine ⟨_, ?_, fun left h => h⟩
    rwa [List.append_assoc, List.append_assoc, tokens_gap hb]
  case items text more _ _ ih ih' =>
    intro rest hr
    obtain ⟨ts, hs, hi⟩ := ih (',' :: (more ++ rest)) (endsNumber_cons _ (by decide))
    obtain ⟨ts', hs', hi'⟩ := ih' rest hr
    rw [tokens_comma] at hi
    refine ⟨ts, by rwa [List.append_assoc], fun left h => hi left ?_⟩
    exact skipItems_comma hs' (hi' left h)
  case entry before key inner inner' text after hb hk hi hi' _ ha ih =>
    intro rest hr
    have hs := ih (after ++ rest) (endsNumber_gap ha hr)
    rw [tokens_gap ha] at hs
    have hl : before ++ (key ++ (inner ++ ':' :: (inner' ++ (text ++ after)))) ++ rest =
        before ++ (key ++ (inner ++ ':' :: (inner' ++ (text ++ (after ++ rest))))) := by simp
    obtain ⟨content, he⟩ :=
      tokens_of_isString hk (inner ++ ':' :: (inner' ++ (text ++ (after ++ rest))))
    refine ⟨_, ?_, fun left h => h⟩
    rw [hl, tokens_gap hb, he, tokens_gap hi, tokens_colon, tokens_gap hi']
    exact skipEntry_colon content hs
  case entries text more _ _ ih ih' =>
    intro rest hr
    obtain ⟨ts, hs, he⟩ := ih (',' :: (more ++ rest)) (endsNumber_cons _ (by decide))
    obtain ⟨ts', hs', he'⟩ := ih' rest hr
    rw [tokens_comma] at he
    refine ⟨ts, by rwa [List.append_assoc], fun left h => he left ?_⟩
    exact skipEntries_comma hs' (he' left h)

theorem readAs_skip {text : List Char} (h : WellFormed .value text) : ReadAs skip text () :=
  skipped_of_wellFormed h

end Texts

end EntitySearch.Json
