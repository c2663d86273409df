import EntitySearch.Json.Reader
import EntitySearch.Proofs.Json.Lexing

namespace EntitySearch

namespace Reading

variable {τ ε α β : Type} {m n : Nat} {a : α} {rest : List τ}

-- Holds of a reading that finds a value and leaves some tokens behind it.
def Gives (r : Reading τ ε α n) (a : α) (rest : List τ) : Prop :=
  ∃ fewer, r = .found a rest fewer

theorem Gives.weaken {r : Reading τ ε α m} (hr : r.Gives a rest) (h : m ≤ n) :
    (r.weaken h).Gives a rest := by
  obtain ⟨fewer, rfl⟩ := hr
  exact ⟨_, rfl⟩

theorem Gives.map {r : Reading τ ε α n} (hr : r.Gives a rest) (f : α → β) :
    (r.map f).Gives (f a) rest := by
  obtain ⟨fewer, rfl⟩ := hr
  exact ⟨_, rfl⟩

end Reading

namespace Json

variable {α σ : Type}

section ReadAs

-- Holds of a reader that reads a text as a value, whatever stands behind the text.
def ReadAs (reader : Reader α) (text : List Char) (a : α) : Prop :=
  ∀ rest, EndsNumber rest → (reader (tokens (text ++ rest))).Gives a (tokens rest)

-- Holds of a reader that finds nothing where a bracket closes.
def RefusesClosing (reader : Reader α) : Prop :=
  ∀ ts a rest, ¬(reader (.closeBracket :: ts)).Gives a rest

theorem RefusesClosing.map {β : Type} {reader : Reader α} (h : RefusesClosing reader) (f : α → β) :
    RefusesClosing fun ts => (reader ts).map f := by
  rintro ts b rest ⟨_, hb⟩
  cases hr : reader (.closeBracket :: ts)
  case found a rest' fewer => exact h ts a rest' ⟨fewer, hr⟩
  case failed              => simp only [hr, Reading.map, reduceCtorEq] at hb

theorem endsNumber_cons {c : Char} (cs : List Char)
    (h : c.isDigit = false ∧ c ≠ '.' ∧ c ≠ 'e' ∧ c ≠ 'E') : EndsNumber (c :: cs) := by
  rintro d ⟨rfl⟩
  exact h

theorem endsNumber_gap {gap rest : List Char} (h : IsGap gap) (hr : EndsNumber rest) :
    EndsNumber (gap ++ rest) := by
  cases gap
  case nil => exact hr
  case cons c gap =>
    have hc := h c List.mem_cons_self
    simp only [isSpace, Bool.or_eq_true, decide_eq_true_eq] at hc
    refine endsNumber_cons _ ?_
    rcases hc with ((rfl | rfl) | rfl) | rfl <;> decide

-- What is spelled may be more than the value that it is read as.
theorem readAs_spaced {β : Type} {reader : Reader α} {Spells : List Char → β → Prop}
    {text : List Char} {a : α} {b : β} (hs : ∀ text, Spells text b → ReadAs reader text a)
    (h : Spaced Spells text b) : ReadAs reader text a := by
  intro rest hr
  cases h
  case intro before text after hb ha ht =>
    have hg := hs text ht (after ++ rest) (endsNumber_gap ha hr)
    rw [tokens_gap ha] at hg
    rwa [List.append_assoc, List.append_assoc, tokens_gap hb]

theorem readAs_string {text : List Char} {s : String} (h : SpellsString text s) :
    ReadAs string text s := by
  intro rest _
  rw [tokens_of_spellsString h]
  exact ⟨_, rfl⟩

theorem refusesClosing_string : RefusesClosing string := by
  rintro ts a rest ⟨_, h⟩
  cases h

end ReadAs

section Map

variable {β : Type} {Spells : List Char → α → Prop} {Spells' : List Char → β → Prop}
  {text : List Char}

theorem Spaced.map {a : α} {b : β} (hs : ∀ text, Spells text a → Spells' text b)
    (h : Spaced Spells text a) : Spaced Spells' text b := by
  cases h
  case intro hb ha ht => exact .intro hb (hs _ ht) ha

theorem Separated.map {as : List α} (f : α → β) (hs : ∀ text a, Spells text a → Spells' text (f a))
    (h : Separated Spells text as) : Separated Spells' text (as.map f) := by
  induction h
  case one h          => exact .one (h.map fun text => hs text _)
  case cons h _ ih => exact .cons (h.map fun text => hs text _) ih

theorem Enclosed.map {opening closing : Char} {as : List α} (f : α → β)
    (hs : ∀ text a, Spells text a → Spells' text (f a))
    (h : Enclosed opening closing Spells text as) :
    Enclosed opening closing Spells' text (as.map f) := by
  cases h
  case empty hg => exact .empty hg
  case full h   => exact .full (h.map f hs)

end Map

section Arrays

variable {item : Reader α} {Spells : List Char → α → Prop} {ts ts' rest : List Token} {a : α}
  {as : List α}

theorem furtherItems_close (item : Reader α) (ts : List Token) :
    (furtherItems item (.closeBracket :: ts)).Gives [] ts := by
  rw [furtherItems]
  exact ⟨_, rfl⟩

theorem furtherItems_comma (hi : (item ts).Gives a ts')
    (hf : (furtherItems item ts').Gives as rest) :
    (furtherItems item (.comma :: ts)).Gives (a :: as) rest := by
  obtain ⟨_, hi⟩ := hi
  obtain ⟨_, hf⟩ := hf
  rw [furtherItems, hi]
  simp only [hf]
  exact ⟨_, rfl⟩

theorem array_empty (item : Reader α) (ts : List Token) :
    (array item (.openBracket :: .closeBracket :: ts)).Gives [] ts :=
  ⟨_, rfl⟩

theorem array_items (hc : RefusesClosing item) (hi : (item ts).Gives a ts')
    (hf : (furtherItems item ts').Gives as rest) :
    (array item (.openBracket :: ts)).Gives (a :: as) rest := by
  have hne (us : List Token) : ts ≠ .closeBracket :: us := by
    rintro rfl
    exact hc us a ts' hi
  obtain ⟨_, hi⟩ := hi
  obtain ⟨_, hf⟩ := hf
  rw [array]
  · simp only [hi, hf]
    exact ⟨_, rfl⟩
  · exact hne

-- The first item, and the further ones up to the closing bracket.
theorem items_of_separated (hs : ∀ text a, Spells text a → ReadAs item text a)
    {text : List Char} (h : Separated Spells text as) (rest : List Char) :
    ∃ a more ts, (as = a :: more) ∧ ((item (tokens (text ++ ']' :: rest))).Gives a ts) ∧
      ((furtherItems item ts).Gives more (tokens rest)) := by
  induction h
  case one text a h =>
    have hi := readAs_spaced (fun text => hs text a) h (']' :: rest) (endsNumber_cons _ (by decide))
    rw [tokens_closeBracket] at hi
    exact ⟨a, [], _, rfl, hi, furtherItems_close ..⟩
  case cons text more a as h _ ih =>
    obtain ⟨b, bs, ts, rfl, hb, hf⟩ := ih
    have hi := readAs_spaced (fun text => hs text a) h (',' :: (more ++ ']' :: rest))
      (endsNumber_cons _ (by decide))
    rw [tokens_comma] at hi
    refine ⟨a, b :: bs, _, rfl, ?_, furtherItems_comma hb hf⟩
    rwa [List.append_assoc]

theorem readAs_array (hc : RefusesClosing item)
    (hs : ∀ text a, Spells text a → ReadAs item text a) {text : List Char}
    (h : Enclosed '[' ']' Spells text as) : ReadAs (array item) text as := by
  intro rest _
  cases h
  case empty gap hg =>
    rw [List.cons_append, List.append_assoc, tokens_openBracket, tokens_gap hg,
      List.singleton_append, tokens_closeBracket]
    exact array_empty item (tokens rest)
  case full text h =>
    obtain ⟨a, more, ts, rfl, ha, hf⟩ := items_of_separated hs h rest
    rw [List.cons_append, List.append_assoc, tokens_openBracket]
    exact array_items hc ha hf

theorem refusesClosing_array (item : Reader α) : RefusesClosing (array item) := by
  rintro ts a rest ⟨_, h⟩
  cases h

end Arrays

section Objects

variable {read : EntryReader σ} {s s' s'' : σ} {ts ts' rest : List Token}

theorem furtherEntries_close (read : EntryReader σ) (s : σ) (ts : List Token) :
    (furtherEntries read s (.closeBrace :: ts)).Gives s ts := by
  rw [furtherEntries]
  exact ⟨_, rfl⟩

theorem furtherEntries_comma (he : (entry read s ts).Gives s' ts')
    (hf : (furtherEntries read s' ts').Gives s'' rest) :
    (furtherEntries read s (.comma :: ts)).Gives s'' rest := by
  obtain ⟨_, he⟩ := he
  rw [furtherEntries, he]
  exact hf.weaken _

theorem entries_close (read : EntryReader σ) (s : σ) (ts : List Token) :
    (entries read s (.closeBrace :: ts)).Gives s ts :=
  ⟨_, rfl⟩

theorem entries_entry (he : (entry read s ts).Gives s' ts')
    (hf : (furtherEntries read s' ts').Gives s'' rest) :
    (entries read s ts).Gives s'' rest := by
  have hne (us : List Token) : ts ≠ .closeBrace :: us := by
    rintro rfl
    obtain ⟨_, he⟩ := he
    cases he
  obtain ⟨_, he⟩ := he
  rw [entries]
  · simp only [he]
    exact hf.weaken _
  · exact hne

variable {Spells : List Char → α → Prop}

-- The state depends on the entries that have been read. The first entry, and the further ones up to
-- the closing brace.
theorem entries_of_separated {state : List α → σ} {as all : List α} (done : List α)
    (hall : all = done ++ as)
    (hs : ∀ before a after, all = before ++ a :: after → ∀ text, Spells text a →
      ReadAs (entry read (state before)) text (state (before ++ [a])))
    {text : List Char} (h : Separated Spells text as) (rest : List Char) :
    ∃ s ts, ((entry read (state done) (tokens (text ++ '\x7d' :: rest))).Gives s ts) ∧
      ((furtherEntries read s ts).Gives (state all) (tokens rest)) := by
  induction h generalizing done
  case one text a h =>
    have he := readAs_spaced (hs done a [] hall) h ('\x7d' :: rest)
      (endsNumber_cons _ (by decide))
    rw [tokens_closeBrace] at he
    exact ⟨_, _, he, hall ▸ furtherEntries_close ..⟩
  case cons text more a as h _ ih =>
    have he := readAs_spaced (hs done a as hall) h (',' :: (more ++ '\x7d' :: rest))
      (endsNumber_cons _ (by decide))
    rw [tokens_comma] at he
    obtain ⟨s, ts, hb, hf⟩ := ih (done ++ [a]) (by rw [hall]; simp)
    exact ⟨_, _, by rwa [List.append_assoc], furtherEntries_comma hb hf⟩

theorem entries_of_enclosed {state : List α → σ} {all : List α}
    (hs : ∀ before a after, all = before ++ a :: after → ∀ text, Spells text a →
      ReadAs (entry read (state before)) text (state (before ++ [a])))
    {text : List Char} (h : Enclosed '\x7b' '\x7d' Spells text all) (rest : List Char) :
    ∃ ts, (tokens (text ++ rest) = .openBrace :: ts) ∧
      ((entries read (state []) ts).Gives (state all) (tokens rest)) := by
  cases h
  case empty gap hg =>
    refine ⟨_, by rw [List.cons_append, tokens_openBrace], ?_⟩
    rw [List.append_assoc, tokens_gap hg, List.singleton_append, tokens_closeBrace]
    exact entries_close ..
  case full text h =>
    obtain ⟨s, ts, he, hf⟩ := entries_of_separated [] rfl hs h rest
    refine ⟨_, by rw [List.cons_append, tokens_openBrace], ?_⟩
    rw [List.append_assoc]
    exact entries_entry he hf

-- An entry is read by its key.
theorem readAs_entry {SpellsValue : String → List Char → α → Prop} {key : String} {a : α}
    {value : Reader σ} (hk : read key s = .ok value)
    (hv : ∀ text, SpellsValue key text a → ReadAs value text s') :
    ∀ text, SpellsEntry SpellsValue text (key, a) → ReadAs (entry read s) text s' := by
  intro text h rest hr
  cases h
  case intro keyText before after text hb ha ht hs =>
    have hg := hv text hs rest hr
    have hl : keyText ++ (before ++ ':' :: (after ++ text)) ++ rest =
        keyText ++ (before ++ ':' :: (after ++ (text ++ rest))) := by simp
    rw [hl, tokens_of_spellsString ht, tokens_gap hb, tokens_colon, tokens_gap ha, entry]
    simp only [hk]
    exact hg.weaken _

theorem refusesClosing_object (read : EntryReader σ) (s : σ) : RefusesClosing (object read s) := by
  rintro ts a rest ⟨_, h⟩
  cases h

end Objects

section Values

variable {text : List Char}

theorem readAs_value_string (depth : Nat) {s : String} (h : SpellsString text s) :
    ReadAs (value depth) text (.string s) := by
  intro rest _
  rw [tokens_of_spellsString h]
  cases depth <;> exact ⟨_, rfl⟩

theorem refusesClosing_value (depth : Nat) : RefusesClosing (value depth) := by
  rintro ts a rest ⟨_, h⟩
  cases depth <;> cases h

theorem readAs_value_array (depth : Nat) {vs : List Value}
    (h : Enclosed '[' ']' (ReadAs (value depth)) text vs) :
    ReadAs (value (depth + 1)) text (.array vs) := by
  intro rest hr
  have ha := readAs_array (refusesClosing_value depth) (fun _ _ h => h) h rest hr
  obtain ⟨ts, ht⟩ : ∃ ts, tokens (text ++ rest) = .openBracket :: ts := by
    cases h <;> exact ⟨_, tokens_openBracket _⟩
  rw [ht] at ha ⊢
  exact ha.map Value.array

end Values

theorem readText_eq_ok {reader : Reader α} {text : String} {a : α}
    (h : ReadAs reader text.toList a) : readText reader text = .ok a := by
  have hg := h [] nofun
  have ht : tokens [] = [] := by rw [tokens]
  rw [List.append_nil, ht] at hg
  obtain ⟨_, hg⟩ := hg
  simp only [readText, hg]

end Json

end EntitySearch
