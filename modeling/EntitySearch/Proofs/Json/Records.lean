import EntitySearch.Proofs.Json.Skipping

namespace EntitySearch.Json

section Fields

variable {α σ : Type}

-- Holds of a field that is read into drafts as it is spelled. A draft depends on the keys that have
-- been read.
structure ReadsField (draft : List String → σ) (f : Field σ) (p : FieldSpelling) : Prop where
  name    : f.name = p.name
  isSet   : ∀ keys, f.isSet (draft keys) ↔ p.name ∈ keys
  refuses : ∀ keys, RefusesClosing (f.read (draft keys))
  read    : ∀ keys text, p.Spells text →
    ReadAs (f.read (draft keys)) text (draft (keys ++ [p.name]))

-- Holds of a record that is built from its drafts when all fields have been read but optional ones.
structure Record.Builds (r : Record σ α) (fields : List FieldSpelling) (draft : List String → σ)
    (a : α) : Prop where
  start  : r.start = draft []
  reads  : List.Forall₂ (ReadsField draft) r.fields fields
  other  : ∀ keys key, (∀ p ∈ fields, p.name ≠ key) → draft (keys ++ [key]) = draft keys
  build  : ∀ keys, (∀ p ∈ fields, p.name ∈ keys ∨ p.Optional) → r.build (draft keys) = .ok a

variable {r : Record σ α} {fs : List (Field σ)} {fields : List FieldSpelling}
  {draft : List String → σ} {a : α}

-- A key is that of a field, or of none.
theorem find?_cases (h : List.Forall₂ (ReadsField draft) fs fields) (key : String) :
    (∃ f p, fs.find? (·.name = key) = some f ∧ p ∈ fields ∧ p.name = key ∧ ReadsField draft f p) ∨
      (fs.find? (·.name = key) = none ∧ ∀ p ∈ fields, p.name ≠ key) := by
  induction h
  case nil => exact .inr ⟨rfl, nofun⟩
  case cons f p fs fields h _ ih =>
    by_cases hk : p.name = key
    case pos =>
      have hf : f.name = key := h.name.trans hk
      exact .inl ⟨f, p, by simp [hf], List.mem_cons_self, hk, h⟩
    case neg =>
      have hf : f.name ≠ key := h.name ▸ hk
      simp only [List.find?_cons_of_neg, hf, decide_false, Bool.false_eq_true, not_false_eq_true,
        List.mem_cons, forall_eq_or_imp]
      refine ih.imp ?_ fun ⟨hn, ha⟩ => ⟨hn, hk, ha⟩
      rintro ⟨g, q, hg, hq, hn, hr⟩
      exact ⟨g, q, hg, .inr hq, hn, hr⟩

-- An entry of an object is read under a key that is new, or that is of no field.
theorem Record.Builds.readAs_readEntry (hb : r.Builds fields draft a) {keys : List String}
    {key : String} (hk : (∃ p ∈ fields, p.name = key) → key ∉ keys) :
    ∀ text, SpellsEntry (SpellsField fields) text (key, ()) →
      ReadAs (entry r.readEntry (draft keys)) text (draft (keys ++ [key])) := by
  rcases find?_cases hb.reads key with ⟨f, p, hf, hp, rfl, hr⟩ | ⟨hf, hn⟩
  case inl =>
    have hs : ¬f.isSet (draft keys) := mt (hr.isSet keys).1 (hk ⟨p, hp, rfl⟩)
    have he : r.readEntry p.name (draft keys) = .ok (f.read (draft keys)) := by
      simp only [Record.readEntry, hf]
      exact if_neg hs
    exact readAs_entry he fun text ht => hr.read keys text (ht.1 p hp rfl)
  case inr =>
    have he : r.readEntry key (draft keys) = .ok fun ts => (skip ts).map fun _ => draft keys := by
      simp only [Record.readEntry, hf]
    rw [hb.other keys key hn]
    exact readAs_entry he fun text ht rest hr => (readAs_skip (ht.2 hn) rest hr).map _

theorem finish_gives {n : Nat} {p : Parsed σ n} {s : σ} {rest : List Token}
    (hs : r.build s = .ok a) (h : p.Gives s rest) (missing : Nat → Mismatch) :
    (r.finish missing p).Gives a rest := by
  obtain ⟨fewer, rfl⟩ := h
  simp only [Record.finish, hs]
  exact ⟨_, rfl⟩

theorem refusesClosing_record (r : Record σ α) : RefusesClosing r.read := by
  rintro ts a rest ⟨_, h⟩
  cases h

end Fields

section Layouts

variable {α σ : Type} {r : Record σ α} {fields : List FieldSpelling} {draft : List String → σ}
  {a : α}

theorem Record.Builds.readAs_object (hb : r.Builds fields draft a) {text : List Char}
    {entries : List (String × Unit)}
    (h : Enclosed '\x7b' '\x7d' (SpellsEntry (SpellsField fields)) text entries)
    (hc : ∀ p ∈ fields, (entries.map Prod.fst).count p.name = 1 ∨
      p.name ∉ entries.map Prod.fst ∧ p.Optional) : ReadAs r.read text a := by
  intro rest _
  have hs : ∀ before e after, entries = before ++ e :: after → ∀ text,
      SpellsEntry (SpellsField fields) text e →
      ReadAs (entry r.readEntry (draft (before.map Prod.fst))) text
        (draft ((before ++ [e]).map Prod.fst)) := by
    rintro before ⟨key, ⟨⟩⟩ after rfl
    rw [List.map_append]
    refine hb.readAs_readEntry ?_
    rintro ⟨p, hp, rfl⟩ hm
    have hp' := hc p hp
    simp only [List.map_append, List.map_cons, List.count_append, List.count_cons_self,
      List.mem_append, List.mem_cons, true_or, or_true, not_true_eq_false, false_and,
      or_false] at hp'
    have := List.count_pos_iff.2 hm
    omega
  have hbuild := hb.build (entries.map Prod.fst) fun p hp =>
    (hc p hp).imp (fun h => List.count_pos_iff.1 (by omega)) And.right
  obtain ⟨ts, ht, he⟩ := entries_of_enclosed hs h rest
  rw [List.map_nil, ← hb.start] at he
  rw [ht]
  exact (finish_gives hbuild he _).weaken (Nat.le_succ _)

theorem furtherFields_close (s : σ) (fs : List (Field σ)) (ts : List Token) :
    (Record.furtherFields s fs (.closeBracket :: ts)).Gives s ts := by
  cases fs <;> exact ⟨_, rfl⟩

theorem furtherFields_comma {s s' s'' : σ} {f : Field σ} {fs : List (Field σ)}
    {ts ts' rest : List Token} (h : (f.read s ts).Gives s' ts')
    (hf : (Record.furtherFields s' fs ts').Gives s'' rest) :
    (Record.furtherFields s (f :: fs) (.comma :: ts)).Gives s'' rest := by
  obtain ⟨_, h⟩ := h
  simp only [Record.furtherFields, h]
  exact hf.weaken _

-- The first field, and the further ones up to the closing bracket.
theorem fields_of_separated {given left : List FieldSpelling} {text : List Char}
    (h : Separated (fun text (p : FieldSpelling) => p.Spells text) text given) (rest : List Char)
    (keys : List String) {fs : List (Field σ)}
    (hf : List.Forall₂ (ReadsField draft) fs (given ++ left)) :
    ∃ f more s ts, (fs = f :: more) ∧
      ((f.read (draft keys) (tokens (text ++ ']' :: rest))).Gives s ts) ∧
      ((Record.furtherFields s more ts).Gives (draft (keys ++ given.map (·.name)))
        (tokens rest)) := by
  induction h generalizing keys fs
  case one text p h =>
    obtain ⟨f, fs, hp, -, rfl⟩ := List.forall₂_cons_right_iff.1 hf
    have hr := readAs_spaced (hp.read keys) h (']' :: rest) (endsNumber_cons _ (by decide))
    rw [tokens_closeBracket] at hr
    exact ⟨f, fs, _, _, rfl, hr, furtherFields_close ..⟩
  case cons text more p given h _ ih =>
    obtain ⟨f, fs, hp, hfs, rfl⟩ := List.forall₂_cons_right_iff.1 hf
    obtain ⟨g, gs, s, ts, rfl, hg, hs⟩ := ih (keys ++ [p.name]) hfs
    have hr := readAs_spaced (hp.read keys) h (',' :: (more ++ ']' :: rest))
      (endsNumber_cons _ (by decide))
    rw [tokens_comma] at hr
    refine ⟨f, g :: gs, _, _, rfl, by rwa [List.append_assoc], ?_⟩
    rw [List.append_assoc] at hs
    exact furtherFields_comma hg hs

theorem itemFields_close (r : Record σ α) (ts : List Token) :
    (r.itemFields (.closeBracket :: ts)).Gives r.start ts := by
  rw [Record.itemFields.eq_def]
  exact ⟨_, rfl⟩

theorem itemFields_cons {f : Field σ} {fs : List (Field σ)} {ts ts' rest : List Token} {s s' : σ}
    (hf : r.fields = f :: fs) (hc : RefusesClosing (f.read r.start))
    (h : (f.read r.start ts).Gives s ts')
    (hs : (Record.furtherFields s fs ts').Gives s' rest) : (r.itemFields ts).Gives s' rest := by
  have hne (us : List Token) : ts ≠ .closeBracket :: us := by
    rintro rfl
    exact hc us s ts' h
  obtain ⟨_, h⟩ := h
  obtain ⟨_, _, _, _⟩ := r
  cases hf
  rw [Record.itemFields]
  simp only [h]
  exact hs.weaken _

theorem Record.Builds.itemFields (hb : r.Builds fields draft a) {text : List Char}
    {given left : List FieldSpelling}
    (h : Separated (fun text (p : FieldSpelling) => p.Spells text) text given)
    (hf : fields = given ++ left) (rest : List Char) :
    (r.itemFields (tokens (text ++ ']' :: rest))).Gives (draft (given.map (·.name)))
      (tokens rest) := by
  have hr := hb.reads
  rw [hf] at hr
  obtain ⟨f, fs, s, ts, hfs, hg, hs⟩ := fields_of_separated h rest [] hr
  rw [hfs] at hr
  obtain ⟨p, -, hp, -, -⟩ := List.forall₂_cons_left_iff.1 hr
  rw [← hb.start] at hg
  exact itemFields_cons hfs (hb.start ▸ hp.refuses []) hg hs

theorem Record.Builds.readAs_array (hb : r.Builds fields draft a) {text : List Char}
    {given left : List FieldSpelling}
    (h : Enclosed '[' ']' (fun text (p : FieldSpelling) => p.Spells text) text given)
    (hf : fields = given ++ left) (hl : ∀ p ∈ left, p.Optional) : ReadAs r.read text a := by
  intro rest _
  have hbuild := hb.build (given.map (·.name)) fun p hp => by
    rw [hf, List.mem_append] at hp
    exact hp.imp (fun hp => List.mem_map_of_mem hp) (hl p)
  cases h
  case empty gap hg =>
    rw [List.cons_append, List.append_assoc, tokens_openBracket, tokens_gap hg,
      List.singleton_append, tokens_closeBracket]
    have hi := itemFields_close r (tokens rest)
    rw [hb.start] at hi
    exact (finish_gives hbuild hi _).weaken (Nat.le_succ _)
  case full text h =>
    rw [List.cons_append, List.append_assoc, tokens_openBracket]
    exact (finish_gives hbuild (hb.itemFields h hf rest) _).weaken (Nat.le_succ _)

theorem Record.Builds.readAs (hb : r.Builds fields draft a) {text : List Char}
    (h : SpellsRecord fields text) : ReadAs r.read text a := by
  cases h
  case object h hc   => exact hb.readAs_object h hc
  case array h hf hl => exact hb.readAs_array h hf hl

end Layouts

end EntitySearch.Json
