import EntitySearch.Proofs.Store.Steps

namespace EntitySearch.Store

section FullText

variable {c : Contents} {term : String}

-- The entities with an id. Within a collection there is one at most.
def Contents.withId (c : Contents) (id : String) : List Entity :=
  c.entities.filter (·.id = id)

-- How often each of some words comes among others. A word that is repeated counts again.
def countsIn (ws among : List String) : List Nat :=
  ws.map among.count

-- Holds of an entity that has all of some words in its own text, and of a hit that stands for it.
structure Entity.Matches (e : Entity) (ws : List String) (h : Hit String Double) : Prop where
  id     : e.id = h.id
  text   : ∀ word ∈ ws, word ∈ words e.text
  weight : h.weight.CountsAs (countsIn ws (words e.text))

theorem occurrencesIn_profiles (c : Contents) (id word : String) :
    occurrencesIn (c.entities.map Entity.profile) id word =
      ((c.withId id).flatMap (words ·.text)).count word := by
  rw [occurrencesIn, List.filter_map, List.flatMap_map]
  rfl

-- A hit has all words in the texts of the entities with its id, taken together.
theorem of_mem_textQuery {h : Hit String Double} (hm : h ∈ (ofContents c).textQuery term) :
    (words term ≠ []) ∧ (∀ word ∈ words term, ∃ e ∈ c.withId h.id, word ∈ words e.text) ∧
      (h.weight.CountsAs (countsIn (words term) ((c.withId h.id).flatMap (words ·.text)))) := by
  rw [textQuery_eq] at hm
  obtain ⟨hne, hp, hw⟩ := mem_scanText.1 hm
  refine ⟨hne, fun word hword => ?_, ?_⟩
  · have hc := hp word hword
    rwa [occurrencesIn_profiles, List.count_pos_iff, List.mem_flatMap] at hc
  · have hc : (words term).map (occurrencesIn (c.entities.map Entity.profile) h.id) =
        countsIn (words term) ((c.withId h.id).flatMap (words ·.text)) :=
      List.map_congr_left fun word _ => occurrencesIn_profiles ..
    rw [hw, hc]
    exact Double.countsAs_totalOf _

-- Entities of one collection that have an id in common are one entity.
theorem withId_eq_singleton {e : Entity} {id : String}
    (hd : (c.entities.map fun e => (e.collection, e.id)).Nodup) (he : e ∈ c.withId id)
    (hc : ∀ e' ∈ c.withId id, e'.collection = e.collection) : c.withId id = [e] := by
  have hk : (c.withId id).map (fun e => (e.collection, e.id)) =
      .replicate (c.withId id).length (e.collection, id) := by
    refine List.eq_replicate_iff.2 ⟨List.length_map _, fun k hk => ?_⟩
    obtain ⟨e', he', rfl⟩ := List.mem_map.1 hk
    rw [hc e' he', of_decide_eq_true (List.mem_filter.1 he').2]
  have hn : (List.replicate (c.withId id).length (e.collection, id)).Nodup := by
    rw [← hk]
    exact hd.sublist (List.filter_sublist.map _)
  have hl : (c.withId id).length ≤ 1 := List.nodup_replicate.1 hn
  obtain ⟨e', hs⟩ := List.length_eq_one_iff.1 (Nat.le_antisymm hl (List.length_pos_of_mem he))
  rw [hs, List.mem_singleton] at he
  rw [hs, he]

-- The texts of all entities with one id are searched together, of whatever collections they are. A
-- hit has each word in the text of one of the entities with its id, and weighs the number of times
-- that they have the words. If these are of one collection, they are one entity, which matches by
-- itself.
theorem fullText_matches (c : Contents) (term : String)
    (hd : (c.entities.map fun e => (e.collection, e.id)).Nodup) :
    ∃ hits, ((ofContents c).backend.fullText term = .ok hits) ∧ ∀ h ∈ hits,
      (∀ word ∈ words term, ∃ e ∈ c.withId h.id, word ∈ words e.text) ∧
      (h.weight.CountsAs (countsIn (words term) ((c.withId h.id).flatMap (words ·.text)))) ∧
      ((∀ e ∈ c.withId h.id, ∀ e' ∈ c.withId h.id, e.collection = e'.collection) →
        ∃ e ∈ c.entities, e.Matches (words term) h) := by
  refine ⟨_, rfl, fun h hm => ?_⟩
  obtain ⟨hne, hw, hn⟩ := of_mem_textQuery hm
  refine ⟨hw, hn, fun ho => ?_⟩
  obtain ⟨word, hword⟩ := List.exists_mem_of_ne_nil _ hne
  obtain ⟨e, he, -⟩ := hw word hword
  have hs := withId_eq_singleton hd he fun e' he' => ho e' he' e he
  rw [hs, List.flatMap_singleton] at hn
  simp only [hs, List.mem_singleton, exists_eq_left] at hw
  have hi := List.mem_filter.1 he
  exact ⟨e, hi.1, of_decide_eq_true hi.2, hw, hn⟩

-- An id that entities of two collections share, and one that belongs to a single entity.
theorem fullText_matches_two_collections :
    let c : Contents := {
      entities := [⟨"a", "note", "parser", ∅⟩, ⟨"a", "person", "rust parser", ∅⟩,
        ⟨"b", "note", "Rust parser, parser", ∅⟩]
      links := [] }
    let hits : List (Hit String Double) := [⟨"a", .ofNat 3⟩, ⟨"b", .ofNat 3⟩]
    ((c.entities.map fun e => (e.collection, e.id)).Nodup) ∧
    ((ofContents c).backend.fullText "parser rust" = .ok hits) ∧ ∀ h ∈ hits,
      (∀ word ∈ words "parser rust", ∃ e ∈ c.withId h.id, word ∈ words e.text) ∧
      (h.weight.CountsAs (countsIn (words "parser rust")
        ((c.withId h.id).flatMap (words ·.text)))) ∧
      ((∀ e ∈ c.withId h.id, ∀ e' ∈ c.withId h.id, e.collection = e'.collection) →
        ∃ e ∈ c.entities, e.Matches (words "parser rust") h) := by
  intro c hits
  have hd : (c.entities.map fun e => (e.collection, e.id)).Nodup := by decide
  have he : (ofContents c).backend.fullText "parser rust" = .ok hits :=
    fullText_of_scanText (by decide +kernel)
  obtain ⟨found, hf, h⟩ := fullText_matches c "parser rust" hd
  rw [Except.ok.inj (hf.symm.trans he)] at h
  exact ⟨hd, he, h⟩

-- A note and a person with the same id may have all words only together.
theorem not_forall_fullText_matches :
    ¬∀ (c : Contents) (term : String), (c.entities.map fun e => (e.collection, e.id)).Nodup →
      words term ≠ [] → ∀ hits, (ofContents c).backend.fullText term = .ok hits →
        ∀ h ∈ hits, ∃ e ∈ c.entities, e.Matches (words term) h := by
  intro hall
  let c : Contents := {
    entities := [⟨"a", "note", "parser", ∅⟩, ⟨"a", "person", "rust", ∅⟩]
    links := [] }
  have ht : words "parser rust" = ["parser", "rust"] := by decide +kernel
  have hf : (ofContents c).backend.fullText "parser rust" = .ok [⟨"a", .ofNat 2⟩] :=
    fullText_of_scanText (by decide +kernel)
  have hne : words "parser rust" ≠ [] := by simp [ht]
  obtain ⟨e, he, hm⟩ := hall c "parser rust" (by decide) hne _ hf _ (List.mem_singleton.2 rfl)
  have hn : ∀ e ∈ c.entities, ¬("parser" ∈ words e.text ∧ "rust" ∈ words e.text) := by
    decide +kernel
  exact hn e he ⟨hm.text _ (by simp [ht]), hm.text _ (by simp [ht])⟩

end FullText

end EntitySearch.Store
