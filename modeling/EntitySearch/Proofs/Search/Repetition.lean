import EntitySearch.Proofs.Query.Reading
import EntitySearch.Proofs.Query.Relation
import EntitySearch.Proofs.Query.Unmerged
import EntitySearch.Proofs.Store.Conjunction

namespace EntitySearch

namespace Store

section Scans

variable {ps : List Profile} {collection subpath value id : String}

theorem exists_of_mem_scanTagged (h : id ∈ scanTagged ps collection subpath value) :
    ∃ p ∈ ps, (p.collection = collection) ∧ (p.id = id) := by
  obtain ⟨p, hp, hm⟩ := List.mem_flatMap.1 h
  split at hm
  case isTrue hc => exact ⟨p, hp, hc, (List.eq_of_mem_replicate hm).symm⟩
  case isFalse   => cases hm

-- An entity with an id of its own comes once for each time that it has a value.
theorem count_scanTagged {p : Profile} (hd : (ps.map Profile.id).Nodup) (hp : p ∈ ps)
    (subpath value : String) :
    (scanTagged ps p.collection subpath value).count p.id = (p.values subpath).count value := by
  obtain ⟨before, after, rfl⟩ := List.append_of_mem hp
  rw [List.map_append, List.map_cons, List.nodup_append, List.nodup_cons] at hd
  have hb : p.id ∉ scanTagged before p.collection subpath value := fun h =>
    have ⟨p', hm, _, hi⟩ := exists_of_mem_scanTagged h
    hd.2.2 _ (List.mem_map_of_mem hm) _ List.mem_cons_self hi
  have ha : p.id ∉ scanTagged after p.collection subpath value := fun h =>
    have ⟨p', hm, _, hi⟩ := exists_of_mem_scanTagged h
    hd.2.1.1 (hi ▸ List.mem_map_of_mem hm)
  rw [scanTagged] at hb ha ⊢
  rw [List.flatMap_append, List.flatMap_cons, List.count_append, List.count_append,
    List.count_eq_zero.2 hb, List.count_eq_zero.2 ha, if_pos rfl, List.count_replicate_self,
    Nat.add_zero, Nat.zero_add]

-- The ends of links, each with the id at the other end.
def linkEnds (links : List Link) : List (Reference × String) :=
  links.flatMap fun l => [(l.source, l.target.id), (l.target, l.source.id)]

theorem count_scanLinked (links : List Link) (r : Reference) (id : String) :
    (scanLinked links r).count id = (linkEnds links).count (r, id) := by
  have h : scanLinked links r = ((linkEnds links).filter (·.1 = r)).map Prod.snd := by
    rw [scanLinked, linkEnds, List.filter_flatMap, List.map_flatMap]
    refine List.flatMap_congr fun l _ => ?_
    by_cases hs : l.source = r <;> by_cases ht : l.target = r <;> simp [hs, ht]
  rw [h, List.count, List.countP_map, List.countP_filter, List.count]
  refine List.countP_congr fun e _ => ?_
  cases e
  simp [and_comm]

end Scans

section Lookups

variable {c : Contents} {id : String} {hits : List (Hit String Double)}

-- How often a lookup finds an id: as often as the entity has a value, or as it is linked.
inductive Contents.Finds (c : Contents) (id : String) :
    Query Quantifier Connective Relation → Nat → Prop
  | property {path value : String} {p : PropertyPath} {e : Entity}
    (hp : PropertyPath.ofString? path = some p) (he : e ∈ c.entities)
    (hc : e.collection = p.collection) (hi : e.id = id) :
    Finds c id (.property path value) ((e.profile.values p.subpath).count value)
  | linkTo {params : Params} {r : Reference} (hi : params.get? "id" = some r.id)
    (hc : params.get? "type" = some r.collection) :
    Finds c id (.function .linkTo params) ((linkEnds c.links).count (r, id))

theorem ids_ones (ids : List String) :
    Hit.ids (ids.map fun id => (⟨id, 1⟩ : Hit String Double)) = ids := by
  rw [Hit.ids, List.map_map]
  exact List.map_id ids

theorem finds_of_property (hd : (c.entities.map Entity.id).Nodup) {path value : String}
    (h : (Query.property path value).resolve (ofContents c).backend.resolver = .ok hits)
    (hm : id ∈ Hit.ids hits) :
    c.Finds id (.property path value) ((Hit.ids hits).count id) := by
  change (ofContents c).backend.resolver.property path value = .ok hits at h
  simp only [Backend.resolver] at h
  split at h
  case h_2 => cases h
  case h_1 p hp =>
    simp only [backend, tagQuery_eq] at h
    split at h
    case isFalse => cases h
    case isTrue =>
      cases h
      rw [ids_ones] at hm ⊢
      obtain ⟨p', hp', hc, hi⟩ := exists_of_mem_scanTagged hm
      obtain ⟨e, he, rfl⟩ := List.mem_map.1 hp'
      have hd' : ((c.entities.map Entity.profile).map Profile.id).Nodup := by
        rwa [List.map_map]
      have hn := count_scanTagged hd' hp' p.subpath value
      rw [hc, hi] at hn
      exact hn ▸ .property hp he hc hi

theorem finds_of_linkTo {params : Params}
    (h : (Query.function .linkTo params).resolve (ofContents c).backend.resolver = .ok hits) :
    c.Finds id (.function .linkTo params) ((Hit.ids hits).count id) := by
  obtain ⟨i, collection, ids, hi, hc, hl, rfl⟩ := Backend.function_linkTo_eq_ok_iff.1 h
  have hl : scanLinked c.links ⟨collection, i⟩ = ids := by
    rw [← linkQuery_eq]
    exact Except.ok.inj hl
  rw [ids_ones, ← hl, count_scanLinked]
  exact .linkTo (r := ⟨collection, i⟩) hi hc

-- A search for words finds no id twice.
theorem finds_of_leaf (hd : (c.entities.map Entity.id).Nodup)
    {q leaf : Query Quantifier Connective Relation} (hl : leaf ∈ q.leaves)
    (h : leaf.resolve (ofContents c).backend.resolver = .ok hits)
    (hn : 1 < (Hit.ids hits).count id) : c.Finds id leaf ((Hit.ids hits).count id) := by
  have hm : id ∈ Hit.ids hits := List.count_pos_iff.1 (Nat.lt_trans Nat.zero_lt_one hn)
  revert h
  refine Query.forall_mem_leaves (P := fun leaf => leaf.resolve (ofContents c).backend.resolver =
    .ok hits → c.Finds id leaf ((Hit.ids hits).count id)) (fun term h => ?_)
    (fun path value h => finds_of_property hd h hm) (fun name params h => ?_) q leaf hl
  · change (ofContents c).backend.fullText term = .ok hits at h
    rw [(answersAs_ofContents c).fullText] at h
    cases h
    exact absurd (List.nodup_iff_count_le_one.1 nodup_ids_scanText id) (Nat.not_le.2 hn)
  · cases name
    exact finds_of_linkTo h

end Lookups

end Store

section Searches

variable {c : Store.Contents} {source : String} {hits : List (Hit String Double)}

theorem finds_of_search (hd : (c.entities.map Store.Entity.id).Nodup)
    (hs : (Store.ofContents c).search source = .ok hits) {id : String}
    (hn : 1 < (Hit.ids hits).count id) :
    ∃ q leaf, (compile .standard source = .ok q) ∧ (q.unmerged? = some leaf) ∧
      (c.Finds id leaf ((Hit.ids hits).count id)) := by
  obtain ⟨q, hq, hr⟩ := search_eq_ok_iff.1 hs
  have hu := Query.unmerged_of_resolve hr
  cases hl : q.unmerged?
  case none => exact absurd (List.nodup_iff_count_le_one.1 (hu.merged hl) id) (Nat.not_le.2 hn)
  case some leaf =>
    obtain ⟨found, hf, hc⟩ := hu.unmerged leaf hl
    have hm : id ∈ Hit.ids hits := List.count_pos_iff.1 (Nat.lt_trans Nat.zero_lt_one hn)
    rw [hc id hm] at hn ⊢
    exact ⟨q, leaf, hq, hl, Store.finds_of_leaf hd (Query.mem_leaves_of_unmerged? hl) hf hn⟩

-- Where ids tell entities apart, a search finds an id more than once only if its query comes down
-- to one lookup of a tag or of links, and then as often as the entity has the value or as it is
-- linked. So no id is found twice if no tag has a value twice, and no id is at the other end of two
-- links of the same entity.
theorem count_ids_of_search (hd : (c.entities.map Store.Entity.id).Nodup)
    (hs : (Store.ofContents c).search source = .ok hits) :
    (∀ id, 1 < (Hit.ids hits).count id → ∃ q leaf, (compile .standard source = .ok q) ∧
      (q.unmerged? = some leaf) ∧ (c.Finds id leaf ((Hit.ids hits).count id))) ∧
    ((∀ e ∈ c.entities, ∀ subpath, (e.profile.values subpath).Nodup) →
      (Store.linkEnds c.links).Nodup → (Hit.ids hits).Nodup) := by
  refine ⟨fun id => finds_of_search hd hs, fun ht hl => List.nodup_iff_count_le_one.2 fun id => ?_⟩
  by_contra hn
  obtain ⟨q, leaf, -, -, hf⟩ := finds_of_search hd hs (Nat.not_le.1 hn)
  generalize (Hit.ids hits).count id = n at hn hf
  cases hf
  case property p e _ he _ _ => exact hn (List.nodup_iff_count_le_one.1 (ht e he p.subpath) _)
  case linkTo r _ _          => exact hn (List.nodup_iff_count_le_one.1 hl (r, id))

-- A note with a tag that has the same value twice.
theorem search_value_twice :
    let c : Store.Contents :=
      { entities := [Store.Entity.withTag (.withTag ⟨"a", "note", "", ∅⟩ "/tag" "x") "/tag" "x"]
        links := [] }
    (Store.ofContents c).search "/note/tag=x" = .ok [⟨"a", 1⟩, ⟨"a", 1⟩] := by
  intro c
  have hq : compile .standard "/note/tag=x" =
      .ok (.aggregate .every [.property "/note/tag" "x"]) :=
    compile_of_readAsChain (by decide +kernel) (readAsTerm_property "/note/tag" "x").chain
  have hs : Store.scanTagged (c.entities.map Store.Entity.profile) "note" "/tag" "x" =
      ["a", "a"] := by
    decide +kernel
  have ht := (Store.answersAs_ofContents c).tagged "note" "/tag" "x" ⟨_, List.mem_cons_self, rfl⟩
  rw [hs] at ht
  refine search_eq_ok_iff.2 ⟨_, hq, ?_⟩
  rw [Query.resolve_aggregate_singleton]
  exact ht

theorem count_ids_of_search_tag :
    let c : Store.Contents :=
      { entities := [Store.Entity.withTag (.withTag ⟨"a", "note", "", ∅⟩ "/tag" "x") "/tag" "x"]
        links := [] }
    let hits : List (Hit String Double) := [⟨"a", 1⟩, ⟨"a", 1⟩]
    ((c.entities.map Store.Entity.id).Nodup) ∧
    ((Store.ofContents c).search "/note/tag=x" = .ok hits) ∧ (1 < (Hit.ids hits).count "a") ∧
    ∃ q leaf, (compile .standard "/note/tag=x" = .ok q) ∧ (q.unmerged? = some leaf) ∧
      (c.Finds "a" leaf ((Hit.ids hits).count "a")) := by
  intro c hits
  have hd : (c.entities.map Store.Entity.id).Nodup := by decide
  have hn : 1 < (Hit.ids hits).count "a" := by decide
  exact ⟨hd, search_value_twice, hn, (count_ids_of_search hd search_value_twice).1 "a" hn⟩

-- What is looked up alone is not merged, so that an id that is noted twice is found twice.
theorem not_forall_nodup_ids_of_search :
    ¬∀ (c : Store.Contents) (source : String) (hits : List (Hit String Double)),
      (c.entities.map Store.Entity.id).Nodup → c.links.Nodup →
      (Store.ofContents c).search source = .ok hits → (Hit.ids hits).Nodup := by
  intro hall
  have hd := hall _ "/note/tag=x" _ (by decide) List.nodup_nil search_value_twice
  revert hd
  decide

end Searches

end EntitySearch
