import EntitySearch.Proofs.Hit.Growth
import EntitySearch.Proofs.Query.Relation
import EntitySearch.Proofs.Store.Conjunction
import Mathlib.Data.List.Flatten
import Mathlib.Logic.Relation

namespace EntitySearch.Store

section Contents

-- One more thing in the contents of a store.
inductive Contents.Grows : Contents → Contents → Prop
  | entity (c : Contents) (e : Entity) : Grows c { c with entities := c.entities ++ [e] }
  | link (c : Contents) (l : Link) : Grows c { c with links := c.links ++ [l] }
  | tag (before after : List Entity) (e : Entity) (links : List Link) (subpath value : String) :
    Grows { entities := before ++ e :: after, links }
      { entities := before ++ e.withTag subpath value :: after, links }

-- Holds of an entity and the same entity with more values.
structure Profile.Within (p p' : Profile) : Prop where
  collection : p.collection = p'.collection
  id         : p.id = p'.id
  text       : p.text = p'.text
  values     : ∀ subpath, (p.values subpath).Sublist (p'.values subpath)

instance : Std.Refl Profile.Within where
  refl _ := ⟨rfl, rfl, rfl, fun _ => .refl _⟩

instance : IsTrans Profile Profile.Within where
  trans _ _ _ h h' :=
    ⟨h.collection.trans h'.collection, h.id.trans h'.id, h.text.trans h'.text,
      fun subpath => (h.values subpath).trans (h'.values subpath)⟩

theorem within_withTags (p : Profile) (tags : List (String × String)) :
    p.Within (p.withTags tags) :=
  ⟨rfl, rfl, rfl, fun _ => List.sublist_append_left ..⟩

-- Holds of contents of which the second have what the first have, and maybe more in between.
structure Contents.Within (c c' : Contents) : Prop where
  entities : List.SublistForall₂ Profile.Within (c.entities.map Entity.profile)
    (c'.entities.map Entity.profile)
  links    : c.links.Sublist c'.links

variable {c c' c'' : Contents}

theorem Contents.Within.refl (c : Contents) : c.Within c :=
  ⟨(List.Sublist.refl _).sublistForall₂, .refl _⟩

theorem Contents.Within.trans (h : c.Within c') (h' : c'.Within c'') : c.Within c'' :=
  ⟨IsTrans.trans _ _ _ h.entities h'.entities, h.links.trans h'.links⟩

theorem Contents.Grows.within (h : c.Grows c') : c.Within c' := by
  have hr (ps : List Profile) : List.SublistForall₂ Profile.Within ps ps :=
    (List.Sublist.refl ps).sublistForall₂
  cases h
  case entity e =>
    refine ⟨?_, .refl _⟩
    rw [List.map_append]
    exact (List.sublist_append_left ..).sublistForall₂
  case link l => exact ⟨hr _, List.sublist_append_left ..⟩
  case tag before after e links subpath value =>
    refine ⟨?_, .refl _⟩
    rw [List.map_append, List.map_append, List.map_cons, List.map_cons, profile_withTag]
    exact sublistForall₂_append (hr _) (.cons (within_withTags ..) (hr _))

-- However much is added, what was there stays.
theorem Contents.within_of_grows (h : Relation.ReflTransGen Contents.Grows c c') : c.Within c' := by
  induction h
  case refl      => exact .refl c
  case tail h ih => exact ih.trans h.within

end Contents

section Scans

variable {ps ps' : List Profile}

theorem scanTagged_within (h : List.SublistForall₂ Profile.Within ps ps')
    (collection subpath value : String) :
    (scanTagged ps collection subpath value).Sublist
      (scanTagged ps' collection subpath value) := by
  induction h
  case nil => exact List.nil_sublist _
  case cons p p' _ _ hp _ ih =>
    refine List.Sublist.append ?_ ih
    simp only [hp.collection, hp.id]
    split
    case isTrue =>
      exact (List.replicate_sublist_replicate _).2 ((hp.values subpath).count_le value)
    case isFalse => exact .refl _
  case cons_right _ ih => exact ih.trans (List.sublist_append_right ..)

theorem scanLinked_sublist {links links' : List Link} (h : links.Sublist links') (r : Reference) :
    (scanLinked links r).Sublist (scanLinked links' r) :=
  h.flatMap _

theorem occurrencesIn_le (h : List.SublistForall₂ Profile.Within ps ps') (id word : String) :
    occurrencesIn ps id word ≤ occurrencesIn ps' id word := by
  induction h
  case nil => exact Nat.zero_le _
  case cons p p' _ _ hp _ ih =>
    rw [occurrencesIn_cons, occurrencesIn_cons, hp.id, hp.text]
    exact Nat.add_le_add_left ih _
  case cons_right _ ih =>
    rw [occurrencesIn_cons]
    exact Nat.le_add_left_of_le ih

-- Each word is counted at least as often as before, and the counts are added in the same order.
theorem atMost_totalOf (h : List.SublistForall₂ Profile.Within ps ps') (ws : List String)
    (id : String) :
    (Double.totalOf (ws.map (occurrencesIn ps id))).AtMost
      (.totalOf (ws.map (occurrencesIn ps' id))) := by
  have hc (word : String) : (Double.countTo (occurrencesIn ps id word)).AtMost
      (.countTo (occurrencesIn ps' id word)) :=
    Double.atMost_countTo (occurrencesIn_le h id word)
  rw [Double.totalOf, Double.totalOf, Hit.leftSum, Hit.leftSum]
  refine Hit.atMost_foldl Double.isNonneg_zero.atMost_self (sublistForall₂_of_forall₂ ?_) ?_
  · simp only [List.forall₂_map_left_iff, List.forall₂_map_right_iff, List.forall₂_same]
    exact fun word _ => hc word
  · simp only [List.forall_mem_map]
    exact fun word _ => (hc word).right

theorem grows_scanText (h : List.SublistForall₂ Profile.Within ps ps') (ws : List String) :
    Hit.Grows (scanText ps ws) (scanText ps' ws) := by
  refine .of_nodup nodup_ids_scanText nodup_ids_scanText (fun hit hm => ?_) fun hit hm => ?_
  · obtain ⟨hne, ho, hw⟩ := mem_scanText.1 hm
    let total : Double := .totalOf (ws.map (occurrencesIn ps' hit.id))
    have hm' : ⟨hit.id, total⟩ ∈ scanText ps' ws :=
      mem_scanText.2 ⟨hne, fun word hword =>
        Nat.lt_of_lt_of_le (ho word hword) (occurrencesIn_le h hit.id word), rfl⟩
    refine ⟨⟨hit.id, total⟩, hm', rfl, ?_⟩
    -- The new hit is taken apart first, or else the numbers would be unfolded.
    dsimp only
    rw [hw]
    exact atMost_totalOf h ws hit.id
  · rw [(mem_scanText.1 hm).2.2]
    exact (atMost_totalOf h ws hit.id).right

end Scans

section Lookups

variable {c c' : Contents}

theorem grows_ones {ids ids' : List String} (h : ids.Sublist ids') :
    Hit.Grows (ids.map fun id => ⟨id, 1⟩) (ids'.map fun id => ⟨id, 1⟩) :=
  .of_sublist (h.map _) (List.forall_mem_map.2 fun _ _ => Double.isNonneg_one)

theorem Contents.Within.exists_collection (h : c.Within c') {collection : String}
    (he : ∃ e ∈ c.entities, e.collection = collection) :
    ∃ e ∈ c'.entities, e.collection = collection := by
  obtain ⟨e, he, rfl⟩ := he
  obtain ⟨p', hp', hp⟩ := exists_mem_of_sublistForall₂ h.entities (List.mem_map_of_mem he)
  obtain ⟨e', he', rfl⟩ := List.mem_map.1 hp'
  exact ⟨e', he', hp.collection.symm⟩

-- Where lookups have an answer, they have one with more contents too, and this has all hits of the
-- first one.
theorem backend_grows (h : c.Within c') :
    (ofContents c).backend.RelatedBy (fun _ _ => Covers) Hit.Grows (ofContents c').backend where
  tagged collection subpath value := by
    simp only [backend, tagQuery_eq]
    split
    case isFalse => exact Covers.of_error _ _
    case isTrue he =>
      rw [if_pos (h.exists_collection he)]
      exact Covers.lifts.ok (grows_ones (scanTagged_within h.entities collection subpath value))
  fullText term := by
    simp only [backend, textQuery_eq]
    exact Covers.lifts.ok (grows_scanText h.entities (words term))
  linked collection id := by
    simp only [backend, linkQuery_eq _ ⟨collection, id⟩]
    exact Covers.lifts.ok (grows_ones (scanLinked_sublist h.links _))

end Lookups

end EntitySearch.Store
