import EntitySearch.Hit.Merge
import EntitySearch.Proofs.OrderedMap
import Mathlib.Data.List.Basic

namespace EntitySearch.Hit

section Weights

variable {Id W : Type} [Zero W] [Add W]

-- A sum from zero on and from left to right.
def leftSum (ws : List W) : W :=
  ws.foldl (· + ·) 0

variable (W) in
-- Holds if zero adds nothing to a sum that was taken from zero on.
def ZeroAddsNothing : Prop :=
  ∀ ws : List W, 0 + leftSum ws = leftSum ws

variable (W) in
-- Holds if sums do not depend on order, and zero adds nothing to them.
structure ExactAddition : Prop where
  zero_add  : ∀ a : W, 0 + a = a
  add_comm  : ∀ a b : W, a + b = b + a
  add_assoc : ∀ a b c : W, a + b + c = a + (b + c)

def ids (hits : List (Hit Id W)) : List Id :=
  hits.map Hit.id

theorem leftSum_concat (ws : List W) (w : W) : leftSum (ws ++ [w]) = leftSum ws + w := by
  simp [leftSum]

theorem foldl_leftSum (ws more : List W) :
    more.foldl (· + ·) (leftSum ws) = leftSum (ws ++ more) := by
  simp [leftSum]

namespace ExactAddition

variable (he : ExactAddition W)

include he

theorem add_zero (a : W) : a + 0 = a := by
  rw [he.add_comm, he.zero_add]

theorem foldl_eq (a : W) (ws : List W) : ws.foldl (· + ·) a = a + leftSum ws := by
  induction ws using List.reverseRecOn
  case nil => exact (he.add_zero a).symm
  case append_singleton ws w ih => rw [leftSum_concat, List.foldl_append, ih, List.foldl_cons,
    List.foldl_nil, he.add_assoc]

theorem leftSum_append (as bs : List W) : leftSum (as ++ bs) = leftSum as + leftSum bs := by
  rw [← foldl_leftSum, he.foldl_eq]

theorem leftSum_cons (w : W) (ws : List W) : leftSum (w :: ws) = w + leftSum ws := by
  rw [leftSum, List.foldl_cons, he.zero_add, he.foldl_eq]

theorem leftSum_flatten (lists : List (List W)) :
    leftSum lists.flatten = leftSum (lists.map leftSum) := by
  induction lists
  case nil => rfl
  case cons ws lists ih =>
    rw [List.flatten_cons, he.leftSum_append, ih, List.map_cons, he.leftSum_cons]

end ExactAddition

variable [DecidableEq Id]

-- The weights of an id, in their order.
def weightsOf (id : Id) (hits : List (Hit Id W)) : List W :=
  (hits.filter (·.id = id)).map Hit.weight

-- What an id weighs in a list of hits.
def weightIn (id : Id) (hits : List (Hit Id W)) : W :=
  leftSum (weightsOf id hits)

variable {id : Id} {hits more : List (Hit Id W)}

omit [Zero W] [Add W] in
theorem weightsOf_append :
    weightsOf id (hits ++ more) = weightsOf id hits ++ weightsOf id more := by
  simp [weightsOf]

omit [Zero W] [Add W] in
theorem weightsOf_eq_nil_iff : weightsOf id hits = [] ↔ id ∉ ids hits := by
  simp [weightsOf, ids]

omit [Zero W] [Add W] in
theorem weightsOf_of_not_mem (h : id ∉ ids hits) : weightsOf id hits = [] :=
  weightsOf_eq_nil_iff.2 h

theorem weightIn_of_not_mem (h : id ∉ ids hits) : weightIn id hits = 0 := by
  rw [weightIn, weightsOf_of_not_mem h]
  rfl

omit [Zero W] [Add W] in
theorem weightsOf_flatten (operands : List (List (Hit Id W))) :
    weightsOf id operands.flatten = (operands.map (weightsOf id)).flatten := by
  induction operands
  case nil => rfl
  case cons hits operands ih =>
    rw [List.flatten_cons, weightsOf_append, ih, List.map_cons, List.flatten_cons]

-- A hit whose id comes once is all that the id weighs.
omit [Zero W] [Add W] in
theorem weightsOf_of_nodup {hit : Hit Id W} (hd : (ids hits).Nodup) (h : hit ∈ hits) :
    weightsOf hit.id hits = [hit.weight] := by
  obtain ⟨before, after, rfl⟩ := List.append_of_mem h
  rw [ids, List.map_append, List.map_cons, List.nodup_append, List.nodup_cons] at hd
  have hb : hit.id ∉ ids before := fun hm => hd.2.2 _ hm _ List.mem_cons_self rfl
  have ha : hit.id ∉ ids after := hd.2.1.1
  rw [weightsOf_append, ← List.singleton_append, weightsOf_append, weightsOf_of_not_mem hb,
    weightsOf_of_not_mem ha]
  simp [weightsOf]

end Weights

section Tally

variable {Id W : Type} [DecidableEq Id] [Zero W] [Add W]
variable {id : Id} {weight : W} {hits : List (Hit Id W)}

theorem tally_append (hits more : List (Hit Id W)) :
    tally (hits ++ more) = more.foldl Tally.count (tally hits) :=
  List.foldl_append

theorem get?_count (t : Tally Id W) (h : Hit Id W) (id : Id) :
    (t.count h).get? id = if h.id = id then some ((t.get? h.id).getD 0 + h.weight) else t.get? id :=
  OrderedMap.get?_update ..

-- A tally has the ids of the hits, and what they weigh.
theorem get?_tally (hits : List (Hit Id W)) (id : Id) :
    (tally hits).get? id = if id ∈ ids hits then some (weightIn id hits) else none := by
  induction hits using List.reverseRecOn
  case nil => rfl
  case append_singleton hits h ih =>
    have hw : weightIn id (hits ++ [h]) =
        if h.id = id then weightIn id hits + h.weight else weightIn id hits := by
      by_cases hid : h.id = id <;>
        simp [weightIn, weightsOf, hid, leftSum_concat]
    have hg : ((tally hits).get? id).getD 0 = weightIn id hits := by
      rw [ih]
      split
      case isTrue     => rfl
      case isFalse hm => exact (weightIn_of_not_mem hm).symm
    rw [tally_append, List.foldl_cons, List.foldl_nil, get?_count, hw]
    by_cases hid : h.id = id
    case pos =>
      subst hid
      simp [hg, ids]
    case neg => simp [hid, ih, ids, Ne.symm hid]

theorem keys_tally (hits : List (Hit Id W)) : (tally hits).keys = (ids hits).eraseDups :=
  OrderedMap.keys_foldl_update Hit.id (fun h weight? => weight?.getD 0 + h.weight) hits

theorem mem_keys_tally : id ∈ (tally hits).keys ↔ id ∈ ids hits := by
  rw [keys_tally, List.mem_eraseDups]

-- A tally has each id once, with what it weighs.
theorem entries_tally (hits : List (Hit Id W)) :
    (tally hits).entries = (ids hits).eraseDups.map fun id => (id, weightIn id hits) := by
  have hw : ∀ e ∈ (tally hits).entries, (e.1, weightIn e.1 hits) = e := by
    rintro ⟨id, weight⟩ he
    rw [← OrderedMap.get?_eq_some_iff, get?_tally] at he
    split at he <;> cases he
    rfl
  rw [← keys_tally, OrderedMap.keys, List.map_map]
  exact ((List.map_congr_left hw).trans (List.map_id' _)).symm

omit [DecidableEq Id] [Zero W] [Add W] in
theorem ids_ofTally (t : Tally Id W) : ids (ofTally t) = t.keys := by
  simp [ids, ofTally, OrderedMap.keys]

omit [DecidableEq Id] [Zero W] [Add W] in
theorem nodup_ids_ofTally (t : Tally Id W) : (ids (ofTally t)).Nodup := by
  rw [ids_ofTally]
  exact t.distinct

omit [Zero W] [Add W] in
theorem mem_ofTally {t : Tally Id W} {h : Hit Id W} :
    h ∈ ofTally t ↔ t.get? h.id = some h.weight := by
  rw [OrderedMap.get?_eq_some_iff, ofTally, List.mem_map]
  constructor
  case mp =>
    rintro ⟨e, he, rfl⟩
    exact he
  case mpr =>
    intro hm
    exact ⟨_, hm, rfl⟩

-- Counting hits whose ids do not come again leaves them as they are.
theorem entries_tally_of_nodup (hd : (ids hits).Nodup) (hz : ∀ h ∈ hits, 0 + h.weight = h.weight) :
    (tally hits).entries = hits.map fun h => (h.id, h.weight) := by
  induction hits using List.reverseRecOn
  case nil => rfl
  case append_singleton hits h ih =>
    rw [ids, List.map_append, List.nodup_append] at hd
    rw [List.forall_mem_append] at hz
    have hi := ih hd.1 hz.1
    have hk : h.id ∉ (tally hits).entries.map Prod.fst := by
      have hm : h.id ∉ ids hits := fun hm => hd.2.2 _ hm _ (by simp) rfl
      exact mt mem_keys_tally.1 hm
    have hw : 0 + h.weight = h.weight := hz.2 h List.mem_cons_self
    have hu := OrderedMap.updateIn_of_not_mem (f := fun weight? => weight?.getD 0 + h.weight) hk
    calc (tally (hits ++ [h])).entries
      _ = ((tally hits).count h).entries                   := by rw [tally_append]; rfl
      _ = (tally hits).entries ++ [(h.id, 0 + h.weight)]   := hu
      _ = (hits ++ [h]).map fun h => (h.id, h.weight)      := by rw [hi, hw]; simp

theorem tally_ofTally {t : Tally Id W} (hz : ∀ e ∈ t.entries, 0 + e.2 = e.2) :
    tally (ofTally t) = t := by
  have hw : ∀ h ∈ ofTally t, 0 + h.weight = h.weight := by
    intro h hm
    exact hz _ (OrderedMap.get?_eq_some_iff.1 (mem_ofTally.1 hm))
  refine OrderedMap.ext ?_
  rw [entries_tally_of_nodup (nodup_ids_ofTally t) hw, ofTally, List.map_map]
  exact List.map_id t.entries

theorem zero_add_of_mem_tally (hz : ZeroAddsNothing W) :
    ∀ e ∈ (tally hits).entries, 0 + e.2 = e.2 := by
  intro e he
  rw [entries_tally, List.mem_map] at he
  obtain ⟨id, -, rfl⟩ := he
  exact hz _

end Tally

section Union

variable {Id W : Type} [DecidableEq Id] [Zero W] [Add W]
variable {id : Id} {operands : List (List (Hit Id W))}

theorem mem_ids_union : id ∈ ids (union operands) ↔ ∃ hits ∈ operands, id ∈ ids hits := by
  rw [union, ids_ofTally, mem_keys_tally]
  simp only [ids, List.mem_map, List.mem_flatten]
  constructor
  case mp =>
    rintro ⟨h, ⟨hits, ho, hm⟩, rfl⟩
    exact ⟨hits, ho, h, hm, rfl⟩
  case mpr =>
    rintro ⟨hits, ho, h, hm, rfl⟩
    exact ⟨h, ⟨hits, ho, hm⟩, rfl⟩

theorem nodup_ids_union (operands : List (List (Hit Id W))) : (ids (union operands)).Nodup :=
  nodup_ids_ofTally _

theorem union_eq (operands : List (List (Hit Id W))) :
    union operands =
      (ids operands.flatten).eraseDups.map fun id =>
        { id := id, weight := weightIn id operands.flatten } := by
  rw [union, ofTally, entries_tally, List.map_map]
  rfl

-- A hit of a union weighs the sum of all weights of its id.
theorem mem_union {h : Hit Id W} :
    h ∈ union operands ↔
      (h.id ∈ ids operands.flatten) ∧ (h.weight = weightIn h.id operands.flatten) := by
  rw [union, mem_ofTally, get?_tally]
  split <;> simp_all [eq_comm]

theorem weight_of_mem_union {h : Hit Id W} (hm : h ∈ union operands) :
    h.weight = weightIn h.id operands.flatten :=
  (mem_union.1 hm).2

theorem weightIn_union (he : ExactAddition W) (id : Id) (operands : List (List (Hit Id W))) :
    weightIn id (union operands) = leftSum (operands.map (weightIn id)) := by
  have hf : weightIn id operands.flatten = leftSum (operands.map (weightIn id)) := by
    rw [weightIn, weightsOf_flatten, he.leftSum_flatten, List.map_map]
    rfl
  by_cases hm : id ∈ ids (union operands)
  case pos =>
    obtain ⟨h, hu, rfl⟩ := List.mem_map.1 hm
    have hw := weightsOf_of_nodup (nodup_ids_union operands) hu
    calc weightIn h.id (union operands)
      _ = 0 + h.weight                              := by rw [weightIn, hw]; rfl
      _ = h.weight                                  := he.zero_add h.weight
      _ = weightIn h.id operands.flatten            := weight_of_mem_union hu
      _ = leftSum (operands.map (weightIn h.id))    := hf
  case neg =>
    have hn : id ∉ ids operands.flatten := by
      rwa [union, ids_ofTally, mem_keys_tally] at hm
    rw [weightIn_of_not_mem hm, ← hf, weightIn_of_not_mem hn]

theorem union_union (hz : ZeroAddsNothing W) (operands : List (List (Hit Id W)))
    (hits : List (Hit Id W)) : union [union operands, hits] = union (operands ++ [hits]) := by
  have ht : tally (union operands) = tally operands.flatten :=
    tally_ofTally (zero_add_of_mem_tally hz)
  have hl : tally [union operands, hits].flatten = tally (operands ++ [hits]).flatten := by
    simp [tally_append, ht]
  exact congrArg ofTally hl

end Union

section Intersection

variable {Id W : Type} [DecidableEq Id] [Zero W] [Add W]
variable {id : Id} {first : List (Hit Id W)} {operands : List (List (Hit Id W))}

theorem intersection_cons (first : List (Hit Id W)) (operands : List (List (Hit Id W))) :
    intersection (first :: operands) =
      (tally first).entries.filterMap fun e =>
        (sumIn? e.1 e.2 (operands.map tally)).map fun weight => { id := e.1, weight := weight } :=
  rfl

omit [Zero W] in
theorem sumIn?_append (id : Id) (weight : W) (ts us : List (Tally Id W)) :
    sumIn? id weight (ts ++ us) = (sumIn? id weight ts).bind (sumIn? id · us) := by
  induction ts generalizing weight
  case nil => rfl
  case cons t ts ih =>
    cases hw : t.get? id <;> simp [sumIn?, hw, ih]

theorem sumIn?_map_tally (id : Id) (weight : W) (operands : List (List (Hit Id W))) :
    sumIn? id weight (operands.map tally) =
      if ∀ hits ∈ operands, id ∈ ids hits then
        some ((operands.map (weightIn id)).foldl (· + ·) weight)
      else none := by
  induction operands generalizing weight
  case nil => simp [sumIn?]
  case cons hits operands ih =>
    by_cases hm : id ∈ ids hits
    case pos =>
      have hg : (tally hits).get? id = some (weightIn id hits) := by rw [get?_tally, if_pos hm]
      simp [sumIn?, hg, ih, hm]
    case neg =>
      have hg : (tally hits).get? id = none := by rw [get?_tally, if_neg hm]
      simp [sumIn?, hg, hm]

theorem intersection_eq (first : List (Hit Id W)) (operands : List (List (Hit Id W))) :
    intersection (first :: operands) =
      ((ids first).eraseDups.filter fun id => ∀ hits ∈ operands, id ∈ ids hits).map fun id =>
        { id := id, weight := (operands.map (weightIn id)).foldl (· + ·) (weightIn id first) } := by
  rw [intersection_cons, entries_tally, List.filterMap_map]
  simp only [Function.comp_def, sumIn?_map_tally]
  rw [← List.filterMap_eq_map, List.filterMap_filter]
  refine List.filterMap_congr fun id _ => ?_
  simp only [Function.comp_apply, decide_eq_true_eq]
  split <;> rfl

theorem ids_intersection_cons (first : List (Hit Id W)) (operands : List (List (Hit Id W))) :
    ids (intersection (first :: operands)) =
      (ids first).eraseDups.filter fun id => ∀ hits ∈ operands, id ∈ ids hits := by
  rw [intersection_eq, ids, List.map_map]
  exact List.map_id _

-- A hit of an intersection has an id of all operands. What it weighs there is added up.
theorem mem_intersection {h : Hit Id W} :
    h ∈ intersection (first :: operands) ↔
      (∀ hits ∈ first :: operands, h.id ∈ ids hits) ∧
      (h.weight = (operands.map (weightIn h.id)).foldl (· + ·) (weightIn h.id first)) := by
  rw [intersection_eq, List.mem_map, List.forall_mem_cons]
  simp only [List.mem_filter, List.mem_eraseDups, decide_eq_true_eq]
  constructor
  case mp =>
    rintro ⟨id, hid, rfl⟩
    exact ⟨hid, rfl⟩
  case mpr =>
    rintro ⟨hid, hw⟩
    exact ⟨h.id, hid, by rw [← hw]⟩

theorem mem_ids_intersection :
    id ∈ ids (intersection operands) ↔ operands ≠ [] ∧ ∀ hits ∈ operands, id ∈ ids hits := by
  cases operands
  case nil => simp [intersection, meet, ids]
  case cons first operands =>
    simp only [ne_eq, List.cons_ne_nil, not_false_eq_true, true_and]
    constructor
    case mp =>
      intro hm
      obtain ⟨h, hi, rfl⟩ := List.mem_map.1 hm
      exact (mem_intersection.1 hi).1
    case mpr =>
      intro ho
      let weight := (operands.map (weightIn id)).foldl (· + ·) (weightIn id first)
      exact List.mem_map.2 ⟨{ id, weight }, mem_intersection.2 ⟨ho, rfl⟩, rfl⟩

theorem nodup_ids_intersection (operands : List (List (Hit Id W))) :
    (ids (intersection operands)).Nodup := by
  cases operands
  case nil => exact List.nodup_nil
  case cons first operands =>
    have hd : (ids first).eraseDups.Nodup := by
      rw [← keys_tally]
      exact (tally first).distinct
    rw [ids_intersection_cons]
    exact hd.sublist List.filter_sublist

theorem weightIn_intersection (he : ExactAddition W) (hm : id ∈ ids (intersection operands)) :
    weightIn id (intersection operands) = leftSum (operands.map (weightIn id)) := by
  obtain ⟨h, hi, rfl⟩ := List.mem_map.1 hm
  have hw := weightsOf_of_nodup (nodup_ids_intersection operands) hi
  cases operands
  case nil => cases hi
  case cons first operands =>
    calc weightIn h.id (intersection (first :: operands))
      _ = 0 + h.weight := by rw [weightIn, hw]; rfl
      _ = h.weight     := he.zero_add h.weight
      _ = (operands.map (weightIn h.id)).foldl (· + ·) (weightIn h.id first) :=
        (mem_intersection.1 hi).2
      _ = leftSum ((first :: operands).map (weightIn h.id)) := by
        rw [he.foldl_eq, List.map_cons, he.leftSum_cons]

theorem zero_add_of_mem_intersection (hz : ZeroAddsNothing W) {h : Hit Id W}
    (hm : h ∈ intersection (first :: operands)) : 0 + h.weight = h.weight := by
  rw [(mem_intersection.1 hm).2, weightIn, foldl_leftSum]
  exact hz _

theorem intersection_intersection (hz : ZeroAddsNothing W) (first hits : List (Hit Id W))
    (operands : List (List (Hit Id W))) :
    intersection [intersection (first :: operands), hits] =
      intersection (first :: (operands ++ [hits])) := by
  have ht : (tally (intersection (first :: operands))).entries =
      (intersection (first :: operands)).map fun h => (h.id, h.weight) :=
    entries_tally_of_nodup (nodup_ids_intersection _) fun h => zero_add_of_mem_intersection hz
  rw [intersection_cons, ht, List.filterMap_map, intersection_cons, List.filterMap_filterMap,
    intersection_cons]
  refine List.filterMap_congr fun e _ => ?_
  rw [List.map_append, sumIn?_append]
  cases sumIn? e.1 e.2 (operands.map tally) <;> rfl

end Intersection

section Exclude

variable {Id W : Type} [DecidableEq Id] {id : Id} {left right : List (Hit Id W)}

theorem mem_ids_exclude : id ∈ ids (exclude left right) ↔ id ∈ ids left ∧ id ∉ ids right := by
  simp only [exclude, ids, List.mem_map, List.mem_filter, Bool.not_eq_true', List.any_eq_false,
    decide_eq_true_eq]
  constructor
  case mp =>
    rintro ⟨h, ⟨hl, hr⟩, rfl⟩
    exact ⟨⟨h, hl, rfl⟩, fun ⟨h', hm, he⟩ => hr h' hm he⟩
  case mpr =>
    rintro ⟨⟨h, hl, rfl⟩, hr⟩
    exact ⟨h, ⟨hl, fun h' hm he => hr ⟨h', hm, he⟩⟩, rfl⟩

theorem nodup_ids_exclude (h : (ids left).Nodup) : (ids (exclude left right)).Nodup :=
  h.sublist (List.filter_sublist.map Hit.id)

theorem weightsOf_exclude (h : id ∉ ids right) :
    weightsOf id (exclude left right) = weightsOf id left := by
  rw [weightsOf, exclude, List.filter_filter, weightsOf]
  congr 1
  refine List.filter_congr fun hit _ => ?_
  by_cases hid : hit.id = id
  case neg => simp [hid]
  case pos =>
    have hr : right.any (fun h' => h'.id = hit.id) = false := by
      rw [List.any_eq_false]
      intro h' hm he
      exact h (List.mem_map.2 ⟨h', hm, (of_decide_eq_true he).trans hid⟩)
    simp [hr]

end Exclude

section Kept

variable {Id W W' : Type} [DecidableEq Id] [Zero W] [Add W] [Zero W'] [Add W']

-- Holds of relations between lists of hits that are kept when these are merged.
structure KeptByMerges (S : List (Hit Id W) → List (Hit Id W') → Prop) : Prop where
  nil          : S [] []
  union        : ∀ {operands operands'}, List.Forall₂ S operands operands' →
    S (union operands) (union operands')
  intersection : ∀ {operands operands'}, List.Forall₂ S operands operands' →
    S (intersection operands) (intersection operands')

-- Holds of relations between lists of hits that are kept when others are excluded.
def KeptByExclude (S : List (Hit Id W) → List (Hit Id W') → Prop) : Prop :=
  ∀ {left left' right right'}, S left left' → S right right' →
    S (exclude left right) (exclude left' right')

end Kept

end EntitySearch.Hit
