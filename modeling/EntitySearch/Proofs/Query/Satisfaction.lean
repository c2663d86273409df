import EntitySearch.Proofs.Hit.Merge
import EntitySearch.Proofs.Query.Evaluation
import EntitySearch.Proofs.RelatedLists
import EntitySearch.Proofs.Resolver.Backend
import Mathlib.Algebra.GroupWithZero.Nat

namespace EntitySearch

section Meaning

variable {Id W : Type} [One W]

-- The hits of an answer. There are none in a failure.
def hitsOf {ε α : Type} : Except ε (List α) → List α
  | .ok hits => hits
  | .error _ => []

-- What is found by the lookup of a leaf.
def Backend.found (b : Backend (Except ResolveError) Id W) :
    Query Quantifier Connective Relation → List (Hit Id W)
  | .fullText term => hitsOf (b.fullText term)
  | .property path value =>
    match PropertyPath.ofString? path with
    | some p => hitsOf (b.tagged p.collection p.subpath value)
    | none   => []
  | .function .linkTo params =>
    match params.get? "id", params.get? "type" with
    | some id, some collection => (hitsOf (b.linked collection id)).map fun id => ⟨id, 1⟩
    | _, _                     => []
  | _ => []

namespace Query

-- Holds of the ids that satisfy a query.
def Satisfies (b : Backend (Except ResolveError) Id W) (id : Id) :
    Query Quantifier Connective Relation → Prop
  | aggregate .every children  => children ≠ [] ∧ ∀ q ∈ children, q.Satisfies b id
  | aggregate .some children   => ∃ (q : _) (_ : q ∈ children), q.Satisfies b id
  | joined .and left right     => left.Satisfies b id ∧ right.Satisfies b id
  | joined .or left right      => left.Satisfies b id ∨ right.Satisfies b id
  | joined .exclude left right => left.Satisfies b id ∧ ¬right.Satisfies b id
  | leaf                       => id ∈ Hit.ids (b.found leaf)

variable [DecidableEq Id] [Zero W] [Add W]

open Classical in
-- What an id that satisfies a query weighs in it. Where any operand will do, only those count that
-- the id satisfies.
noncomputable def weighs (b : Backend (Except ResolveError) Id W) (id : Id) :
    Query Quantifier Connective Relation → W
  | aggregate .every children => Hit.leftSum (children.map fun q => q.weighs b id)
  | aggregate .some children  =>
    Hit.leftSum (children.map fun q => if q.Satisfies b id then q.weighs b id else 0)
  | joined .and left right    => left.weighs b id + right.weighs b id
  | joined .or left right     =>
    (if left.Satisfies b id then left.weighs b id else 0) +
      if right.Satisfies b id then right.weighs b id else 0
  | joined .exclude left _    => left.weighs b id
  | leaf                      => Hit.weightIn id (b.found leaf)

-- Holds of the hits that a query should find, whatever their order.
structure Answers (b : Backend (Except ResolveError) Id W)
    (q : Query Quantifier Connective Relation) (hits : List (Hit Id W)) : Prop where
  mem    : ∀ id, id ∈ Hit.ids hits ↔ q.Satisfies b id
  weight : Hit.ExactAddition W → ∀ id ∈ Hit.ids hits, Hit.weightIn id hits = q.weighs b id
  nodup  : (∀ leaf ∈ q.leaves, (Hit.ids (b.found leaf)).Nodup) → (Hit.ids hits).Nodup

end Query

end Meaning

namespace Query

variable {Id W : Type} [DecidableEq Id] [Zero W] [One W] [Add W]
variable {b : Backend (Except ResolveError) Id W}
variable {kind : Quantifier} {q left right : Query Quantifier Connective Relation}
variable {children : List (Query Quantifier Connective Relation)}
variable {hits leftFound rightFound : List (Hit Id W)} {found : List (List (Hit Id W))}

namespace Answers

theorem every (h : List.Forall₂ (Answers b) children found) :
    Answers b (aggregate .every children) (Hit.intersection found) where
  mem id := by
    have hn : found ≠ [] ↔ children ≠ [] := by
      rw [← List.length_pos_iff, ← h.length_eq, List.length_pos_iff]
    rw [Hit.mem_ids_intersection, Satisfies, hn,
      forall_mem_iff_of_forall₂ h fun q hits ha => ha.mem id]
  weight he id hm := by
    have ho := (Hit.mem_ids_intersection.1 hm).2
    have hw := map_eq_of_forall₂ h fun q hits ha hf => ha.weight he id (ho hits hf)
    rw [Hit.weightIn_intersection he hm, hw, weighs]
  nodup _ := Hit.nodup_ids_intersection found

theorem some (h : List.Forall₂ (Answers b) children found) :
    Answers b (aggregate .some children) (Hit.union found) where
  mem id := by
    simp only [Hit.mem_ids_union, Satisfies, exists_prop]
    exact exists_mem_iff_of_forall₂ h fun q hits ha => ha.mem id
  weight he id _ := by
    classical
    have hw := map_eq_of_forall₂ (g := Hit.weightIn id)
        (f := fun q => if q.Satisfies b id then q.weighs b id else 0) h fun q hits ha _ => by
      split
      case isTrue hs  => exact ha.weight he id ((ha.mem id).2 hs)
      case isFalse hs => exact Hit.weightIn_of_not_mem (mt (ha.mem id).1 hs)
    rw [Hit.weightIn_union he, hw, weighs]
  nodup _ := Hit.nodup_ids_union found

-- A connective other than exclusion is an aggregate of two.
theorem and (hl : Answers b left leftFound) (hr : Answers b right rightFound) :
    Answers b (joined .and left right) (Hit.intersection [leftFound, rightFound]) := by
  have h := every (.cons hl (.cons hr .nil))
  refine ⟨fun id => ?_, fun he id hm => ?_, fun _ => Hit.nodup_ids_intersection _⟩
  · rw [h.mem]
    simp [Satisfies]
  · rw [h.weight he id hm, weighs, weighs, List.map_cons, List.map_cons, he.leftSum_cons,
      he.leftSum_cons]
    exact congrArg _ (he.add_zero _)

theorem or (hl : Answers b left leftFound) (hr : Answers b right rightFound) :
    Answers b (joined .or left right) (Hit.union [leftFound, rightFound]) := by
  have h := some (.cons hl (.cons hr .nil))
  refine ⟨fun id => ?_, fun he id hm => ?_, fun _ => Hit.nodup_ids_union _⟩
  · rw [h.mem]
    simp [Satisfies]
  · rw [h.weight he id hm, weighs, weighs, List.map_cons, List.map_cons, he.leftSum_cons,
      he.leftSum_cons]
    exact congrArg _ (he.add_zero _)

theorem exclude (hl : Answers b left leftFound) (hr : Answers b right rightFound) :
    Answers b (joined .exclude left right) (Hit.exclude leftFound rightFound) where
  mem id := by rw [Hit.mem_ids_exclude, hl.mem, hr.mem, Satisfies]
  weight he id hm := by
    obtain ⟨hm, hn⟩ := Hit.mem_ids_exclude.1 hm
    rw [Hit.weightIn, Hit.weightsOf_exclude hn, weighs]
    exact hl.weight he id hm
  nodup hd := Hit.nodup_ids_exclude (hl.nodup fun leaf hm => hd leaf (List.mem_append_left _ hm))

theorem nil (kind : Quantifier) : Answers b (aggregate kind []) [] where
  mem id           := by cases kind <;> simp [Satisfies, Hit.ids]
  weight _ _ hm    := (List.not_mem_nil hm).elim
  nodup _          := List.nodup_nil

-- What a single child finds is not merged.
theorem singleton (kind : Quantifier) (h : Answers b q hits) :
    Answers b (aggregate kind [q]) hits where
  mem id := by
    rw [h.mem]
    cases kind <;> simp [Satisfies]
  weight he id hm := by
    have hs := (h.mem id).1 hm
    rw [h.weight he id hm]
    cases kind <;> simp [weighs, hs, Hit.leftSum, he.zero_add]
  nodup hd := h.nodup fun leaf hm => hd leaf (mem_leaves_aggregate.2 ⟨q, List.mem_cons_self, hm⟩)

-- A leaf is answered by its lookup.
theorem leaf (hl : q.leaves = [q]) (hs : ∀ id, q.Satisfies b id ↔ id ∈ Hit.ids (b.found q))
    (hw : ∀ id, q.weighs b id = Hit.weightIn id (b.found q)) (hf : b.found q = hits) :
    Answers b q hits := by
  subst hf
  exact ⟨fun id => (hs id).symm, fun _ id _ => (hw id).symm, fun hd => hd q (by simp [hl])⟩

theorem fullText {term : String} (h : b.resolver.fullText term = .ok hits) :
    Answers b (.fullText term) hits := by
  have hf : b.found (.fullText term) = hits := congrArg hitsOf h
  exact leaf rfl (fun id => by simp [Satisfies]) (fun id => by simp [weighs]) hf

theorem property {path value : String} (h : b.resolver.property path value = .ok hits) :
    Answers b (.property path value) hits := by
  have hf : b.found (.property path value) = hits := by
    simp only [Backend.resolver] at h
    cases hp : PropertyPath.ofString? path <;> simp only [hp] at h
    case none   => cases h
    case some p => simp [Backend.found, hp, h, hitsOf]
  exact leaf rfl (fun id => by simp [Satisfies]) (fun id => by simp [weighs]) hf

theorem function {name : Relation} {params : Params}
    (h : b.resolver.function name params = .ok hits) : Answers b (.function name params) hits := by
  have hf : b.found (.function name params) = hits := by
    obtain ⟨id, collection, linked, hi, hc, hl, rfl⟩ := Backend.function_linkTo_eq_ok_iff.1 h
    simp [Backend.found, hi, hc, hl, hitsOf]
  exact leaf rfl (fun id => by simp [Satisfies]) (fun id => by simp [weighs]) hf

theorem of_resolve (h : q.resolve b.resolver = .ok hits) : Answers b q hits := by
  induction q using Query.induction generalizing hits
  case fullText      => exact fullText (by simpa only [resolve] using h)
  case property      => exact property (by simpa only [resolve] using h)
  case function      => exact function (by simpa only [resolve] using h)
  case aggregate kind children ih =>
    rcases children with _ | ⟨q, _ | ⟨q', qs⟩⟩
    case nil =>
      rw [resolve_aggregate_nil] at h
      cases h
      exact nil kind
    case cons.nil =>
      rw [resolve_aggregate_singleton] at h
      exact singleton kind (ih q List.mem_cons_self h)
    case cons.cons =>
      obtain ⟨found, hf, ha⟩ := resolve_aggregate_eq_ok_iff.1 h
      have hf := forall₂_of_mem hf fun q hits hm => ih q hm
      cases kind <;> cases ha
      case every => exact every hf
      case some  => exact some hf
  case joined kind left right ihl ihr =>
    obtain ⟨leftFound, rightFound, hl, hr, hj⟩ := resolve_joined_eq_ok_iff.1 h
    cases kind <;> cases hj
    case and     => exact and (ihl hl) (ihr hr)
    case or      => exact or (ihl hl) (ihr hr)
    case exclude => exact exclude (ihl hl) (ihr hr)

end Answers

-- Where a query has an answer, this has just the ids that satisfy the query. If addition is exact,
-- each of them has the sum of its weights in the operands that count. Lookups that give no id twice
-- make up an answer that gives no id twice.
theorem ids_of_resolve (b : Backend (Except ResolveError) Id W)
    (q : Query Quantifier Connective Relation) (h : q.resolve b.resolver = .ok hits) :
    (∀ id, id ∈ Hit.ids hits ↔ q.Satisfies b id) ∧
    (Hit.ExactAddition W → ∀ id ∈ Hit.ids hits, Hit.weightIn id hits = q.weighs b id) ∧
    ((∀ leaf ∈ q.leaves, (Hit.ids (b.found leaf)).Nodup) → (Hit.ids hits).Nodup) :=
  have ha := Answers.of_resolve h
  ⟨ha.mem, ha.weight, ha.nodup⟩

-- Every term is found twice where `x` is found once, and tags have the ids that they name.
theorem ids_of_resolve_exclude :
    let b : Backend (Except ResolveError) String Nat :=
      { tagged := fun _ _ value => .ok [⟨value, 1⟩]
        fullText := fun term => .ok [⟨"x", 1⟩, ⟨term, 2⟩]
        linked := fun _ _ => .ok [] }
    let q : Query Quantifier Connective Relation :=
      .joined .exclude (.aggregate .every [.fullText "a", .fullText "b"]) (.property "/n/p" "a")
    (q.resolve b.resolver = .ok [⟨"x", 2⟩]) ∧ (q.Satisfies b "x") ∧ ((2 : Nat) = q.weighs b "x") ∧
      (Hit.ids [(⟨"x", 2⟩ : Hit String Nat)]).Nodup := by
  intro b q
  have h : q.resolve b.resolver = .ok [⟨"x", 2⟩] := by decide +kernel
  have he : Hit.ExactAddition Nat := ⟨Nat.zero_add, Nat.add_comm, Nat.add_assoc⟩
  have hl : ∀ leaf ∈ q.leaves, (Hit.ids (b.found leaf)).Nodup := by decide +kernel
  obtain ⟨hm, hw, hd⟩ := ids_of_resolve b q h
  exact ⟨h, (hm "x").1 (by decide), hw he "x" (by decide), hd hl⟩

end Query

end EntitySearch
