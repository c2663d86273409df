import EntitySearch.Proofs.Hit.Exclude
import EntitySearch.Proofs.Query.Satisfaction

namespace EntitySearch.Query

-- The lookup that the answer to a query comes from as it is, but for what is excluded from it.
def unmerged? : Query Quantifier Connective Relation → Option (Query Quantifier Connective Relation)
  | aggregate _ [child]     => child.unmerged?
  | aggregate _ _           => none
  | joined .exclude left _  => left.unmerged?
  | joined _ _ _            => none
  | leaf                    => some leaf

variable {Id W : Type} [DecidableEq Id] [Zero W] [One W] [Add W]
variable {b : Backend (Except ResolveError) Id W} {q : Query Quantifier Connective Relation}
variable {hits : List (Hit Id W)}

-- Holds of an answer that is merged, or has each of its ids as often as a lookup gave it.
structure Repeats (b : Backend (Except ResolveError) Id W)
    (q : Query Quantifier Connective Relation) (hits : List (Hit Id W)) : Prop where
  merged   : q.unmerged? = none → (Hit.ids hits).Nodup
  unmerged : ∀ leaf, q.unmerged? = some leaf → ∃ found, (leaf.resolve b.resolver = .ok found) ∧
    ∀ id ∈ Hit.ids hits, (Hit.ids hits).count id = (Hit.ids found).count id

namespace Repeats

theorem of_nodup (hn : q.unmerged? = none) (hd : (Hit.ids hits).Nodup) : Repeats b q hits :=
  ⟨fun _ => hd, fun _ hl => absurd (hn.symm.trans hl) nofun⟩

theorem of_leaf (hl : q.unmerged? = some q) (h : q.resolve b.resolver = .ok hits) :
    Repeats b q hits := by
  refine ⟨fun hn => absurd (hn.symm.trans hl) nofun, fun leaf hl' => ?_⟩
  cases Option.some.inj (hl.symm.trans hl')
  exact ⟨hits, h, fun _ _ => rfl⟩

-- Excluding keeps all hits of an id or none.
theorem exclude {left right : Query Quantifier Connective Relation}
    {leftFound rightFound : List (Hit Id W)} (h : Repeats b left leftFound) :
    Repeats b (joined .exclude left right) (Hit.exclude leftFound rightFound) where
  merged hn := Hit.nodup_ids_exclude (h.merged hn)
  unmerged leaf hl := by
    obtain ⟨found, hf, hc⟩ := h.unmerged leaf hl
    refine ⟨found, hf, fun id hm => ?_⟩
    rw [Hit.ids_exclude] at hm ⊢
    obtain ⟨hl, hr⟩ := List.mem_filter.1 hm
    rw [List.count_filter (p := fun id => id ∉ Hit.ids rightFound) hr, hc id hl]

end Repeats

theorem unmerged_of_resolve (h : q.resolve b.resolver = .ok hits) : Repeats b q hits := by
  induction q using Query.induction generalizing hits
  case fullText => exact .of_leaf rfl h
  case property => exact .of_leaf rfl h
  case function => exact .of_leaf rfl h
  case aggregate kind children ih =>
    rcases children with _ | ⟨q, _ | ⟨q', qs⟩⟩
    case nil =>
      rw [resolve_aggregate_nil] at h
      cases h
      exact .of_nodup rfl List.nodup_nil
    case cons.nil =>
      rw [resolve_aggregate_singleton] at h
      have hq := ih q List.mem_cons_self h
      exact ⟨hq.merged, hq.unmerged⟩
    case cons.cons =>
      obtain ⟨found, -, ha⟩ := resolve_aggregate_eq_ok_iff.1 h
      cases kind <;> cases ha
      case every => exact .of_nodup rfl (Hit.nodup_ids_intersection found)
      case some  => exact .of_nodup rfl (Hit.nodup_ids_union found)
  case joined kind left right ihl ihr =>
    obtain ⟨leftFound, rightFound, hl, -, hj⟩ := resolve_joined_eq_ok_iff.1 h
    cases kind <;> cases hj
    case and     => exact .of_nodup rfl (Hit.nodup_ids_intersection _)
    case or      => exact .of_nodup rfl (Hit.nodup_ids_union _)
    case exclude => exact (ihl hl).exclude

theorem mem_leaves_of_unmerged? {leaf : Query Quantifier Connective Relation}
    (h : q.unmerged? = some leaf) : leaf ∈ q.leaves := by
  induction q using Query.induction
  case fullText => cases h; exact List.mem_cons_self
  case property => cases h; exact List.mem_cons_self
  case function => cases h; exact List.mem_cons_self
  case aggregate kind children ih =>
    rcases children with _ | ⟨q, _ | ⟨q', qs⟩⟩
    case nil       => cases h
    case cons.nil  =>
      exact mem_leaves_aggregate.2 ⟨q, List.mem_cons_self, ih q List.mem_cons_self h⟩
    case cons.cons => cases h
  case joined kind left right ihl ihr =>
    cases kind
    case and     => cases h
    case or      => cases h
    case exclude => exact List.mem_append_left _ (ihl h)

end EntitySearch.Query
