import EntitySearch.Proofs.Except
import EntitySearch.Resolver
import Mathlib.Data.List.Forall2

namespace EntitySearch.Query

section Parts

variable {A C F : Type}

-- Induction over the parts of a query. What holds of all children holds of their aggregate.
theorem induction {motive : Query A C F → Prop}
    (fullText : ∀ term, motive (.fullText term))
    (property : ∀ path value, motive (.property path value))
    (aggregate : ∀ kind children, (∀ q ∈ children, motive q) → motive (.aggregate kind children))
    (joined : ∀ kind left right, motive left → motive right → motive (.joined kind left right))
    (function : ∀ name params, motive (.function name params)) : ∀ q, motive q
  | .fullText term           => fullText term
  | .property path value     => property path value
  | .aggregate kind children =>
    aggregate kind children fun q _ => induction fullText property aggregate joined function q
  | .joined kind left right  =>
    joined kind left right (induction fullText property aggregate joined function left)
      (induction fullText property aggregate joined function right)
  | .function name params    => function name params

mutual

-- The parts of a query that are looked up, in the order of the text.
def leaves : Query A C F → List (Query A C F)
  | aggregate _ children => leavesAll children
  | joined _ left right  => leaves left ++ leaves right
  | leaf                 => [leaf]

def leavesAll : List (Query A C F) → List (Query A C F)
  | []      => []
  | q :: qs => leaves q ++ leavesAll qs

end

theorem mem_leavesAll {qs : List (Query A C F)} {leaf : Query A C F} :
    leaf ∈ leavesAll qs ↔ ∃ q ∈ qs, leaf ∈ q.leaves := by
  induction qs
  case nil          => simp [leavesAll]
  case cons q qs ih => simp [leavesAll, ih]

theorem mem_leaves_aggregate {kind : A} {children : List (Query A C F)} {leaf : Query A C F} :
    leaf ∈ (aggregate kind children).leaves ↔ ∃ q ∈ children, leaf ∈ q.leaves := by
  rw [leaves, mem_leavesAll]

theorem forall_mem_leaves {P : Query A C F → Prop} (fullText : ∀ term, P (.fullText term))
    (property : ∀ path value, P (.property path value))
    (function : ∀ name params, P (.function name params)) (q : Query A C F) :
    ∀ leaf ∈ q.leaves, P leaf := by
  induction q using Query.induction <;> intro leaf hl
  case fullText term        => exact List.mem_singleton.1 hl ▸ fullText term
  case property path value  => exact List.mem_singleton.1 hl ▸ property path value
  case function name params => exact List.mem_singleton.1 hl ▸ function name params
  case aggregate ih =>
    obtain ⟨q, hm, hq⟩ := mem_leaves_aggregate.1 hl
    exact ih q hm leaf hq
  case joined ihl ihr       => exact (List.mem_append.1 hl).elim (ihl leaf) (ihr leaf)

end Parts

section Resolve

variable {m : Type → Type} [Monad m] {A C F Id W : Type} (r : Resolver m A C F Id W)

theorem resolve_aggregate_nil (kind : A) : (aggregate kind []).resolve r = pure [] := by
  simp [resolve]

theorem resolve_aggregate_singleton (kind : A) (child : Query A C F) :
    (aggregate kind [child]).resolve r = child.resolve r := by
  simp [resolve]

theorem resolve_aggregate (kind : A) (q q' : Query A C F) (qs : List (Query A C F)) :
    (aggregate kind (q :: q' :: qs)).resolve r =
      resolveAll r (q :: q' :: qs) >>= r.aggregate kind := by
  simp [resolve]

theorem resolve_joined (kind : C) (left right : Query A C F) :
    (joined kind left right).resolve r =
      left.resolve r >>= fun leftFound => right.resolve r >>= r.joined kind leftFound := by
  simp [resolve]

theorem resolveAll_nil : resolveAll r ([] : List (Query A C F)) = pure [] := by
  simp [resolveAll]

theorem resolveAll_cons (q : Query A C F) (qs : List (Query A C F)) :
    resolveAll r (q :: qs) =
      q.resolve r >>= fun found => resolveAll r qs >>= fun others => pure (found :: others) := by
  simp [resolveAll]

theorem resolveAll_append [LawfulMonad m] (qs qs' : List (Query A C F)) :
    resolveAll r (qs ++ qs') =
      resolveAll r qs >>= fun found =>
        resolveAll r qs' >>= fun others => pure (found ++ others) := by
  induction qs
  case nil          => simp [resolveAll_nil]
  case cons q qs ih => simp [resolveAll_cons, ih]

end Resolve

section Related

variable {m m' : Type → Type} [Monad m] [Monad m'] {A C F Id W : Type}

-- Relations between computations that hold of what is put together from related ones.
structure Composes (R : ∀ α : Type, m α → m' α → Prop) : Prop where
  pure : ∀ {α : Type} (a : α), R α (pure a : m α) (pure a : m' α)
  bind : ∀ {α β : Type} {x : m α} {y : m' α} {f : α → m β} {g : α → m' β},
    R α x y → (∀ a, R β (f a) (g a)) → R β (x >>= f) (y >>= g)

-- Holds if two resolvers give related answers to the leaves of a query, and merge alike.
structure RelatedIn (R : ∀ α : Type, m α → m' α → Prop) (r : Resolver m A C F Id W)
    (r' : Resolver m' A C F Id W) (q : Query A C F) : Prop where
  leaf      : ∀ leaf ∈ q.leaves, R _ (leaf.resolve r) (leaf.resolve r')
  aggregate : ∀ kind found, R _ (r.aggregate kind found) (r'.aggregate kind found)
  joined    : ∀ kind left right, R _ (r.joined kind left right) (r'.joined kind left right)

variable {R : ∀ α : Type, m α → m' α → Prop}
variable {r : Resolver m A C F Id W} {r' : Resolver m' A C F Id W} {q : Query A C F}

theorem resolveAll_related (hc : Composes R) {qs : List (Query A C F)}
    (h : ∀ q ∈ qs, R _ (q.resolve r) (q.resolve r')) :
    R _ (resolveAll r qs) (resolveAll r' qs) := by
  induction qs
  case nil          => exact hc.pure []
  case cons q qs ih =>
    rw [List.forall_mem_cons] at h
    rw [resolveAll_cons, resolveAll_cons]
    exact hc.bind h.1 fun found => hc.bind (ih h.2) fun others => hc.pure (found :: others)

-- With related resolvers, evaluations are related.
theorem resolve_related (hc : Composes R) (h : RelatedIn R r r' q) :
    R _ (q.resolve r) (q.resolve r') := by
  obtain ⟨hl, ha, hj⟩ := h
  induction q using Query.induction
  case fullText  => exact hl _ List.mem_cons_self
  case property  => exact hl _ List.mem_cons_self
  case function  => exact hl _ List.mem_cons_self
  case aggregate kind children ih =>
    have hq : ∀ q ∈ children, R _ (q.resolve r) (q.resolve r') := fun q hm =>
      ih q hm fun leaf hq => hl leaf (mem_leaves_aggregate.2 ⟨q, hm, hq⟩)
    rcases children with _ | ⟨q, _ | ⟨q', qs⟩⟩
    case nil       => simpa only [resolve_aggregate_nil] using hc.pure []
    case cons.nil  => simpa only [resolve_aggregate_singleton] using hq q List.mem_cons_self
    case cons.cons =>
      rw [resolve_aggregate, resolve_aggregate]
      exact hc.bind (resolveAll_related hc hq) (ha kind)
  case joined kind left right ihl ihr =>
    have hleft  := ihl fun leaf hm => hl leaf (List.mem_append_left _ hm)
    have hright := ihr fun leaf hm => hl leaf (List.mem_append_right _ hm)
    rw [resolve_joined, resolve_joined]
    exact hc.bind hleft fun leftFound => hc.bind hright (hj kind leftFound)

end Related

section Except

variable {ε A C F Id W : Type} {r : Resolver (Except ε) A C F Id W} {hits : List (Hit Id W)}

theorem resolveAll_eq_ok_iff {qs : List (Query A C F)} {found : List (List (Hit Id W))} :
    resolveAll r qs = .ok found ↔ List.Forall₂ (fun q hits => q.resolve r = .ok hits) qs found := by
  induction qs generalizing found
  case nil =>
    rw [resolveAll_nil, List.forall₂_nil_left_iff]
    exact ⟨fun h => (Except.ok.inj h).symm, fun h => h ▸ rfl⟩
  case cons q qs ih =>
    simp only [resolveAll_cons, bind_eq_ok_iff, List.forall₂_cons_left_iff, ← ih, pure, Except.pure,
      Except.ok.injEq]
    constructor
    case mp =>
      rintro ⟨hits, hq, found', hqs, rfl⟩
      exact ⟨hits, found', hq, hqs, rfl⟩
    case mpr =>
      rintro ⟨hits, found', hq, hqs, rfl⟩
      exact ⟨hits, hq, found', hqs, rfl⟩

theorem resolve_joined_eq_ok_iff {kind : C} {left right : Query A C F} :
    (joined kind left right).resolve r = .ok hits ↔
      ∃ leftFound rightFound, (left.resolve r = .ok leftFound) ∧
        (right.resolve r = .ok rightFound) ∧ (r.joined kind leftFound rightFound = .ok hits) := by
  simp only [resolve_joined, bind_eq_ok_iff, exists_and_left]

theorem resolve_aggregate_eq_ok_iff {kind : A} {q q' : Query A C F} {qs : List (Query A C F)} :
    (aggregate kind (q :: q' :: qs)).resolve r = .ok hits ↔
      ∃ found, List.Forall₂ (fun q hits => q.resolve r = .ok hits) (q :: q' :: qs) found ∧
        (r.aggregate kind found = .ok hits) := by
  simp only [resolve_aggregate, bind_eq_ok_iff, resolveAll_eq_ok_iff]

theorem exists_resolve_of_forall₂ {qs : List (Query A C F)} {found : List (List (Hit Id W))}
    (h : List.Forall₂ (fun q hits => q.resolve r = .ok hits) qs found) :
    ∀ q ∈ qs, ∃ hits, q.resolve r = .ok hits := by
  induction h
  case nil          => simp
  case cons hq _ ih => exact List.forall_mem_cons.2 ⟨⟨_, hq⟩, ih⟩

-- A query has no answer unless all its leaves have one.
theorem resolve_leaf_of_ok {q leaf : Query A C F} (h : q.resolve r = .ok hits)
    (hl : leaf ∈ q.leaves) : ∃ found, leaf.resolve r = .ok found := by
  induction q using Query.induction generalizing hits
  case fullText => exact ⟨hits, List.mem_singleton.1 hl ▸ h⟩
  case property => exact ⟨hits, List.mem_singleton.1 hl ▸ h⟩
  case function => exact ⟨hits, List.mem_singleton.1 hl ▸ h⟩
  case aggregate kind children ih =>
    obtain ⟨q, hm, hq⟩ := mem_leaves_aggregate.1 hl
    rcases children with _ | ⟨q₀, _ | ⟨q₁, qs⟩⟩
    case nil => cases hm
    case cons.nil =>
      cases List.mem_singleton.1 hm
      rw [resolve_aggregate_singleton] at h
      exact ih q hm h hq
    case cons.cons =>
      obtain ⟨found, hf, -⟩ := resolve_aggregate_eq_ok_iff.1 h
      obtain ⟨found, hr⟩ := exists_resolve_of_forall₂ hf q hm
      exact ih q hm hr hq
  case joined kind left right ihl ihr =>
    obtain ⟨leftFound, rightFound, hleft, hright, -⟩ := resolve_joined_eq_ok_iff.1 h
    cases List.mem_append.1 hl
    case inl hl => exact ihl hleft hl
    case inr hl => exact ihr hright hl

end Except

end EntitySearch.Query
