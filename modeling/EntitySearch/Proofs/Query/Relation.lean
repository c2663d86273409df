import EntitySearch.Proofs.Hit.Merge
import EntitySearch.Proofs.Query.Evaluation
import EntitySearch.Search

namespace EntitySearch

section Connectives

variable {A C F : Type}

namespace Query

mutual

-- The connectives of a query, in the order of the text.
def connectives : Query A C F → List C
  | aggregate _ children   => connectivesAll children
  | joined kind left right => connectives left ++ kind :: connectives right
  | _                      => []

def connectivesAll : List (Query A C F) → List C
  | []      => []
  | q :: qs => connectives q ++ connectivesAll qs

end

theorem mem_connectives_aggregate {kind : A} {children : List (Query A C F)} {c : C} :
    c ∈ (aggregate kind children).connectives ↔ ∃ q ∈ children, c ∈ q.connectives := by
  have h (qs : List (Query A C F)) : c ∈ connectivesAll qs ↔ ∃ q ∈ qs, c ∈ q.connectives := by
    induction qs
    case nil          => simp [connectivesAll]
    case cons q qs ih => simp [connectivesAll, ih]
  rw [connectives, h]

end Query

end Connectives

section Related

variable {Id W W' : Type} [DecidableEq Id] [Zero W] [One W] [Add W] [Zero W'] [One W'] [Add W']

variable {R : ∀ α α' : Type,
  (α → α' → Prop) → Except ResolveError α → Except ResolveError α' → Prop}
variable {S : List (Hit Id W) → List (Hit Id W') → Prop}

-- Holds if the lookups of two backends give related hits.
structure Backend.RelatedBy
    (R : ∀ α α' : Type, (α → α' → Prop) → Except ResolveError α → Except ResolveError α' → Prop)
    (S : List (Hit Id W) → List (Hit Id W') → Prop) (b : Backend (Except ResolveError) Id W)
    (b' : Backend (Except ResolveError) Id W') : Prop where
  tagged   : ∀ collection subpath value,
    R _ _ S (b.tagged collection subpath value) (b'.tagged collection subpath value)
  fullText : ∀ term, R _ _ S (b.fullText term) (b'.fullText term)
  linked   : ∀ collection id,
    R _ _ (fun ids ids' => S (ids.map fun id => ⟨id, 1⟩) (ids'.map fun id => ⟨id, 1⟩))
      (b.linked collection id) (b'.linked collection id)

variable {b : Backend (Except ResolveError) Id W} {b' : Backend (Except ResolveError) Id W'}
variable {q : Query Quantifier Connective Relation}

theorem Backend.requiredParameter_related (hR : Lifts R) (relation : Relation) (params : Params)
    (parameter : String) :
    R _ _ Eq (requiredParameter relation params parameter)
      (requiredParameter relation params parameter) := by
  unfold requiredParameter
  cases params.get? parameter
  case none   => exact hR.error _
  case some v => exact hR.ok rfl

namespace Query

theorem resolveAll_relatedBy (hR : Lifts R)
    {qs : List (Query Quantifier Connective Relation)}
    (h : ∀ q ∈ qs, R _ _ S (q.resolve b.resolver) (q.resolve b'.resolver)) :
    R _ _ (List.Forall₂ S) (resolveAll b.resolver qs) (resolveAll b'.resolver qs) := by
  induction qs
  case nil =>
    rw [resolveAll_nil, resolveAll_nil]
    exact hR.ok .nil
  case cons q qs ih =>
    rw [List.forall_mem_cons] at h
    rw [resolveAll_cons, resolveAll_cons]
    exact hR.bind h.1 fun _ _ hq => hR.bind (ih h.2) fun _ _ hqs => hR.ok (.cons hq hqs)

-- Backends that are related give related hits for a query, if merging keeps the relation.
theorem resolve_relatedBy (hR : Lifts R) (hS : Hit.KeptByMerges S)
    (hx : .exclude ∈ q.connectives → Hit.KeptByExclude S) (hb : b.RelatedBy R S b') :
    R _ _ S (q.resolve b.resolver) (q.resolve b'.resolver) := by
  induction q using Query.induction
  case fullText term => exact hb.fullText term
  case property path value =>
    simp only [resolve, Backend.resolver]
    split
    case h_1 p _ => exact hb.tagged p.collection p.subpath value
    case h_2     => exact hR.error _
  case function name params =>
    cases name
    have hp := Backend.requiredParameter_related hR .linkTo params
    refine hR.bind (hp "id") fun id _ hi => hR.bind (hp "type") fun collection _ hc => ?_
    subst hi hc
    exact hR.bind (hb.linked collection id) fun _ _ h => hR.ok h
  case aggregate kind children ih =>
    have hq : ∀ q ∈ children, R _ _ S (q.resolve b.resolver) (q.resolve b'.resolver) :=
      fun q hm => ih q hm fun hc => hx (mem_connectives_aggregate.2 ⟨q, hm, hc⟩)
    rcases children with _ | ⟨q, _ | ⟨q', qs⟩⟩
    case nil =>
      rw [resolve_aggregate_nil, resolve_aggregate_nil]
      exact hR.ok hS.nil
    case cons.nil =>
      rw [resolve_aggregate_singleton, resolve_aggregate_singleton]
      exact hq q List.mem_cons_self
    case cons.cons =>
      rw [resolve_aggregate, resolve_aggregate]
      refine hR.bind (resolveAll_relatedBy hR hq) fun _ _ h => hR.ok ?_
      cases kind
      case every => exact hS.intersection h
      case some  => exact hS.union h
  case joined kind left right ihl ihr =>
    have hleft  := ihl fun hc => hx (List.mem_append_left _ hc)
    have hright := ihr fun hc => hx (List.mem_append_right _ (List.mem_cons_of_mem _ hc))
    rw [resolve_joined, resolve_joined]
    refine hR.bind hleft fun _ _ hl => hR.bind hright fun _ _ hr => hR.ok ?_
    cases kind
    case and     => exact hS.intersection (.cons hl (.cons hr .nil))
    case or      => exact hS.union (.cons hl (.cons hr .nil))
    case exclude => exact hx (List.mem_append_right _ List.mem_cons_self) hl hr

end Query

end Related

section Search

variable {source : String} {q : Query Quantifier Connective Relation}

theorem search_of_compile (s : Store) (h : compile .standard source = .ok q) :
    s.search source = (q.resolve s.backend.resolver).mapError .resolveError := by
  simp only [Store.search, h]
  cases q.resolve s.backend.resolver <;> rfl

theorem search_eq_ok_iff {s : Store} {hits : List (Hit String Double)} :
    s.search source = .ok hits ↔
      ∃ q, (compile .standard source = .ok q) ∧ (q.resolve s.backend.resolver = .ok hits) := by
  cases hq : compile .standard source
  case error e =>
    simp only [Store.search, hq]
    exact ⟨nofun, nofun⟩
  case ok q =>
    rw [search_of_compile s hq]
    cases hr : q.resolve s.backend.resolver <;> simp [Except.mapError, hr]

end Search

end EntitySearch
