import EntitySearch.Number.Double
import EntitySearch.Proofs.Query.Evaluation
import EntitySearch.Proofs.Resolver.Backend
import EntitySearch.Proofs.Resolver.PropertyPath
import EntitySearch.Proofs.Resolver.Recorded

namespace EntitySearch

section Leaves

-- The lookup that a leaf of a query makes.
inductive Backend.Call.Of : Query Quantifier Connective Relation → Backend.Call → Prop
  | fullText {term : String} :
    Of (.fullText term) (.fullText term)
  | property {path value : String} {p : PropertyPath} :
    (p.Splits path) → Of (.property path value) (.tagged p.collection p.subpath value)
  | linkTo {params : Params} {id collection : String} :
    (params.get? "id" = some id) → (params.get? "type" = some collection) →
    Of (.function .linkTo params) (.linked collection id)

-- The error of a leaf that makes none.
inductive ResolveError.Of : Query Quantifier Connective Relation → ResolveError → Prop
  | invalidPath {path value : String} :
    (∀ p : PropertyPath, ¬p.Splits path) → Of (.property path value) (.invalidPath path)
  | missingId {params : Params} :
    (params.get? "id" = none) → Of (.function .linkTo params) (.missingParameter "linkTo" "id")
  | missingType {params : Params} {id : String} :
    (params.get? "id" = some id) → (params.get? "type" = none) →
    Of (.function .linkTo params) (.missingParameter "linkTo" "type")

-- `Lookups answer leaves calls outcome` holds if leaves are looked up one after another, behind
-- some calls, and the outcome is what comes of it and the calls then. Behind an error there are no
-- more.
inductive Lookups {Id W α : Type}
    (answer : Backend.Call → Nat → Except ResolveError (List (Hit Id W))) :
    List (Query Quantifier Connective Relation) → List Backend.Call →
    Except ResolveError α × List Backend.Call → Prop
  | done {calls : List Backend.Call} (a : α) :
    Lookups answer [] calls (.ok a, calls)
  | answered {leaf leaves calls c hits outcome} :
    (Backend.Call.Of leaf c) → (answer c calls.length = .ok hits) →
    (Lookups answer leaves (calls ++ [c]) outcome) → Lookups answer (leaf :: leaves) calls outcome
  | failed {leaf leaves calls c e} :
    (Backend.Call.Of leaf c) → (answer c calls.length = .error e) →
    Lookups answer (leaf :: leaves) calls (.error e, calls ++ [c])
  | refused {leaf leaves calls e} :
    (ResolveError.Of leaf e) → Lookups answer (leaf :: leaves) calls (.error e, calls)

end Leaves

namespace Lookups

open Recorded

variable {Id W α β : Type} {answer : Backend.Call → Nat → Except ResolveError (List (Hit Id W))}
variable {leaf : Query Quantifier Connective Relation}
variable {leaves leaves' : List (Query Quantifier Connective Relation)}
variable {calls : List Backend.Call}

-- Leaf after leaf, what comes of `x` goes on with what comes of `f`, unless it is an error.
theorem bind {x : Recorded Backend.Call ResolveError α}
    {f : α → Recorded Backend.Call ResolveError β}
    (hx : Lookups answer leaves calls (x.after calls))
    (hf : ∀ a calls, Lookups answer leaves' calls ((f a).after calls)) :
    Lookups answer (leaves ++ leaves') calls ((x >>= f).after calls) := by
  rw [after_bind]
  generalize x.after calls = outcome at hx
  induction hx
  case done a              => exact hf a _
  case answered hc ha _ ih => exact .answered hc ha ih
  case failed hc he        => exact .failed hc he
  case refused he          => exact .refused he

theorem map {x : Recorded Backend.Call ResolveError α} {f : α → β}
    (hx : Lookups answer leaves calls (x.after calls)) :
    Lookups answer leaves calls ((x >>= fun a => pure (f a)).after calls) := by
  rw [← List.append_nil leaves]
  exact bind hx fun a calls => .done (f a)

theorem call {answer' : Nat → Except ResolveError α} {c : Backend.Call}
    {f : List (Hit Id W) → α} (hc : Backend.Call.Of leaf c)
    (ha : ∀ n, answer' n = (answer c n).map f) (calls : List Backend.Call) :
    Lookups answer [leaf] calls ((Recorded.call c answer').after calls) := by
  rw [after_call, ha]
  cases h : answer c calls.length
  case error e => exact .failed hc h
  case ok hits => exact .answered hc h (.done (f hits))

end Lookups

namespace Query

open Recorded

section Properties

variable {m : Type → Type} [Monad m] [MonadExcept ResolveError m]
variable {Id W : Type} [DecidableEq Id] [Zero W] [One W] [Add W]
variable (b : Backend m Id W) {path : String}

theorem resolve_property_of_splits {p : PropertyPath} (h : p.Splits path) (value : String) :
    (property path value).resolve b.resolver = b.tagged p.collection p.subpath value := by
  simp only [resolve, Backend.resolver, PropertyPath.ofString?_of_splits h]

theorem resolve_property_of_not_splits (h : ∀ p : PropertyPath, ¬p.Splits path) (value : String) :
    (property path value).resolve b.resolver = throw (.invalidPath path) := by
  simp only [resolve, Backend.resolver, PropertyPath.ofString?_eq_none_iff.2 h]

end Properties

section Resolve

variable {Id W : Type} [DecidableEq Id] [Zero W] [One W] [Add W]
variable {answer : Backend.Call → Nat → Except ResolveError (List (Hit Id W))}

-- Holds of queries whose evaluation comes down to the lookups of their leaves.
def LooksUp (answer : Backend.Call → Nat → Except ResolveError (List (Hit Id W)))
    (q : Query Quantifier Connective Relation) : Prop :=
  ∀ calls, Lookups answer q.leaves calls
    ((q.resolve (Backend.recording answer).resolver).after calls)

theorem looksUp_fullText (term : String) : LooksUp answer (.fullText term) := by
  intro calls
  simp only [resolve, Backend.resolver]
  exact .call .fullText (fun _ => (congrFun Except.map_id _).symm) calls

theorem looksUp_property (path value : String) : LooksUp answer (.property path value) := by
  intro calls
  cases hp : PropertyPath.ofString? path
  case none =>
    have hn := PropertyPath.ofString?_eq_none_iff.1 hp
    rw [resolve_property_of_not_splits _ hn, after_throw]
    exact .refused (.invalidPath hn)
  case some p =>
    have hs := PropertyPath.ofString?_eq_some_iff.1 hp
    rw [resolve_property_of_splits _ hs]
    exact .call (.property hs) (fun _ => (congrFun Except.map_id _).symm) calls

theorem looksUp_function (name : Relation) (params : Params) :
    LooksUp answer (.function name params) := by
  intro calls
  cases name
  simp only [resolve, Backend.resolver]
  cases hi : params.get? "id"
  case none =>
    rw [Backend.requiredParameter_of_none hi, after_bind_of_error (after_throw _ calls)]
    exact .refused (.missingId hi)
  case some id =>
    rw [Backend.requiredParameter_of_some hi, pure_bind]
    cases ht : params.get? "type"
    case none =>
      rw [Backend.requiredParameter_of_none ht, after_bind_of_error (after_throw _ calls)]
      exact .refused (.missingType hi ht)
    case some collection =>
      rw [Backend.requiredParameter_of_some ht, pure_bind]
      exact .map (.call (.linkTo hi ht) (fun _ => rfl) calls)

theorem lookups_resolveAll {qs : List (Query Quantifier Connective Relation)}
    (h : ∀ q ∈ qs, LooksUp answer q) (calls : List Backend.Call) :
    Lookups answer (leavesAll qs) calls
      ((resolveAll (Backend.recording answer).resolver qs).after calls) := by
  induction qs generalizing calls
  case nil =>
    rw [resolveAll_nil, leavesAll]
    exact .done []
  case cons q qs ih =>
    rw [List.forall_mem_cons] at h
    rw [resolveAll_cons, leavesAll]
    exact .bind (h.1 calls) fun found calls => .map (ih h.2 calls)

-- By induction on the query. An inner part adds nothing to the lookups of its own parts, as merging
-- what they find is a value.
theorem lookups_resolve (q : Query Quantifier Connective Relation) : LooksUp answer q := by
  induction q using Query.induction
  case fullText term        => exact looksUp_fullText term
  case property path value  => exact looksUp_property path value
  case function name params => exact looksUp_function name params
  case aggregate kind children ih =>
    intro calls
    rcases children with _ | ⟨q, _ | ⟨q', qs⟩⟩
    case nil =>
      rw [resolve_aggregate_nil]
      exact .done []
    case cons.nil =>
      rw [resolve_aggregate_singleton, leaves, leavesAll, leavesAll, List.append_nil]
      exact ih q List.mem_cons_self calls
    case cons.cons =>
      rw [resolve_aggregate, leaves]
      exact .map (lookups_resolveAll ih calls)
  case joined kind left right ihl ihr =>
    intro calls
    rw [resolve_joined, leaves]
    exact .bind (ihl calls) fun leftFound calls => .map (ihr calls)

-- A path is split into a name and a subpath just if it is made up of them, which it is in one way
-- at most. So testing a property is a single lookup with the parts of its path, or fails with the
-- whole path if there are none. Evaluating a query does this for one leaf after another, with no
-- other calls, up to the first error.
theorem property_paths_exact :
    (∀ (path : String) (p : PropertyPath),
      PropertyPath.ofString? path = some p ↔ p.Splits path) ∧
    (∀ (path : String) (p p' : PropertyPath), p.Splits path → p'.Splits path → p = p') ∧
    (∀ path : String,
      PropertyPath.ofString? path = none ↔ ∀ p : PropertyPath, ¬p.Splits path) ∧
    (∀ {m : Type → Type} [Monad m] [MonadExcept ResolveError m] (b : Backend m Id W)
      (path value : String),
      (∀ p : PropertyPath, p.Splits path →
        (property path value).resolve b.resolver = b.tagged p.collection p.subpath value) ∧
      ((∀ p : PropertyPath, ¬p.Splits path) →
        (property path value).resolve b.resolver = throw (.invalidPath path))) ∧
    (∀ (answer : Backend.Call → Nat → Except ResolveError (List (Hit Id W)))
      (q : Query Quantifier Connective Relation),
      Lookups answer q.leaves [] ((q.resolve (Backend.recording answer).resolver).after [])) := by
  refine ⟨fun _ _ => PropertyPath.ofString?_eq_some_iff, fun _ _ _ h => h.unique,
    fun _ => PropertyPath.ofString?_eq_none_iff, fun b path value => ⟨?_, ?_⟩, ?_⟩
  · exact fun p h => resolve_property_of_splits b h value
  · exact fun h => resolve_property_of_not_splits b h value
  · exact fun answer q => lookups_resolve q []

-- A path with two slashes is looked up, and one that ends with its second slash is not. So the term
-- behind it is not looked up either.
theorem property_paths_exact_invalid :
    let answer (_ : Backend.Call) (_ : Nat) : Except ResolveError (List (Hit String Double)) :=
      .ok [⟨"x", 1⟩]
    let b := Backend.recording answer
    let q : Query Quantifier Connective Relation :=
      .joined .and (.property "/a_1//b" "v")
        (.aggregate .some [.property "/a_1/" "v", .fullText "t"])
    (PropertyPath.Splits ⟨"a_1", "//b"⟩ "/a_1//b") ∧
    (PropertyPath.ofString? "/a_1/" = none) ∧
    ((property "/a_1//b" "v").resolve b.resolver = b.tagged "a_1" "//b" "v") ∧
    ((property "/a_1/" "v").resolve b.resolver = throw (.invalidPath "/a_1/")) ∧
    Lookups answer q.leaves []
      ((.error (.invalidPath "/a_1/") : Except ResolveError (List (Hit String Double))),
        [.tagged "a_1" "//b" "v"]) := by
  intro answer b q
  obtain ⟨hs, -, hn, hp, hr⟩ := @property_paths_exact String Double _ _ _ _
  have hs := (hs "/a_1//b" ⟨"a_1", "//b"⟩).1 (by decide +kernel)
  have ho : PropertyPath.ofString? "/a_1/" = none := by decide +kernel
  exact ⟨hs, ho, (hp b _ _).1 _ hs, (hp b _ _).2 ((hn _).1 ho), hr answer q⟩

end Resolve

end Query

end EntitySearch
