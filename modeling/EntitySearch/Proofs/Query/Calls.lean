import EntitySearch.Proofs.Query.Evaluation
import EntitySearch.Proofs.Resolver.Recorded

namespace EntitySearch

section Walk

variable {A C F Id W ε : Type}

-- A walk through a query: the calls that it makes, and what it finds.
structure Walk (κ α : Type) where
  calls : List κ
  found : α

-- A walk that ends in a call, behind others of which the first has the number `n`.
def Walk.endIn {κ α : Type} (given : κ → Nat → α) (n : Nat) (before : List κ) (c : κ) :
    Walk κ α where
  calls := before ++ [c]
  found := given c (n + before.length)

-- The calls that a part of a query makes for itself.
inductive Resolver.Call.Of : Query A C F → Resolver.Call A C F Id W → Prop
  | fullText {term : String} :
    Of (.fullText term) (.fullText term)
  | property {path value : String} :
    Of (.property path value) (.property path value)
  | function {name : F} {params : Params} :
    Of (.function name params) (.function name params)
  | aggregate {kind : A} {children : List (Query A C F)} {found : List (List (Hit Id W))} :
    (found.length = children.length) → Of (.aggregate kind children) (.aggregate kind found)
  | joined {kind : C} {left right : Query A C F} {leftFound rightFound : List (Hit Id W)} :
    Of (.joined kind left right) (.joined kind leftFound rightFound)

namespace Query

open Recorded Resolver

mutual

-- The parts of a query that make calls for themselves, in the order of the text and each behind its
-- own parts. An aggregate of fewer than two children makes none.
def callers : Query A C F → List (Query A C F)
  | aggregate kind children =>
    match children with
    | []       => []
    | [child]  => callers child
    | children => callersAll children ++ [aggregate kind children]
  | joined kind left right => callers left ++ callers right ++ [joined kind left right]
  | leaf => [leaf]

def callersAll : List (Query A C F) → List (Query A C F)
  | []      => []
  | q :: qs => callers q ++ callersAll qs

end

mutual

-- The walk through a query if the first of its calls has the number `n`, and answers to calls and
-- their numbers are given.
def walk (given : Call A C F Id W → Nat → List (Hit Id W)) (n : Nat) :
    Query A C F → Walk (Call A C F Id W) (List (Hit Id W))
  | fullText term        => .endIn given n [] (.fullText term)
  | property path value  => .endIn given n [] (.property path value)
  | function name params => .endIn given n [] (.function name params)
  | aggregate kind children =>
    match children with
    | []       => { calls := [], found := [] }
    | [child]  => walk given n child
    | children =>
      let parts := walkAll given n children
      .endIn given n parts.calls (.aggregate kind parts.found)
  | joined kind left right =>
    let before := walk given n left
    let behind := walk given (n + before.calls.length) right
    .endIn given n (before.calls ++ behind.calls) (.joined kind before.found behind.found)

def walkAll (given : Call A C F Id W → Nat → List (Hit Id W)) (n : Nat) :
    List (Query A C F) → Walk (Call A C F Id W) (List (List (Hit Id W)))
  | []      => { calls := [], found := [] }
  | q :: qs =>
    let before := walk given n q
    let behind := walkAll given (n + before.calls.length) qs
    { calls := before.calls ++ behind.calls, found := before.found :: behind.found }

end

section Callers

variable {given : Call A C F Id W → Nat → List (Hit Id W)}

theorem of_walkAll {qs : List (Query A C F)} {n : Nat}
    (h : ∀ q ∈ qs, ∀ n, List.Forall₂ Call.Of q.callers (q.walk given n).calls) :
    List.Forall₂ Call.Of (callersAll qs) (walkAll given n qs).calls ∧
      (walkAll given n qs).found.length = qs.length := by
  induction qs generalizing n
  case nil => simp [callersAll, walkAll]
  case cons q qs ih =>
    rw [List.forall_mem_cons] at h
    obtain ⟨hc, hl⟩ := ih (n := n + (q.walk given n).calls.length) h.2
    simp only [callersAll, walkAll, List.length_cons, hl, and_true]
    exact List.rel_append (h.1 n) hc

-- The calls of a walk are those of the parts that make calls.
theorem of_walk (q : Query A C F) (n : Nat) :
    List.Forall₂ Call.Of q.callers (q.walk given n).calls := by
  induction q using Query.induction generalizing n
  case fullText => exact .cons .fullText .nil
  case property => exact .cons .property .nil
  case function => exact .cons .function .nil
  case aggregate kind children ih =>
    rcases children with _ | ⟨q, _ | ⟨q', qs⟩⟩
    case nil       => simp [callers, walk]
    case cons.nil  => simpa [callers, walk] using ih q List.mem_cons_self n
    case cons.cons =>
      obtain ⟨hc, hl⟩ := of_walkAll (n := n) ih
      simp only [callers, walk, Walk.endIn]
      exact List.rel_append hc (.cons (.aggregate hl) .nil)
  case joined kind left right ihl ihr =>
    simp only [callers, walk, Walk.endIn]
    exact List.rel_append (List.rel_append (ihl n) (ihr _)) (.cons .joined .nil)

end Callers

section Run

variable {given : Call A C F Id W → Nat → List (Hit Id W)}
variable {answer : Call A C F Id W → Nat → Except ε (List (Hit Id W))}
variable {cs cs' : List (Call A C F Id W)} {n : Nat}

-- Holds if some calls, of which the first has the number `n`, get the given answers.
def Granted (given : Call A C F Id W → Nat → List (Hit Id W))
    (answer : Call A C F Id W → Nat → Except ε (List (Hit Id W))) (n : Nat)
    (cs : List (Call A C F Id W)) : Prop :=
  ∀ i c, cs[i]? = some c → answer c (n + i) = .ok (given c (n + i))

theorem granted_append :
    Granted given answer n (cs ++ cs') ↔
      Granted given answer n cs ∧ Granted given answer (n + cs.length) cs' := by
  constructor
  case mp =>
    intro h
    constructor <;> intro i c hc
    case left =>
      have hi : i < cs.length := (List.getElem?_eq_some_iff.1 hc).1
      exact h i c (by rwa [List.getElem?_append_left hi])
    case right =>
      have hc : (cs ++ cs')[cs.length + i]? = some c := by
        rwa [List.getElem?_append_right (Nat.le_add_right _ i), Nat.add_sub_cancel_left]
      rw [Nat.add_assoc]
      exact h (cs.length + i) c hc
  case mpr =>
    rintro ⟨h, h'⟩ i c hc
    by_cases hi : i < cs.length
    case pos =>
      rw [List.getElem?_append_left hi] at hc
      exact h i c hc
    case neg =>
      rw [List.getElem?_append_right (Nat.le_of_not_lt hi)] at hc
      have ha := h' (i - cs.length) c hc
      rwa [Nat.add_assoc, Nat.add_sub_cancel' (Nat.le_of_not_lt hi)] at ha

theorem granted_singleton {c : Call A C F Id W} :
    Granted given answer n [c] ↔ answer c n = .ok (given c n) := by
  constructor
  case mp =>
    intro h
    exact h 0 c rfl
  case mpr =>
    intro h i d hd
    cases i
    case zero   => cases hd; exact h
    case succ i => simp at hd

-- Holds if evaluating a query goes as the walk, if the calls of this get the given answers.
def Follows (given : Call A C F Id W → Nat → List (Hit Id W))
    (answer : Call A C F Id W → Nat → Except ε (List (Hit Id W))) (q : Query A C F) : Prop :=
  ∀ calls, Granted given answer calls.length (q.walk given calls.length).calls →
    (q.resolve (.recording answer)).after calls =
      (.ok (q.walk given calls.length).found, calls ++ (q.walk given calls.length).calls)

theorem after_call_of_granted {c : Call A C F Id W} {calls : List (Call A C F Id W)}
    (hg : Granted given answer calls.length [c]) :
    (Recorded.call c (answer c)).after calls = (.ok (given c calls.length), calls ++ [c]) := by
  rw [after_call, granted_singleton.1 hg]

theorem after_resolveAll {qs : List (Query A C F)} (h : ∀ q ∈ qs, Follows given answer q)
    (calls : List (Call A C F Id W))
    (hg : Granted given answer calls.length (walkAll given calls.length qs).calls) :
    (resolveAll (.recording answer) qs).after calls =
      (.ok (walkAll given calls.length qs).found,
        calls ++ (walkAll given calls.length qs).calls) := by
  induction qs generalizing calls
  case nil => simp [resolveAll_nil, after_pure, walkAll]
  case cons q qs ih =>
    rw [List.forall_mem_cons] at h
    rw [walkAll, granted_append] at hg
    have hq := h.1 calls hg.1
    have hqs := ih h.2 (calls ++ (q.walk given calls.length).calls) (by simpa using hg.2)
    rw [resolveAll_cons, after_bind_of_ok hq, after_bind_of_ok hqs, after_pure]
    simp [walkAll]

-- If no call fails, the calls are those of the walk.
theorem after_resolve (q : Query A C F) : Follows given answer q := by
  induction q using Query.induction <;> intro calls hg
  case fullText => exact after_call_of_granted hg
  case property => exact after_call_of_granted hg
  case function => exact after_call_of_granted hg
  case aggregate kind children ih =>
    rcases children with _ | ⟨q, _ | ⟨q', qs⟩⟩
    case nil      => simp [resolve_aggregate_nil, after_pure, walk]
    case cons.nil =>
      rw [resolve_aggregate_singleton]
      simp only [walk] at hg ⊢
      exact ih q List.mem_cons_self calls hg
    case cons.cons =>
      simp only [walk, Walk.endIn, granted_append, granted_singleton] at hg ⊢
      have hq := after_resolveAll ih calls hg.1
      rw [resolve_aggregate, after_bind_of_ok hq]
      simp [Resolver.recording, after_call, hg.2]
  case joined kind left right ihl ihr =>
    simp only [walk, Walk.endIn, granted_append, granted_singleton, List.length_append] at hg ⊢
    have hl := ihl calls hg.1.1
    have hr := ihr (calls ++ (left.walk given calls.length).calls) (by simpa using hg.1.2)
    rw [resolve_joined, after_bind_of_ok hl, after_bind_of_ok hr]
    simp [Resolver.recording, after_call, hg.2]

end Run

section Abort

variable {answer failing : Call A C F Id W → Nat → Except ε (List (Hit Id W))} {n : Nat}

-- What two computations have in common if their calls get the same answers before number `n`.
structure RunsAlike (failing : Call A C F Id W → Nat → Except ε (List (Hit Id W))) (n : Nat)
    (α : Type) (x y : Recorded (Call A C F Id W) ε α) : Prop where
  keeps  : Keeps x
  keeps' : Keeps y
  aborts : Aborts failing y
  agree  : AgreeTo n x y

theorem composes_runsAlike : Composes (RunsAlike failing n) where
  pure a     := ⟨.pure a, .pure a, .pure a, .refl _⟩
  bind hx hf :=
    have hk a  := (hf a).keeps
    have hk' a := (hf a).keeps'
    { keeps  := hx.keeps.bind hk
      keeps' := hx.keeps'.bind hk'
      aborts := hx.aborts.bind hk' fun a => (hf a).aborts
      agree  := hx.agree.bind hk hk' fun a => (hf a).agree }

theorem runsAlike_call (h : ∀ i < n, ∀ c, failing c i = answer c i) (c : Call A C F Id W) :
    RunsAlike failing n _ (Recorded.call c (answer c)) (Recorded.call c (failing c)) where
  keeps  := .call c _
  keeps' := .call c _
  aborts := .call c
  agree  := .call (fun i hi => h i hi c) c

theorem runsAlike_resolve (h : ∀ i < n, ∀ c, failing c i = answer c i) (q : Query A C F) :
    RunsAlike failing n _ (q.resolve (.recording answer)) (q.resolve (.recording failing)) := by
  have hc := runsAlike_call h
  refine resolve_related composes_runsAlike ⟨?leaf, ?aggregate, ?joined⟩
  case leaf =>
    refine forall_mem_leaves ?_ ?_ ?_ q
    · exact fun term => hc (.fullText term)
    · exact fun path value => hc (.property path value)
    · exact fun name params => hc (.function name params)
  case aggregate => exact fun kind found => hc (.aggregate kind found)
  case joined    => exact fun kind left right => hc (.joined kind left right)

-- A call that fails is the last one, and its error is what comes of the evaluation. The calls up to
-- it are those of a run where it does not fail.
theorem after_resolve_of_error (h : ∀ i < n, ∀ c, failing c i = answer c i) (q : Query A C F)
    {c : Call A C F Id W} {e : ε} (hc : ((q.resolve (.recording failing)).after []).2[n]? = some c)
    (he : failing c n = .error e) :
    (q.resolve (.recording failing)).after [] =
      (.error e, ((q.resolve (.recording answer)).after []).2.take (n + 1)) := by
  have hr := runsAlike_resolve h q
  obtain ⟨hf, hl⟩ := hr.aborts [] n c e (Nat.zero_le n) hc he
  have ht := hr.agree.calls [] (Nat.zero_le n)
  rw [List.take_of_length_le (Nat.le_of_eq hl)] at ht
  exact Prod.ext hf ht

end Abort

-- The calls of an evaluation in which none fails are those of the parts that make calls, in the
-- order of the text, each with what its own parts found. If call `n` fails, it is the last, and its
-- error comes of the evaluation. What comes of calls from `n` on makes no difference to the calls
-- up to it.
theorem resolve_recording (q : Query A C F) :
    (∀ given : Call A C F Id W → Nat → List (Hit Id W),
      List.Forall₂ Call.Of q.callers (q.walk given 0).calls) ∧
    (∀ (given : Call A C F Id W → Nat → List (Hit Id W))
      (answer : Call A C F Id W → Nat → Except ε (List (Hit Id W))),
      (∀ i c, (q.walk given 0).calls[i]? = some c → answer c i = .ok (given c i)) →
      (q.resolve (.recording answer)).after [] =
        (.ok (q.walk given 0).found, (q.walk given 0).calls)) ∧
    (∀ (answer failing : Call A C F Id W → Nat → Except ε (List (Hit Id W))) (n : Nat),
      (∀ i < n, ∀ c, failing c i = answer c i) →
      (((q.resolve (.recording failing)).after []).2.take (n + 1) =
        ((q.resolve (.recording answer)).after []).2.take (n + 1)) ∧
      ∀ c e, ((q.resolve (.recording failing)).after []).2[n]? = some c → failing c n = .error e →
        (q.resolve (.recording failing)).after [] =
          (.error e, ((q.resolve (.recording answer)).after []).2.take (n + 1))) := by
  refine ⟨fun given => of_walk q 0, fun given answer hg => ?_, fun answer failing n h => ⟨?_, ?_⟩⟩
  · refine after_resolve q [] fun i c hc => ?_
    rw [List.length_nil, Nat.zero_add]
    exact hg i c hc
  · exact (runsAlike_resolve h q).agree.calls [] (Nat.zero_le n)
  · intro c e hc he
    exact after_resolve_of_error h q hc he

-- The second of three lookups fails, or none does.
theorem resolve_recording_second :
    let q : Query Quantifier Connective Relation :=
      .aggregate .some [.fullText "a", .fullText "b", .fullText "c"]
    let given (_ : Call Quantifier Connective Relation String Nat) (n : Nat) := [Hit.mk "x" n]
    let answer (c : Call Quantifier Connective Relation String Nat) (n : Nat) :
        Except String (List (Hit String Nat)) := .ok (given c n)
    let failing (c : Call Quantifier Connective Relation String Nat) (n : Nat) :
        Except String (List (Hit String Nat)) := if n = 1 then .error "boom" else answer c n
    ((q.resolve (.recording answer)).after [] =
      (.ok [⟨"x", 3⟩], [.fullText "a", .fullText "b", .fullText "c",
        .aggregate .some [[⟨"x", 0⟩], [⟨"x", 1⟩], [⟨"x", 2⟩]]])) ∧
    ((q.resolve (.recording failing)).after [] =
      (.error "boom", [.fullText "a", .fullText "b"])) := by
  intro q given answer failing
  have hn : ∀ i < 1, ∀ c, failing c i = answer c i := fun i hi c => if_neg (Nat.ne_of_lt hi)
  have ha := (resolve_recording q).2.1 given answer fun _ _ _ => rfl
  have hf := ((resolve_recording q).2.2 answer failing 1 hn).2 (.fullText "b") "boom" rfl rfl
  exact ⟨ha, hf⟩

end Query

end Walk

end EntitySearch
