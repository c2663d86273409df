import EntitySearch.Proofs.OrderedMap
import EntitySearch.Proofs.Query.Compile
import EntitySearch.Proofs.Token.Tokenization

namespace EntitySearch

section Names

mutual

-- The names that are looked up for a term, in the order of the text, each with what it names.
def Term.names : Term → List (NameRole × Word)
  | .group _ inner             => inner.names
  | .fullText _                => []
  | .property _ _              => []
  | .function _ name _         => [(.function, name)]
  | .aggregate _ name contents => (.aggregate, name) :: Chain.namesAll contents

def Chain.names : Chain → List (NameRole × Word)
  | .operand t                  => t.names
  | .joined before connective t => before.names ++ (.connective, connective) :: t.names

def Chain.namesAll : List Chain → List (NameRole × Word)
  | []      => []
  | c :: cs => c.names ++ Chain.namesAll cs

end

-- The atoms that names stand for.
def atomsOf (names : List (NameRole × Word)) : List Atom :=
  names.map fun n => .value n.2

theorem atomsOf_append (names more : List (NameRole × Word)) :
    atomsOf (names ++ more) = atomsOf names ++ atomsOf more :=
  List.map_append

-- Names stand in the text in their order.
mutual

theorem Term.names_sublist {t : Term} {as : List Atom} (h : Yields t.yield as) :
    (atomsOf t.names).Sublist as := by
  cases t <;> simp only [Term.yield, yields_symbolAt, yields_value, yields_symbol, yields_append,
    yields_path, yields_nil] at h
  case group p inner =>
    obtain ⟨_, ⟨as, bs, ha, -, rfl⟩, rfl⟩ := h
    exact ((Chain.names_sublist ha).trans (List.sublist_append_left as bs)).cons _
  case fullText => exact List.nil_sublist _
  case property => exact List.nil_sublist _
  case function p name args =>
    obtain ⟨_, ⟨_, -, rfl⟩, rfl⟩ := h
    exact ((List.nil_sublist _).cons_cons _).cons _
  case aggregate p name contents =>
    obtain ⟨_, ⟨_, ⟨q, _, ⟨as, bs, ha, -, rfl⟩, rfl⟩, rfl⟩, rfl⟩ := h
    have hs := (Chain.namesAll_sublist ha).trans (List.sublist_append_left as bs)
    exact ((hs.cons _).cons_cons _).cons _

theorem Chain.names_sublist {c : Chain} {as : List Atom} (h : Yields c.yield as) :
    (atomsOf c.names).Sublist as := by
  cases c <;> simp only [Chain.yield, yields_append, yields_symbol, yields_value] at h
  case operand t => exact Term.names_sublist h
  case joined before connective t =>
    obtain ⟨as, _, ha, ⟨p, _, ⟨bs, hb, rfl⟩, rfl⟩, rfl⟩ := h
    rw [Chain.names, atomsOf_append]
    exact (Chain.names_sublist ha).append (((Term.names_sublist hb).cons_cons _).cons _)

theorem Chain.namesAll_sublist {cs : List Chain} {as : List Atom}
    (h : Yields (Chain.yieldAll cs) as) : (atomsOf (Chain.namesAll cs)).Sublist as := by
  cases cs <;> simp only [Chain.yieldAll, yields_nil, yields_append] at h
  case nil => exact List.nil_sublist _
  case cons c cs =>
    obtain ⟨as, bs, ha, hb, rfl⟩ := h
    rw [Chain.namesAll, atomsOf_append]
    exact (Chain.names_sublist ha).append (Chain.namesAll_sublist hb)

end

variable {source : String} {ts : List Token} {cs : List Chain}

-- Each name stands in the text as the content of a value.
theorem exists_token_of_mem_namesAll (hm : MadeOf cs ts) {n : NameRole × Word}
    (hn : n ∈ Chain.namesAll cs) :
    ∃ t ∈ ts, (t.start = n.2.position) ∧ (t.kind.unquoted = .value n.2.content none) := by
  have hs := (Chain.namesAll_sublist (madeOf_iff.1 hm)).subset (List.mem_map_of_mem hn)
  obtain ⟨t, ht, ha⟩ := List.mem_filterMap.1 hs
  refine ⟨t, ht, (Token.position_of_atom? ha).symm, ?_⟩
  obtain ⟨kind, start, stop, text⟩ := t
  cases kind <;> simp_all [Token.atom?, TokenKind.unquoted, Word.eq_iff]

end Names

section Meaning

-- Holds if parameters have the keys of arguments, in the order in which they first come, and for
-- each key the last value that is given for it.
structure Gives (arguments : List (Word × Word)) (ps : Params) : Prop where
  keys   : ps.keys = (arguments.map (·.1.content)).eraseDups
  values : ∀ k, ps.get? k = (arguments.filter (·.1.content = k)).getLast?.map (·.2.content)

theorem gives_ofArguments (args : List (Word × Word)) : Gives args (.ofArguments args) where
  keys := by rw [Params.ofArguments, OrderedMap.keys_ofList, List.map_map]; rfl
  values k := by
    rw [Params.ofArguments, OrderedMap.get?_ofList, List.filter_map, List.getLast?_map,
      Option.map_map]
    rfl

variable {A C F : Type}

-- A query with others joined to it from left to right.
def Query.joinedAll (q : Query A C F) (links : List (C × Query A C F)) : Query A C F :=
  links.foldl (fun left link => .joined link.1 left link.2) q

mutual

-- What terms and chains stand for in a vocabulary. Brackets leave no trace.
inductive Term.Means (v : Vocabulary A C F) : Term → Query A C F → Prop
  | group {p : Position} {inner : Chain} {q : Query A C F} :
    (Chain.Means v inner q) → Term.Means v (.group p inner) q
  | fullText (term : Word) :
    Term.Means v (.fullText term) (.fullText term.content)
  | property (path value : Word) :
    Term.Means v (.property path value) (.property path.content value.content)
  | function {p : Position} {name : Word} {arguments : List (Word × Word)} {f : F} {ps : Params} :
    (v.function? name.content = some f) → (Gives arguments ps) →
    Term.Means v (.function p name arguments) (.function f ps)
  | aggregate {p : Position} {name : Word} {contents : List Chain} {kind : A}
    {qs : List (Query A C F)} :
    (v.aggregate? name.content = some kind) → (Chain.MeanAll v contents qs) →
    Term.Means v (.aggregate p name contents) (.aggregate kind qs)

-- A chain stands for its first term with what its links stand for, joined to it one by one.
inductive Chain.Means (v : Vocabulary A C F) : Chain → Query A C F → Prop
  | folded {c : Chain} {q : Query A C F} {links : List (C × Query A C F)} :
    (Term.Means v c.head q) → (Chain.LinksMean v c.links links) →
    Chain.Means v c (q.joinedAll links)

inductive Chain.LinksMean (v : Vocabulary A C F) :
    List (Word × Term) → List (C × Query A C F) → Prop
  | nil :
    Chain.LinksMean v [] []
  | cons {connective : Word} {t : Term} {kind : C} {q : Query A C F}
    {ls : List (Word × Term)} {links : List (C × Query A C F)} :
    (v.connective? connective.content = some kind) → (Term.Means v t q) →
    (Chain.LinksMean v ls links) →
    Chain.LinksMean v ((connective, t) :: ls) ((kind, q) :: links)

inductive Chain.MeanAll (v : Vocabulary A C F) : List Chain → List (Query A C F) → Prop
  | nil :
    Chain.MeanAll v [] []
  | cons {c : Chain} {q : Query A C F} {cs : List Chain} {qs : List (Query A C F)} :
    (Chain.Means v c q) → (Chain.MeanAll v cs qs) → Chain.MeanAll v (c :: cs) (q :: qs)

end

variable {v : Vocabulary A C F}

theorem Chain.LinksMean.concat {ls : List (Word × Term)} {links : List (C × Query A C F)}
    {connective : Word} {t : Term} {kind : C} {q : Query A C F} (h : LinksMean v ls links)
    (hk : v.connective? connective.content = some kind) (ht : Term.Means v t q) :
    LinksMean v (ls ++ [(connective, t)]) (links ++ [(kind, q)]) := by
  induction ls generalizing links
  case nil =>
    cases h
    exact .cons hk ht .nil
  case cons l ls ih =>
    cases h
    case cons hk' ht' hl => exact .cons hk' ht' (ih hl)

theorem Chain.Means.operand {t : Term} {q : Query A C F} (h : Term.Means v t q) :
    Means v (.operand t) q :=
  @folded _ _ _ v (.operand t) q [] h .nil

theorem Chain.Means.joined {before : Chain} {connective : Word} {t : Term} {kind : C}
    {left right : Query A C F} (h : Means v before left)
    (hk : v.connective? connective.content = some kind) (ht : Term.Means v t right) :
    Means v (.joined before connective t) (.joined kind left right) := by
  cases h
  case folded q links hq hl =>
    have := @folded _ _ _ v (.joined before connective t) q (links ++ [(kind, right)]) hq
      (hl.concat hk ht)
    simpa [Query.joinedAll] using this

end Meaning

section Checks

variable {A C F α β : Type} {v : Vocabulary A C F}

-- Holds if there is nothing in the vocabulary that a name could name.
def Vocabulary.rejects (v : Vocabulary A C F) : NameRole × Word → Bool
  | (.aggregate, w)  => (v.aggregate? w.content).isNone
  | (.connective, w) => (v.connective? w.content).isNone
  | (.function, w)   => (v.function? w.content).isNone

-- Holds of a computation that looks up these names in order: it fails with the first of them that
-- is rejected, and gives something of which `P` holds if none is.
def Checks (v : Vocabulary A C F) (names : List (NameRole × Word)) (P : α → Prop)
    (x : Except RejectedName α) : Prop :=
  match names.find? v.rejects with
  | none           => ∃ a, x = .ok a ∧ P a
  | some (role, w) => x = .error { role := role, word := w }

namespace Checks

variable {names more : List (NameRole × Word)} {P : α → Prop} {Q : β → Prop}
variable {x : Except RejectedName α}

theorem ok {a : α} (h : P a) : Checks v [] P (.ok a) :=
  ⟨a, rfl, h⟩

theorem bind {f : α → Except RejectedName β} (h : Checks v names P x)
    (hf : ∀ a, P a → Checks v more Q (f a)) : Checks v (names ++ more) Q (x >>= f) := by
  unfold Checks at h ⊢
  rw [List.find?_append]
  cases hn : names.find? v.rejects <;> rw [hn] at h
  case none =>
    obtain ⟨a, rfl, ha⟩ := h
    exact hf a ha
  case some n =>
    subst h
    rfl

theorem map {f : α → β} (h : Checks v names P x) (hf : ∀ a, P a → Q (f a)) :
    Checks v names Q (x >>= fun a => pure (f a)) := by
  rw [← names.append_nil]
  exact h.bind fun a ha => ok (hf a ha)

theorem mono {Q : α → Prop} (h : Checks v names P x) (hf : ∀ a, P a → Q a) :
    Checks v names Q x := by
  simpa using h.map hf

theorem lookup {role : NameRole} {meaning? : String → Option α} {w : Word}
    (h : v.rejects (role, w) = (meaning? w.content).isNone) :
    Checks v [(role, w)] (fun a => meaning? w.content = some a) (w.lookup role meaning?) := by
  unfold Checks Word.lookup
  cases hm : meaning? w.content <;> simp [h, hm]

end Checks

mutual

theorem checks_queryOfTerm (t : Term) : Checks v t.names (t.Means v) (v.queryOfTerm t) := by
  cases t <;> simp only [Term.names, Vocabulary.queryOfTerm]
  case group p inner       => exact (checks_queryOfChain inner).mono fun _ h => .group h
  case fullText term       => exact .ok (.fullText term)
  case property path value => exact .ok (.property path value)
  case function p name args =>
    exact (Checks.lookup rfl).map fun _ hf => .function hf (gives_ofArguments args)
  case aggregate p name contents =>
    exact (Checks.lookup rfl).bind fun _ hk =>
      (checks_queriesOfChains contents).map fun _ hqs => .aggregate hk hqs

theorem checks_queryOfChain (c : Chain) : Checks v c.names (c.Means v) (v.queryOfChain c) := by
  cases c <;> simp only [Chain.names, Vocabulary.queryOfChain]
  case operand t => exact (checks_queryOfTerm t).mono fun _ h => .operand h
  case joined before connective t =>
    exact (checks_queryOfChain before).bind fun _ hb => (Checks.lookup rfl).bind fun _ hk =>
      (checks_queryOfTerm t).map fun _ ht => hb.joined hk ht

theorem checks_queriesOfChains (cs : List Chain) :
    Checks v (Chain.namesAll cs) (Chain.MeanAll v cs) (v.queriesOfChains cs) := by
  cases cs <;> simp only [Chain.namesAll, Vocabulary.queriesOfChains]
  case nil => exact .ok .nil
  case cons c cs =>
    exact (checks_queryOfChain c).bind fun _ hq =>
      (checks_queriesOfChains cs).map fun _ hqs => .cons hq hqs

end

end Checks

section Compile

variable {A C F : Type} {v : Vocabulary A C F} {source : String} {cs : List Chain}

theorem compile_of_find?_eq_some {n : NameRole × Word} (hp : parse source = .ok cs)
    (h : (Chain.namesAll cs).find? v.rejects = some n) :
    compile v source =
      .error (.ofFault (.unknownName n.1 n.2.content) source n.2.position) := by
  have hc := @checks_queriesOfChains _ _ _ v cs
  unfold Checks at hc
  rw [h] at hc
  rw [compile_of_parse hp, Vocabulary.query, hc]
  rfl

theorem compile_of_find?_eq_none (hp : parse source = .ok cs)
    (h : (Chain.namesAll cs).find? v.rejects = none) :
    ∃ qs, Chain.MeanAll v cs qs ∧ compile v source = .ok (.aggregate v.top qs) := by
  have hc := @checks_queriesOfChains _ _ _ v cs
  unfold Checks at hc
  rw [h] at hc
  obtain ⟨qs, hqs, hmean⟩ := hc
  exact ⟨qs, hmean, by rw [compile_of_parse hp, Vocabulary.query_eq_ok_iff.2 ⟨qs, hqs, rfl⟩]⟩

end Compile

end EntitySearch
