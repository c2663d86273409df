import EntitySearch.Proofs.OrderedMap
import EntitySearch.Proofs.Query.Spelling

namespace EntitySearch

-- Holds of the vocabularies that accept bare words only, and print as such what they stand for.
structure Vocabulary.PrintsItself {A C F : Type} [Named A] [Named C] [Named F]
    (v : Vocabulary A C F) : Prop where
  aggregate  : ∀ n k, v.aggregate? n = some k → Named.name k = n ∧ IsBareWord n.toList
  connective : ∀ n k, v.connective? n = some k → Named.name k = n ∧ IsBareWord n.toList
  function   : ∀ n k, v.function? n = some k → Named.name k = n ∧ IsBareWord n.toList

-- Holds of the tokens that are no values but those for which `P` holds, and no paths but those that
-- can be read.
def TokenKind.Reads (P : String → Prop) : TokenKind → Prop
  | .path content    => IsPath content
  | .value content _ => P content
  | _                => True

-- Holds of the queries with values for which `P` holds, accepted names, and paths that can be read.
inductive Query.OfValues {A C F : Type} [Named A] [Named C] [Named F] (v : Vocabulary A C F)
    (P : String → Prop) : Query A C F → Prop
  | fullText {term : String} :
    (P term) → OfValues v P (.fullText term)
  | property {path value : String} :
    (IsPath path) → (P value) → OfValues v P (.property path value)
  | aggregate {kind : A} {children : List (Query A C F)} :
    (Accepted v.aggregate? kind) → (∀ q ∈ children, OfValues v P q) →
    OfValues v P (.aggregate kind children)
  | joined {kind : C} {left right : Query A C F} :
    (Accepted v.connective? kind) → (OfValues v P left) → (OfValues v P right) →
    OfValues v P (.joined kind left right)
  | function {name : F} {params : Params} :
    (Accepted v.function? name) → (∀ e ∈ params.entries, P e.1 ∧ P e.2) →
    OfValues v P (.function name params)

section

variable {A C F : Type} [Named A] [Named C] [Named F] {v : Vocabulary A C F} {P : String → Prop}

theorem Query.OfValues.spellable {q : Query A C F} (h : q.OfValues v P) : q.Spellable v := by
  induction h
  case fullText                 => exact .fullText
  case property hp _            => exact .property hp
  case aggregate hk _ ih        => exact .aggregate hk ih
  case joined hk _ _ ihl ihr    => exact .joined hk ihl ihr
  case function hn _            => exact .function hn

theorem accepted_of_means {α : Type} [Named α] {meaning? : String → Option α} {n : String} {a : α}
    (hv : ∀ n k, meaning? n = some k → Named.name k = n ∧ IsBareWord n.toList)
    (h : meaning? n = some a) : Accepted meaning? a := by
  obtain ⟨hn, hb⟩ := hv n a h
  exact ⟨hn ▸ hb, hn ▸ h⟩

theorem params_ofArguments {arguments : List (Word × Word)}
    (h : ∀ p ∈ yieldArguments arguments, p.kind.Reads P) :
    ∀ e ∈ (Params.ofArguments arguments).entries, P e.1 ∧ P e.2 := by
  intro e he
  obtain ⟨a, ha, rfl⟩ := List.mem_map.1 (OrderedMap.mem_ofList he)
  clear he
  induction arguments
  case nil => cases ha
  case cons b arguments ih =>
    simp only [yieldArguments, List.forall_mem_cons] at h
    obtain ⟨hk, -, hv, h⟩ := h
    cases List.mem_cons.1 ha
    case inl ha => exact ha ▸ ⟨hk, hv⟩
    case inr ha => exact ih h ha

mutual

theorem Term.ofValues (hv : v.PrintsItself) (t : Term) {q : Query A C F}
    (hp : ∀ p ∈ t.yield, p.kind.Reads P) (hq : v.queryOfTerm t = .ok q) : q.OfValues v P := by
  cases t <;> simp only [Term.yield, List.forall_mem_cons, List.forall_mem_append] at hp
  case group p inner =>
    rw [Vocabulary.queryOfTerm] at hq
    exact inner.ofValues hv hp.2.1 hq
  case fullText term =>
    cases hq
    exact .fullText hp.1
  case property path value =>
    cases hq
    exact .property hp.1 hp.2.2.1
  case function p name arguments =>
    obtain ⟨f, hf, rfl⟩ := Vocabulary.queryOfTerm_function_eq_ok_iff.1 hq
    exact .function (accepted_of_means hv.function hf) (params_ofArguments hp.2.2.2.1)
  case aggregate p name contents =>
    obtain ⟨k, qs, hk, hqs, rfl⟩ := Vocabulary.queryOfTerm_aggregate_eq_ok_iff.1 hq
    have hc := Chain.ofValues_all hv contents hp.2.2.2.1 hqs
    exact .aggregate (accepted_of_means hv.aggregate hk) hc

theorem Chain.ofValues (hv : v.PrintsItself) (c : Chain) {q : Query A C F}
    (hp : ∀ p ∈ c.yield, p.kind.Reads P) (hq : v.queryOfChain c = .ok q) : q.OfValues v P := by
  cases c <;> simp only [Chain.yield, List.forall_mem_cons, List.forall_mem_append] at hp
  case operand t =>
    rw [Vocabulary.queryOfChain] at hq
    exact t.ofValues hv hp hq
  case joined before connective t =>
    obtain ⟨left, k, right, hl, hk, hr, rfl⟩ := Vocabulary.queryOfChain_joined_eq_ok_iff.1 hq
    have hleft  := before.ofValues hv hp.1 hl
    have hright := t.ofValues hv hp.2.2.2 hr
    exact .joined (accepted_of_means hv.connective hk) hleft hright

theorem Chain.ofValues_all (hv : v.PrintsItself) (cs : List Chain) {qs : List (Query A C F)}
    (hp : ∀ p ∈ Chain.yieldAll cs, p.kind.Reads P) (hq : v.queriesOfChains cs = .ok qs) :
    ∀ q ∈ qs, q.OfValues v P := by
  cases cs <;> simp only [Chain.yieldAll, List.forall_mem_append] at hp
  case nil =>
    cases hq
    simp
  case cons c cs =>
    obtain ⟨q, qs, hc, hcs, rfl⟩ := Vocabulary.queriesOfChains_cons_eq_ok_iff.1 hq
    rw [List.forall_mem_cons]
    exact ⟨c.ofValues hv hp.1 hc, Chain.ofValues_all hv cs hp.2 hcs⟩

end

end

end EntitySearch
