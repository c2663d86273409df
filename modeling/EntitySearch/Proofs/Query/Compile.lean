import EntitySearch.Proofs.Expression.Parsing
import EntitySearch.Query.Compile

namespace EntitySearch

theorem Word.lookup_eq_ok_iff {α : Type} {role : NameRole} {meaning? : String → Option α} {w : Word}
    {a : α} : w.lookup role meaning? = .ok a ↔ meaning? w.content = some a := by
  unfold lookup
  cases meaning? w.content <;> simp

variable {A C F : Type} {v : Vocabulary A C F} {q : Query A C F} {qs : List (Query A C F)}

namespace Vocabulary

theorem queryOfTerm_function_eq_ok_iff {p : Position} {name : Word}
    {arguments : List (Word × Word)} :
    v.queryOfTerm (.function p name arguments) = .ok q ↔
      ∃ f, (v.function? name.content = some f) ∧ (q = .function f (.ofArguments arguments)) := by
  simp only [queryOfTerm, bind_eq_ok_iff, Word.lookup_eq_ok_iff, pure, Except.pure,
    Except.ok.injEq, eq_comm (b := q)]

theorem queryOfTerm_aggregate_eq_ok_iff {p : Position} {name : Word} {contents : List Chain} :
    v.queryOfTerm (.aggregate p name contents) = .ok q ↔
      ∃ kind qs, (v.aggregate? name.content = some kind) ∧
        (v.queriesOfChains contents = .ok qs) ∧ (q = .aggregate kind qs) := by
  simp only [queryOfTerm, bind_eq_ok_iff, Word.lookup_eq_ok_iff, pure, Except.pure,
    Except.ok.injEq, eq_comm (b := q), exists_and_left]

theorem queryOfChain_joined_eq_ok_iff {before : Chain} {connective : Word} {t : Term} :
    v.queryOfChain (.joined before connective t) = .ok q ↔
      ∃ left kind right, (v.queryOfChain before = .ok left) ∧
        (v.connective? connective.content = some kind) ∧ (v.queryOfTerm t = .ok right) ∧
        (q = .joined kind left right) := by
  simp only [queryOfChain, bind_eq_ok_iff, Word.lookup_eq_ok_iff, pure, Except.pure,
    Except.ok.injEq, eq_comm (b := q), exists_and_left]

theorem queriesOfChains_cons_eq_ok_iff {c : Chain} {cs : List Chain} :
    v.queriesOfChains (c :: cs) = .ok qs ↔
      ∃ q rs, (v.queryOfChain c = .ok q) ∧ (v.queriesOfChains cs = .ok rs) ∧ (qs = q :: rs) := by
  simp only [queriesOfChains, bind_eq_ok_iff, pure, Except.pure, Except.ok.injEq,
    eq_comm (b := qs), exists_and_left]

theorem query_eq_ok_iff {cs : List Chain} :
    v.query cs = .ok q ↔
      ∃ qs, (v.queriesOfChains cs = .ok qs) ∧ (q = .aggregate v.top qs) := by
  simp only [query, bind_eq_ok_iff, pure, Except.pure, Except.ok.injEq, eq_comm (b := q)]

end Vocabulary

section Source

variable {source : String} {cs : List Chain}

theorem compile_of_parse (h : parse source = .ok cs) :
    compile v source = match v.query cs with
      | .ok q    => .ok q
      | .error e =>
        .error (.ofFault (.unknownName e.role e.word.content) source e.word.position) := by
  rw [compile, h]
  rfl

theorem compile_of_parse_error {e : SyntaxError} (h : parse source = .error e) :
    compile v source = .error e := by
  rw [compile, h]
  rfl

theorem compile_eq_ok_iff :
    compile v source = .ok q ↔
      ∃ ts cs qs, (tokenize source = .ok ts) ∧ (MadeOf cs ts) ∧
        (v.queriesOfChains cs = .ok qs) ∧ (q = .aggregate v.top qs) := by
  rw [compile, bind_eq_ok_iff]
  constructor
  case mp =>
    rintro ⟨cs, hp, hc⟩
    obtain ⟨ts, ht, -⟩ := bind_eq_ok_iff.1 hp
    have hm := (parse_eq_ok_iff ht).1 hp
    cases hq : v.query cs <;> rw [hq] at hc <;> cases hc
    case ok.refl =>
      obtain ⟨qs, hqs, rfl⟩ := Vocabulary.query_eq_ok_iff.1 hq
      exact ⟨ts, cs, qs, ht, hm, hqs, rfl⟩
  case mpr =>
    rintro ⟨ts, cs, qs, ht, hm, hqs, rfl⟩
    refine ⟨cs, (parse_eq_ok_iff ht).2 hm, ?_⟩
    rw [Vocabulary.query_eq_ok_iff.2 ⟨qs, hqs, rfl⟩]
    rfl

end Source

end EntitySearch
