import EntitySearch.Proofs.Query.Compile
import EntitySearch.Proofs.Token.Outline

namespace EntitySearch

section Kinds

variable {as : List Atom} {ks : List TokenKind}

-- Kinds between brackets.
def groupKinds (ks : List TokenKind) : List TokenKind :=
  .symbol .opening :: (ks ++ [.symbol .closing])

-- The kinds of tokens between brackets, behind a symbol and a name.
def bracketedKinds (s : Symbol) (name : String) (inside : List TokenKind) : List TokenKind :=
  .symbol s :: .value name none :: groupKinds inside

-- The kinds of the tokens of arguments, each with its key.
def argumentKinds (es : List (String × String)) : List TokenKind :=
  es.flatMap fun e => [.value e.1 none, .symbol .equals, .value e.2 none]

theorem cutsInto_group {cs : List Char} (h : CutsInto cs ks) :
    CutsInto ('(' :: (cs ++ [')'])) (groupKinds ks) :=
  cutsInto_symbol .opening (cutsInto_append h (cutsInto_symbol .closing cutsInto_nil) (by decide))

theorem cutsInto_bracketed (s : Symbol) {name : String} {cs : List Char}
    (hn : CutsInto name.toList [.value name none]) (h : CutsInto cs ks) :
    CutsInto (s.toChar :: (name.toList ++ '(' :: (cs ++ [')']))) (bracketedKinds s name ks) :=
  cutsInto_symbol s (cutsInto_append hn (cutsInto_group h) (by decide))

theorem Atom.kind_eq_symbol {a : Atom} {s : Symbol} :
    a.kind = .symbol s ↔ ∃ p, a = .symbol s p := by
  cases a <;> simp [Atom.kind]

theorem Atom.kind_eq_path {a : Atom} {path : String} :
    a.kind = .path path ↔ ∃ p, a = .path ⟨path, p⟩ := by
  cases a <;> simp [Atom.kind, Word.eq_iff]

theorem Atom.kind_eq_value {a : Atom} {value : String} :
    a.kind = .value value none ↔ ∃ p, a = .value ⟨value, p⟩ := by
  cases a <;> simp [Atom.kind, Word.eq_iff]

theorem map_kind_eq_group (h : as.map Atom.kind = groupKinds ks) :
    ∃ p q bs, bs.map Atom.kind = ks ∧ as = .symbol .opening p :: (bs ++ [.symbol .closing q]) := by
  simp only [groupKinds, List.map_eq_cons_iff, List.map_eq_append_iff, List.map_eq_nil_iff,
    Atom.kind_eq_symbol] at h
  obtain ⟨_, _, rfl, ⟨p, rfl⟩, bs, _, rfl, hb, _, _, rfl, ⟨q, rfl⟩, rfl⟩ := h
  exact ⟨p, q, bs, hb, rfl⟩

theorem map_kind_eq_bracketed {s : Symbol} {name : String}
    (h : as.map Atom.kind = bracketedKinds s name ks) :
    ∃ p q r t bs, bs.map Atom.kind = ks ∧
      as = .symbol s p :: .value ⟨name, q⟩ :: .symbol .opening r ::
        (bs ++ [.symbol .closing t]) := by
  simp only [bracketedKinds, List.map_eq_cons_iff, Atom.kind_eq_symbol, Atom.kind_eq_value] at h
  obtain ⟨_, _, rfl, ⟨p, rfl⟩, _, _, rfl, ⟨q, rfl⟩, hg⟩ := h
  obtain ⟨r, t, bs, hb, rfl⟩ := map_kind_eq_group hg
  exact ⟨p, q, r, t, bs, hb, rfl⟩

theorem exists_arguments (es : List (String × String)) (h : as.map Atom.kind = argumentKinds es) :
    ∃ arguments, Yields (yieldArguments arguments) as ∧
      Params.ofArguments arguments = .ofList es := by
  suffices ∃ arguments, Yields (yieldArguments arguments) as ∧
      arguments.map (fun a => (a.1.content, a.2.content)) = es by
    obtain ⟨arguments, hy, ha⟩ := this
    exact ⟨arguments, hy, by rw [Params.ofArguments, ha]⟩
  induction es generalizing as
  case nil =>
    refine ⟨[], ?_, rfl⟩
    simpa [argumentKinds, yieldArguments] using h
  case cons e es ih =>
    simp only [argumentKinds, List.flatMap_cons, List.cons_append, List.nil_append,
      List.map_eq_cons_iff, Atom.kind_eq_symbol, Atom.kind_eq_value] at h
    obtain ⟨_, _, rfl, ⟨p, rfl⟩, _, _, rfl, ⟨q, rfl⟩, _, bs, rfl, ⟨r, rfl⟩, hb⟩ := h
    obtain ⟨arguments, hy, ha⟩ := ih hb
    refine ⟨(⟨e.1, p⟩, ⟨e.2, r⟩) :: arguments, ?_, by simp [ha]⟩
    simpa [yieldArguments] using hy

end Kinds

section Reading

variable {A C F : Type} (v : Vocabulary A C F) (ks : List TokenKind)

-- Holds if all atoms of these kinds are a term that stands for this query.
def ReadAsTerm (q : Query A C F) : Prop :=
  ∀ as, as.map Atom.kind = ks → ∃ t : Term, Yields t.yield as ∧ v.queryOfTerm t = .ok q

def ReadAsChain (q : Query A C F) : Prop :=
  ∀ as, as.map Atom.kind = ks → ∃ c : Chain, Yields c.yield as ∧ v.queryOfChain c = .ok q

-- The same for any number of expressions.
def ReadAsAll (qs : List (Query A C F)) : Prop :=
  ∀ as, as.map Atom.kind = ks →
    ∃ cs, Yields (Chain.yieldAll cs) as ∧ v.queriesOfChains cs = .ok qs

variable {v ks} {ls : List TokenKind} {q r : Query A C F} {qs rs : List (Query A C F)}

theorem ReadAsTerm.chain (h : ReadAsTerm v ks q) : ReadAsChain v ks q := by
  intro as ha
  obtain ⟨t, hy, hq⟩ := h as ha
  exact ⟨.operand t, by rwa [Chain.yield], by rwa [Vocabulary.queryOfChain]⟩

theorem readAsTerm_fullText (term : String) :
    ReadAsTerm v [.value term none] (.fullText term) := by
  intro as ha
  simp only [List.map_eq_cons_iff, List.map_eq_nil_iff, Atom.kind_eq_value] at ha
  obtain ⟨_, _, rfl, ⟨p, rfl⟩, rfl⟩ := ha
  exact ⟨.fullText ⟨term, p⟩, by simp [Term.yield], by rw [Vocabulary.queryOfTerm]⟩

theorem readAsTerm_property (path value : String) :
    ReadAsTerm v [.path path, .symbol .equals, .value value none] (.property path value) := by
  intro as ha
  simp only [List.map_eq_cons_iff, List.map_eq_nil_iff, Atom.kind_eq_path, Atom.kind_eq_symbol,
    Atom.kind_eq_value] at ha
  obtain ⟨_, _, rfl, ⟨p, rfl⟩, _, _, rfl, ⟨q, rfl⟩, _, _, rfl, ⟨r, rfl⟩, rfl⟩ := ha
  exact ⟨.property ⟨path, p⟩ ⟨value, r⟩, by simp [Term.yield], by rw [Vocabulary.queryOfTerm]⟩

-- With brackets around it, a chain is a term.
theorem ReadAsChain.group (h : ReadAsChain v ks q) : ReadAsTerm v (groupKinds ks) q := by
  intro as ha
  obtain ⟨p, p', bs, hb, rfl⟩ := map_kind_eq_group ha
  obtain ⟨c, hy, hq⟩ := h bs hb
  refine ⟨.group p c, ?_, by rwa [Vocabulary.queryOfTerm]⟩
  rw [Term.yield]
  exact yields_symbolAt.2 ⟨_, yields_closed hy p', rfl⟩

theorem ReadAsAll.aggregate {name : String} {kind : A} (h : ReadAsAll v ks qs)
    (hn : v.aggregate? name = some kind) :
    ReadAsTerm v (bracketedKinds .dollar name ks) (.aggregate kind qs) := by
  intro as ha
  obtain ⟨p, p₁, p₂, p₃, bs, hb, rfl⟩ := map_kind_eq_bracketed ha
  obtain ⟨contents, hy, hq⟩ := h bs hb
  refine ⟨.aggregate p ⟨name, p₁⟩ contents, ?_,
    Vocabulary.queryOfTerm_aggregate_eq_ok_iff.2 ⟨kind, qs, hn, hq, rfl⟩⟩
  rw [Term.yield]
  exact yields_bracketed hy ..

theorem readAsTerm_function {name : String} {f : F} (es : List (String × String))
    (hn : v.function? name = some f) :
    ReadAsTerm v (bracketedKinds .percent name (argumentKinds es)) (.function f (.ofList es)) := by
  intro as ha
  obtain ⟨p, p₁, p₂, p₃, bs, hb, rfl⟩ := map_kind_eq_bracketed ha
  obtain ⟨arguments, hy, hp⟩ := exists_arguments es hb
  refine ⟨.function p ⟨name, p₁⟩ arguments, ?_, ?_⟩
  · rw [Term.yield]
    exact yields_bracketed hy ..
  · rw [← hp]
    exact Vocabulary.queryOfTerm_function_eq_ok_iff.2 ⟨f, hn, rfl⟩

-- A connective carries on whatever chain stands before it.
theorem ReadAsChain.joined {name : String} {kind : C} (h : ReadAsChain v ks q)
    (h' : ReadAsTerm v ls r) (hn : v.connective? name = some kind) :
    ReadAsChain v (ks ++ .symbol .minus :: .value name none :: ls) (.joined kind q r) := by
  intro as ha
  simp only [List.map_eq_append_iff, List.map_eq_cons_iff, Atom.kind_eq_symbol,
    Atom.kind_eq_value] at ha
  obtain ⟨bs, _, rfl, hb, _, _, rfl, ⟨p, rfl⟩, _, ds, rfl, ⟨p', rfl⟩, hd⟩ := ha
  obtain ⟨before, hy, hq⟩ := h bs hb
  obtain ⟨t, hy', hr⟩ := h' ds hd
  refine ⟨.joined before ⟨name, p'⟩ t, ?_,
    Vocabulary.queryOfChain_joined_eq_ok_iff.2 ⟨q, kind, r, hq, hn, hr, rfl⟩⟩
  rw [Chain.yield]
  exact yields_append.2 ⟨bs, _, hy, by simpa using hy', rfl⟩

theorem queriesOfChains_append {cs ds : List Chain} (hc : v.queriesOfChains cs = .ok qs)
    (hd : v.queriesOfChains ds = .ok rs) : v.queriesOfChains (cs ++ ds) = .ok (qs ++ rs) := by
  induction cs generalizing qs
  case nil =>
    cases hc
    exact hd
  case cons c cs ih =>
    obtain ⟨q, qs, hq, hqs, rfl⟩ := Vocabulary.queriesOfChains_cons_eq_ok_iff.1 hc
    exact Vocabulary.queriesOfChains_cons_eq_ok_iff.2 ⟨q, _, hq, ih hqs, rfl⟩

theorem readAsAll_nil : ReadAsAll v [] [] := by
  intro as ha
  exact ⟨[], by simpa [Chain.yieldAll] using ha, by rw [Vocabulary.queriesOfChains]⟩

theorem ReadAsAll.append (h : ReadAsAll v ks qs) (h' : ReadAsAll v ls rs) :
    ReadAsAll v (ks ++ ls) (qs ++ rs) := by
  intro as ha
  obtain ⟨bs, ds, rfl, hb, hd⟩ := List.map_eq_append_iff.1 ha
  obtain ⟨cs, hy, hq⟩ := h bs hb
  obtain ⟨cs', hy', hq'⟩ := h' ds hd
  refine ⟨cs ++ cs', ?_, queriesOfChains_append hq hq'⟩
  rw [yieldAll_append]
  exact yields_append.2 ⟨bs, ds, hy, hy', rfl⟩

theorem queriesOfChains_eq_singleton_iff {cs : List Chain} :
    v.queriesOfChains cs = .ok [q] ↔ ∃ c, cs = [c] ∧ v.queryOfChain c = .ok q := by
  constructor
  case mp =>
    intro h
    cases cs
    case nil => cases h
    case cons c cs =>
      obtain ⟨q, qs, hq, hqs, heq⟩ := Vocabulary.queriesOfChains_cons_eq_ok_iff.1 h
      cases heq
      cases cs
      case nil => exact ⟨c, rfl, hq⟩
      case cons =>
        obtain ⟨_, _, -, -, hn⟩ := Vocabulary.queriesOfChains_cons_eq_ok_iff.1 hqs
        cases hn
  case mpr =>
    rintro ⟨c, rfl, hq⟩
    exact Vocabulary.queriesOfChains_cons_eq_ok_iff.2
      ⟨q, [], hq, by rw [Vocabulary.queriesOfChains], rfl⟩

-- Expressions of a single query are a single expression.
theorem readAsAll_singleton_iff : ReadAsAll v ks [q] ↔ ReadAsChain v ks q := by
  simp only [ReadAsAll, ReadAsChain, queriesOfChains_eq_singleton_iff]
  refine forall₂_congr fun as _ => ?_
  constructor
  case mp =>
    rintro ⟨_, hy, c, rfl, hq⟩
    exact ⟨c, by simpa [Chain.yieldAll] using hy, hq⟩
  case mpr =>
    rintro ⟨c, hy, hq⟩
    exact ⟨[c], by simpa [Chain.yieldAll] using hy, c, rfl, hq⟩

theorem compile_of_readAsAll {source : String} (h : Outlines source.toList ks)
    (hr : ReadAsAll v ks qs) : compile v source = .ok (.aggregate v.top qs) := by
  obtain ⟨ts, ht, hk⟩ := outlines_iff.1 h
  rw [← map_kind_atoms] at hk
  obtain ⟨cs, hy, hq⟩ := hr _ hk
  exact compile_eq_ok_iff.2 ⟨ts, cs, qs, ht, madeOf_iff.2 hy, hq, rfl⟩

-- A text that is a single expression by its tokens.
theorem compile_of_readAsChain {source : String} (h : Outlines source.toList ks)
    (hr : ReadAsChain v ks q) : compile v source = .ok (.aggregate v.top [q]) :=
  compile_of_readAsAll h (readAsAll_singleton_iff.2 hr)

end Reading

end EntitySearch
