import EntitySearch.Proofs.Query.Canonical
import EntitySearch.Proofs.Query.Relation
import EntitySearch.Proofs.Resolver.Backend

namespace EntitySearch

section Filled

theorem Params.get?_filled (ps : Params) (k : String) :
    ps.filled.get? k = (ps.get? k).filter (· ≠ "") := by
  refine Option.ext fun v => ?_
  rw [OrderedMap.get?_eq_some_iff, Option.filter_eq_some_iff, OrderedMap.get?_eq_some_iff]
  simp [Params.filled]

variable {m : Type → Type} [Monad m] {A C F Id W : Type}

-- A resolver for which parameters without a value are missing.
def Resolver.filled (r : Resolver m A C F Id W) : Resolver m A C F Id W :=
  { r with function := fun name params => r.function name params.filled }

namespace Query

theorem resolveAll_filled {r : Resolver m A C F Id W} {qs : List (Query A C F)}
    (h : ∀ q ∈ qs, q.filled.resolve r = q.resolve r.filled) :
    resolveAll r (qs.map filled) = resolveAll r.filled qs := by
  induction qs
  case nil          => rw [List.map_nil, resolveAll_nil, resolveAll_nil]
  case cons q qs ih =>
    rw [List.forall_mem_cons] at h
    rw [List.map_cons, resolveAll_cons, resolveAll_cons, h.1, ih h.2]

theorem resolve_filled (r : Resolver m A C F Id W) (q : Query A C F) :
    q.filled.resolve r = q.resolve r.filled := by
  induction q using Query.induction
  case fullText => simp only [filled, map, id, resolve, Resolver.filled]
  case property => simp only [filled, map, id, resolve, Resolver.filled]
  case function => simp only [filled, map, resolve, Resolver.filled]
  case aggregate kind children ih =>
    rw [filled_aggregate]
    rcases children with _ | ⟨q, _ | ⟨q', qs⟩⟩
    case nil       => rw [List.map_nil, resolve_aggregate_nil, resolve_aggregate_nil]
    case cons.nil  =>
      have hq := ih q List.mem_cons_self
      rwa [List.map_singleton, resolve_aggregate_singleton, resolve_aggregate_singleton]
    case cons.cons =>
      have hqs := resolveAll_filled ih
      rw [List.map_cons, List.map_cons] at hqs ⊢
      rw [resolve_aggregate, resolve_aggregate, hqs]
      rfl
  case joined kind left right ihl ihr =>
    rw [filled_joined, resolve_joined, resolve_joined, ihl, ihr]
    rfl

end Query

end Filled

section Lookups

variable {Id W : Type} [DecidableEq Id] [Zero W] [One W] [Add W]
variable {b : Backend (Except ResolveError) Id W} {q : Query Quantifier Connective Relation}
variable {params : Params} {parameter : String} {e : ResolveError}

-- Holds of the parameters by which links are looked up.
def IsLinkParameter (parameter : String) : Prop :=
  parameter = "id" ∨ parameter = "type"

-- Holds if some links are looked up by a parameter without a value.
def Query.IsBlank (q : Query Quantifier Connective Relation) (parameter : String) : Prop :=
  IsLinkParameter parameter ∧
    ∃ params, .function .linkTo params ∈ q.leaves ∧ params.get? parameter = some ""

-- Says that such a parameter is missing.
def Query.MissesBlank (q : Query Quantifier Connective Relation) (e : ResolveError) : Prop :=
  ∃ parameter, q.IsBlank parameter ∧ e = .missingParameter "linkTo" parameter

theorem unless_requiredParameter (params : Params) (parameter : String) :
    Unless (fun e => params.get? parameter = some "" ∧ e = .missingParameter "linkTo" parameter)
      (Backend.requiredParameter (m := Except ResolveError) .linkTo params parameter)
      (Backend.requiredParameter .linkTo params.filled parameter) := by
  unfold Backend.requiredParameter
  rw [Params.get?_filled]
  rcases params.get? parameter with _ | value
  case none => exact .refl _
  case some =>
    by_cases hv : value = ""
    case pos =>
      refine .inr ⟨_, ⟨congrArg some hv, rfl⟩, ?_⟩
      rw [Option.filter_some, if_neg (by simpa using hv)]
      rfl
    case neg =>
      rw [Option.filter_some, if_pos (by simpa using hv)]
      exact .refl _

theorem unless_linkTo (hm : .function .linkTo params ∈ q.leaves) :
    Unless q.MissesBlank (b.resolver.function .linkTo params)
      (b.resolver.filled.function .linkTo params) := by
  have hp {parameter : String} (hl : IsLinkParameter parameter) :=
    (unless_requiredParameter params parameter).mono (Q := q.MissesBlank)
      fun e ⟨hb, he⟩ => ⟨parameter, ⟨hl, params, hm, hb⟩, he⟩
  exact (hp (.inl rfl)).bind fun id => (hp (.inr rfl)).bind fun collection => .refl _

theorem composes_unless {ε : Type} (P : ε → Prop) :
    Query.Composes fun α (x y : Except ε α) => Unless P x y where
  pure a := .refl (.ok a)
  bind   := .bind

-- Without the parameters that have no value, a query is evaluated as it is, or one of them is
-- missing.
theorem unless_resolve_filled (b : Backend (Except ResolveError) Id W)
    (q : Query Quantifier Connective Relation) :
    Unless q.MissesBlank (q.resolve b.resolver) (q.filled.resolve b.resolver) := by
  rw [Query.resolve_filled]
  refine Query.resolve_related (composes_unless q.MissesBlank) ⟨?leaf, ?aggregate, ?joined⟩
  case leaf =>
    refine fun leaf hm => Query.forall_mem_leaves (P := fun leaf => leaf ∈ q.leaves →
      Unless q.MissesBlank (leaf.resolve b.resolver) (leaf.resolve b.resolver.filled))
      ?_ ?_ ?_ q leaf hm hm
    · exact fun term _ => .refl _
    · exact fun path value _ => .refl _
    · exact fun | .linkTo, params, hm => unless_linkTo hm
  case aggregate => exact fun kind found => .refl _
  case joined    => exact fun kind left right => .refl _

-- If links are looked up by one of these parameters, there is no answer.
theorem resolve_filled_ne_ok (h : q.IsBlank parameter) (hits : List (Hit Id W)) :
    q.filled.resolve b.resolver ≠ .ok hits := by
  intro hq
  obtain ⟨hl, params, hm, hb⟩ := h
  rw [Query.resolve_filled] at hq
  obtain ⟨found, hf⟩ := Query.resolve_leaf_of_ok hq hm
  obtain ⟨id, collection, -, hi, hc, -⟩ := Backend.function_linkTo_eq_ok_iff.1 hf
  rw [Params.get?_filled] at hi hc
  cases hl
  case inl hp => simp [← hp, hb] at hi
  case inr hp => simp [← hp, hb] at hc

end Lookups

section Search

variable {source : String} {q : Query Quantifier Connective Relation}

-- Holds of the texts in which all quotes are closed.
def ClosesQuotes (source : String) : Prop :=
  ∀ ts, tokenize source = .ok ts → ∀ t ∈ ts, ¬IsUnclosed t.kind t.text.toList

theorem ClosesQuotes.not_endsCutShort (h : ClosesQuotes source) : ¬EndsCutShort source := by
  rintro ⟨ts, ht, t, hl, _, _, -, hu, -⟩
  exact h ts ht t (List.mem_of_getLast? hl) hu

-- A text that ends in a symbol closes its quotes, as only the last token can be an open quote.
theorem closesQuotes_of_symbol {s : Symbol}
    (h : (tokenize source).map (·.getLast?.map Token.kind) = .ok (some (.symbol s))) :
    ClosesQuotes source := by
  intro ts ht t hm
  obtain ⟨before, after, rfl⟩ := List.append_of_mem hm
  have hr := (tokenize_eq_ok_iff_isTokenization.1 ht).ruled
  cases after
  case nil =>
    rw [ht] at h
    have hk : t.kind = .symbol s := by simpa [Except.map] using h
    rintro ⟨_, _, _, hv, -⟩
    rw [hk] at hv
    cases hv
  case cons u after =>
    have hu := (hr (before ++ [t]) u after (by simp)).text_ne_nil
    exact (hr before t (u :: after) rfl).not_isUnclosed (by simp [String.toList_join, hu])

-- Searching for the canonical text of a text that closes its quotes gives what searching for the
-- text gives, unless links are looked up by a parameter without a value. The canonical text has no
-- such parameter, and searching for it fails: as for the text, or because the parameter is missing.
theorem search_source (s : Store) (h : compile .standard source = .ok q)
    (hc : ClosesQuotes source) :
    ((∀ parameter, ¬q.IsBlank parameter) → s.search q.source = s.search source) ∧
    (∀ parameter, q.IsBlank parameter →
      ∃ e, (s.search q.source = .error (.resolveError e)) ∧
        ((s.search source = .error (.resolveError e)) ∨ q.MissesBlank e)) := by
  obtain ⟨r, hr, -, hf, -, -⟩ := exists_compile_canonical Vocabulary.standard_printsItself h
  cases hf hc.not_endsCutShort
  have hu := unless_resolve_filled s.backend q
  rw [search_of_compile s h, search_of_compile s hr]
  constructor
  case left =>
    intro hb
    rcases hu with he | ⟨e, ⟨parameter, hp, -⟩, -⟩
    case inl => rw [he]
    case inr => exact absurd hp (hb parameter)
  case right =>
    intro parameter hb
    cases hq : q.filled.resolve s.backend.resolver
    case ok hits => exact absurd hq (resolve_filled_ne_ok hb hits)
    case error e =>
      -- Either `q` fails in the same way, or `e` says what is missing.
      refine ⟨e, rfl, ?_⟩
      rcases hu with he | ⟨e', hm, he⟩
      case inl => exact .inl (by rw [← he, hq]; rfl)
      case inr =>
        cases hq.symm.trans he
        exact .inr hm

-- One text looks up links by a parameter without a value, the other one looks up words.
theorem search_source_empty :
    let blank : Query Quantifier Connective Relation :=
      .aggregate .every [.function .linkTo (.ofList [("id", ""), ("type", "note")])]
    (∃ e, ((∅ : Store).search "%linkTo(type=note)" = .error (.resolveError e)) ∧
      (((∅ : Store).search "%linkTo(id='' type=note)" = .error (.resolveError e)) ∨
        blank.MissesBlank e)) ∧
    ((∅ : Store).search "$some(\"a b\")" = (∅ : Store).search "$some('a b')") := by
  intro blank
  let words : Query Quantifier Connective Relation :=
    .aggregate .every [.aggregate .some [.fullText "a b"]]
  have hb : compile .standard "%linkTo(id='' type=note)" = .ok blank :=
    compile_linkTo _ (by decide +kernel)
  have hw : compile .standard "$some('a b')" = .ok words := by
    have hsome : Vocabulary.standard.aggregate? "some" = some .some := rfl
    have hr : ReadAsAll Vocabulary.standard [.value "a b" none] [.fullText "a b"] :=
      readAsAll_singleton_iff.2 (readAsTerm_fullText "a b").chain
    exact compile_of_readAsChain (by decide +kernel) (hr.aggregate hsome).chain
  have hbc : ClosesQuotes "%linkTo(id='' type=note)" :=
    closesQuotes_of_symbol (s := .closing) (by decide +kernel)
  have hwc : ClosesQuotes "$some('a b')" :=
    closesQuotes_of_symbol (s := .closing) (by decide +kernel)
  have hbs : blank.source = "%linkTo(type=note)" := by decide +kernel
  have hws : words.source = "$some(\"a b\")" := by decide +kernel
  have hn : ∀ parameter, ¬words.IsBlank parameter := by
    rintro parameter ⟨-, params, hm, -⟩
    simp [words, Query.leaves, Query.leavesAll] at hm
  have hi : blank.IsBlank "id" := by
    refine ⟨.inl rfl, .ofList [("id", ""), ("type", "note")], ?_, rfl⟩
    simp [blank, Query.leaves, Query.leavesAll]
  have he := (search_source ∅ hb hbc).2 "id" hi
  have hs := (search_source ∅ hw hwc).1 hn
  rw [hbs] at he
  rw [hws] at hs
  exact ⟨he, hs⟩

-- An entity may have an empty id, which its canonical text does not keep.
theorem search_source_ne :
    let s := Store.ofContents
      { entities := [], links := [{ source := ⟨"note", ""⟩, target := ⟨"note", "b"⟩ }] }
    let q : Query Quantifier Connective Relation :=
      .aggregate .every [.function .linkTo (.ofList [("id", ""), ("type", "note")])]
    (compile .standard "%linkTo(id='' type=note)" = .ok q) ∧
    (ClosesQuotes "%linkTo(id='' type=note)") ∧
    (s.search "%linkTo(id='' type=note)" = .ok [⟨"b", 1⟩]) ∧
    (s.search q.source = .error (.resolveError (.missingParameter "linkTo" "id"))) := by
  intro s q
  have hq : compile .standard "%linkTo(id='' type=note)" = .ok q :=
    compile_linkTo _ (by decide +kernel)
  have hc : ClosesQuotes "%linkTo(id='' type=note)" :=
    closesQuotes_of_symbol (s := .closing) (by decide +kernel)
  have hs : q.source = "%linkTo(type=note)" := by decide +kernel
  have hr : compile .standard "%linkTo(type=note)" =
      .ok (.aggregate .every [.function .linkTo (.ofList [("type", "note")])]) :=
    compile_linkTo _ (by decide +kernel)
  have hl : s.linkQuery "note" "" = ["b"] := by
    have he : (∅ : Store).linked = ∅ := rfl
    simp [s, Store.ofContents, Store.linkQuery, Store.addLink, Store.pushId,
      Std.HashMap.getD_insert, he]
  have hf : q.resolve s.backend.resolver = .ok [⟨"b", 1⟩] := by
    rw [Query.resolve_aggregate_singleton]
    have hb : s.backend.linked "note" "" = .ok ["b"] := congrArg Except.ok hl
    exact Backend.function_linkTo_eq_ok_iff.2 ⟨"", "note", ["b"], rfl, rfl, hb, rfl⟩
  refine ⟨hq, hc, ?_, ?_⟩
  · rw [search_of_compile s hq, hf]
    rfl
  · rw [hs, search_of_compile s hr, Query.resolve_aggregate_singleton]
    rfl

end Search

end EntitySearch
