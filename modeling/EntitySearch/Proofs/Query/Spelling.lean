import EntitySearch.Proofs.OrderedMap
import EntitySearch.Proofs.Query.NormalForm
import EntitySearch.Proofs.Query.Reading
import EntitySearch.Vocabulary.Standard

namespace EntitySearch

theorem cutsInto_bareWord {cs : List Char} (h : IsBareWord cs) :
    CutsInto cs [.value (String.ofList cs) none] := by
  intro rest ls hs hr
  cases cs
  case nil => exact absurd rfl h.nonempty
  case cons c cs =>
    obtain ⟨hn, hq⟩ := h.head c rfl
    have hb : ∀ d ∈ cs, isBareChar d := fun d hd => h.bare d (List.mem_cons_of_mem c hd)
    have hl : LongestRun isBareChar cs rest := ⟨hb, hs⟩
    have hf := Lexeme.first?_bare (h.bare c List.mem_cons_self) hn hq hl
    exact (outlines_of_first? hf).2 ⟨ls, hr, rfl⟩

theorem cutsInto_spellValue (value : String) :
    CutsInto (spellValue value) [.value (normValue value) none] := by
  cases hn : needsQuotes value.toList
  case false =>
    have := cutsInto_bareWord (needsQuotes_eq_false_iff.1 hn)
    simpa [spellValue, normValue, hn] using this
  case true =>
    have := cutsInto_quoted (quoteFor value.toList) value.toList
    simpa [spellValue, normValue, hn] using this

-- A name of a vocabulary is spelled as it is.
theorem Accepted.cutsInto {α : Type} [Named α] {meaning? : String → Option α} {a : α}
    (h : Accepted meaning? a) :
    CutsInto (Named.name a).toList [.value (Named.name a) none] := by
  simpa using cutsInto_bareWord h.bare

theorem cutsInto_spaced {ts : List (List Char)} {kss : List (List TokenKind)}
    (h : List.Forall₂ CutsInto ts kss) : CutsInto (spaced ts) kss.flatten := by
  induction h
  case nil => exact cutsInto_nil
  case cons t ks ts kss ht hts ih =>
    cases hts
    case nil => simpa [spaced] using ht
    case cons => exact cutsInto_append ht (cutsInto_space ih) (by decide)

section Kinds

-- The kinds of the tokens of parameters, for each that is spelled.
def Params.kinds (ps : Params) : List (List TokenKind) :=
  (ps.entries.filter (·.2 ≠ "")).map fun p =>
    [.value (normValue p.1) none, .symbol .equals, .value (normValue p.2) none]

theorem Params.flatten_kinds (ps : Params) :
    ps.kinds.flatten = argumentKinds
      ((ps.entries.filter (·.2 ≠ "")).map fun p => (normValue p.1, normValue p.2)) := by
  simp [Params.kinds, argumentKinds, List.flatMap_def, Function.comp_def]

theorem Params.cutsInto_spell (ps : Params) : CutsInto ps.spell ps.kinds.flatten := by
  refine cutsInto_spaced ?_
  rw [Params.kinds, List.forall₂_map_left_iff, List.forall₂_map_right_iff, List.forall₂_same]
  intro p _
  have hv := cutsInto_symbol .equals (cutsInto_spellValue p.2)
  exact cutsInto_append (cutsInto_spellValue p.1) hv (by decide)

namespace Query

variable {A C F : Type} [Named A] [Named C] [Named F] {v : Vocabulary A C F} {q : Query A C F}

mutual

-- The kinds of the tokens that a query is spelled with, as values are read then.
def kindsIn (inChain : Bool) : Query A C F → List TokenKind
  | fullText term => [.value (normValue term) none]
  | property path value => [.path path, .symbol .equals, .value (normValue value) none]
  | aggregate kind children =>
    bracketedKinds .dollar (Named.name kind) (kindsOfAll children).flatten
  | joined kind left right =>
    let chain :=
      kindsIn true left ++ .symbol .minus :: .value (Named.name kind) none :: kindsIn false right
    if inChain then chain else .symbol .opening :: (chain ++ [.symbol .closing])
  | function name params => bracketedKinds .percent (Named.name name) params.kinds.flatten

def kindsOfAll : List (Query A C F) → List (List TokenKind)
  | []      => []
  | q :: qs => kindsIn false q :: kindsOfAll qs

end

theorem kindsOfAll_eq_map (qs : List (Query A C F)) : kindsOfAll qs = qs.map (kindsIn false) := by
  induction qs
  case nil          => rfl
  case cons q qs ih => simp [kindsOfAll, ih]

theorem spellAll_eq_map (qs : List (Query A C F)) : spellAll qs = qs.map (spellIn false) := by
  induction qs
  case nil          => rfl
  case cons q qs ih => simp [spellAll, ih]

theorem cutsInto_spaced_spellAll {qs : List (Query A C F)}
    (h : ∀ q ∈ qs, CutsInto (spellIn false q) (kindsIn false q)) :
    CutsInto (spaced (spellAll qs)) (kindsOfAll qs).flatten := by
  refine cutsInto_spaced ?_
  rw [spellAll_eq_map, kindsOfAll_eq_map, List.forall₂_map_left_iff, List.forall₂_map_right_iff,
    List.forall₂_same]
  exact h

-- The spelling of a query is cut into tokens of its kinds.
theorem Spellable.cutsInto (h : q.Spellable v) (inChain : Bool) :
    CutsInto (spellIn inChain q) (kindsIn inChain q) := by
  induction h generalizing inChain
  case fullText => exact cutsInto_spellValue _
  case property path value hp =>
    obtain ⟨names, hn, hp⟩ := hp
    have hv := cutsInto_symbol .equals (cutsInto_spellValue value)
    have := cutsInto_append (cutsInto_path hp) hv (by decide)
    rwa [← hn, String.ofList_toList] at this
  case aggregate hk _ ih =>
    have hc := cutsInto_spaced_spellAll fun q hq => ih q hq false
    exact cutsInto_bracketed .dollar hk.cutsInto hc
  case joined kind left right hk _ _ ihl ihr =>
    have hr := cutsInto_append hk.cutsInto (cutsInto_space (ihr false)) (by decide)
    have hc := cutsInto_append (ihl true)
      (cutsInto_space (cutsInto_symbol .minus hr)) (by decide)
    cases inChain
    case false =>
      have hb := cutsInto_append hc (cutsInto_symbol .closing cutsInto_nil) (by decide)
      exact cutsInto_symbol .opening hb
    case true => exact hc
  case function hk => exact cutsInto_bracketed .percent hk.cutsInto (Params.cutsInto_spell _)

end Query

end Kinds

section Read

namespace Query

variable {A C F : Type} [Named A] [Named C] [Named F] {v : Vocabulary A C F} {q : Query A C F}

theorem readAsAll_kindsOfAll {qs : List (Query A C F)}
    (h : ∀ q ∈ qs, ReadAsTerm v (kindsIn false q) q.norm) :
    ReadAsAll v (kindsOfAll qs).flatten (qs.map norm) := by
  induction qs
  case nil => exact readAsAll_nil
  case cons q qs ih =>
    rw [List.forall_mem_cons] at h
    exact (readAsAll_singleton_iff.2 h.1.chain).append (ih h.2)

-- A query is read as its normal form, as a term, and as a chain at the left of a connective.
theorem Spellable.read (h : q.Spellable v) :
    ReadAsTerm v (kindsIn false q) q.norm ∧ ReadAsChain v (kindsIn true q) q.norm := by
  induction h
  case fullText term =>
    rw [norm_fullText]
    exact ⟨readAsTerm_fullText _, (readAsTerm_fullText _).chain⟩
  case property path value _ =>
    rw [norm_property]
    exact ⟨readAsTerm_property _ _, (readAsTerm_property _ _).chain⟩
  case aggregate hk _ ih =>
    have := (readAsAll_kindsOfAll fun q hq => (ih q hq).1).aggregate hk.means
    rw [norm_aggregate]
    exact ⟨this, this.chain⟩
  case joined hk _ _ ihl ihr =>
    have := ihl.2.joined ihr.1 hk.means
    rw [norm_joined]
    exact ⟨this.group, this⟩
  case function params hn =>
    have : ReadAsTerm v _ (.function _ params.norm) := readAsTerm_function _ hn.means
    rw [← params.flatten_kinds] at this
    rw [norm_function]
    exact ⟨this, this.chain⟩

end Query

end Read

section Compile

variable {A C F : Type} [Named A] [Named C] [Named F] {v : Vocabulary A C F}

namespace Query

theorem compile_spaced {qs : List (Query A C F)} (h : ∀ q ∈ qs, q.Spellable v) :
    compile v (String.ofList (spaced (spellAll qs))) = .ok (.aggregate v.top (qs.map norm)) := by
  have hs := cutsInto_spaced_spellAll fun q hq => (h q hq).cutsInto false
  have ho : Outlines (String.ofList (spaced (spellAll qs))).toList (kindsOfAll qs).flatten := by
    simpa using hs.outlines
  exact compile_of_readAsAll ho (readAsAll_kindsOfAll fun q hq => (h q hq).read.1)

-- A query that can be spelled compiles to its normal form under the top aggregate. Without its
-- outermost aggregate, it compiles to the normal forms of what that contains.
theorem compile_spelling (v : Vocabulary A C F) (q : Query A C F) :
    (q.Spellable v → compile v q.fullSource = .ok (.aggregate v.top [q.norm])) ∧
    ((∀ r ∈ q.contents, r.Spellable v) →
      compile v q.source = .ok (.aggregate v.top (q.contents.map norm))) := by
  have hf (h : q.Spellable v) : compile v q.fullSource = .ok (.aggregate v.top [q.norm]) := by
    have hs : ∀ r ∈ [q], r.Spellable v := by simpa using h
    have := compile_spaced hs
    simpa [spellAll, spaced, fullSource] using this
  refine ⟨hf, fun h => ?_⟩
  cases q
  case aggregate => exact compile_spaced h
  all_goals exact hf (h _ List.mem_cons_self)

-- A parameter without a value, and a value that gets a backslash.
theorem compile_spelling_norm :
    let q : Query Quantifier Connective Relation :=
      .aggregate .some [
        .joined .exclude (.function .linkTo (.ofList [("id", ""), ("type", "note")]))
          (.fullText "b \\"),
        .property "/note/tag" "x"]
    let r : Query Quantifier Connective Relation :=
      .aggregate .some [
        .joined .exclude (.function .linkTo (.ofList [("type", "note")])) (.fullText "b \\\\"),
        .property "/note/tag" "x"]
    (q.Spellable .standard) ∧ (∀ p ∈ q.contents, p.Spellable .standard) ∧ (q.norm = r) ∧
    (compile .standard q.fullSource = .ok (.aggregate .every [r])) ∧
    (compile .standard q.source = .ok (.aggregate .every r.contents)) := by
  intro q r
  have hpath : ∀ c ∈ ['n', 'o', 't', 'e', '/', 't', 'a', 'g'], isPathChar c :=
    List.all_eq_true.1 rfl
  have hc : ∀ p ∈ q.contents, p.Spellable Vocabulary.standard := by
    refine List.forall_mem_cons.2 ⟨.joined ⟨?_, rfl⟩ (.function ⟨?_, rfl⟩) .fullText,
      List.forall_mem_singleton.2 (.property ⟨_, String.toList_ofList, hpath⟩)⟩
    all_goals exact needsQuotes_eq_false_iff.1 (by decide)
  have hq : q.Spellable Vocabulary.standard :=
    .aggregate ⟨needsQuotes_eq_false_iff.1 (by decide), rfl⟩ hc
  have hb : normValue "b \\" = "b \\\\" := by decide +kernel
  have hx : normValue "x" = "x" := by decide +kernel
  have hp : Params.norm (.ofList [("id", ""), ("type", "note")]) = .ofList [("type", "note")] := by
    have he : (Params.norm (.ofList [("id", ""), ("type", "note")])).entries =
        [("type", "note")] := by
      decide +kernel
    exact OrderedMap.ext he
  have hcn : q.contents.map norm = r.contents := by
    simp [q, r, contents, norm_joined, norm_function, norm_property, norm_fullText, hp, hb, hx]
  have hn : q.norm = r :=
    (norm_aggregate ..).trans (congrArg (aggregate Quantifier.some) hcn)
  obtain ⟨hf, hs⟩ := compile_spelling .standard q
  exact ⟨hq, hc, hn, hn ▸ hf hq, hcn ▸ hs hc⟩

end Query

end Compile

end EntitySearch
