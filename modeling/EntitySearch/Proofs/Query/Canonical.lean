import EntitySearch.CommandLine
import EntitySearch.Proofs.OrderedMap
import EntitySearch.Proofs.Query.Settled
import EntitySearch.Proofs.RelatedLists
import Mathlib.Data.List.ModifyLast

namespace EntitySearch

section Changes

-- Parameters without those that have no value.
def Params.filled (ps : Params) : Params where
  entries  := ps.entries.filter (·.2 ≠ "")
  distinct := ps.distinct.sublist (List.filter_sublist.map Prod.fst)

theorem Params.norm_eq_filled {ps : Params}
    (h : ∀ e ∈ ps.entries, IsSettled e.1 ∧ IsSettled e.2) : ps.norm = ps.filled := by
  have hm : (ps.filled.entries.map fun p => (normValue p.1, normValue p.2)) =
      ps.filled.entries.map id := by
    refine List.map_congr_left fun e he => ?_
    obtain ⟨hk, hv⟩ := h e (List.mem_of_mem_filter he)
    exact Prod.ext hk hv
  calc ps.norm
    _ = .ofList (ps.filled.entries.map id) := congrArg OrderedMap.ofList hm
    _ = ps.filled                          := by rw [List.map_id, OrderedMap.ofList_entries]

theorem Params.spell_filled (ps : Params) : ps.filled.spell = ps.spell := by
  simp [Params.spell, Params.filled, List.filter_filter]

namespace Query

variable {A C F : Type}

-- A query without the parameters that have no value.
def filled (q : Query A C F) : Query A C F :=
  q.map id Params.filled

theorem filled_aggregate (kind : A) (children : List (Query A C F)) :
    (aggregate kind children).filled = aggregate kind (children.map filled) :=
  map_aggregate id Params.filled kind children

theorem filled_joined (kind : C) (left right : Query A C F) :
    (joined kind left right).filled = joined kind left.filled right.filled := rfl

theorem filled_function (name : F) (params : Params) :
    (function name params : Query A C F).filled = function name params.filled := rfl

-- Changes the last value of a query, unless an aggregate or a function comes last.
def mapLast (f : String → String) : Query A C F → Query A C F
  | fullText term          => fullText (f term)
  | property path value    => property path (f value)
  | joined kind left right => joined kind left (mapLast f right)
  | q                      => q

-- The same in an aggregate.
def mapLastContent (f : String → String) : Query A C F → Query A C F
  | aggregate kind children => aggregate kind (children.modifyLast (mapLast f))
  | q                       => q

variable [Named A] [Named C] [Named F] {v : Vocabulary A C F} {q : Query A C F}

theorem OfValues.norm_eq_filled (h : q.OfValues v IsSettled) : q.norm = q.filled := by
  induction h
  case fullText ht   => exact congrArg Query.fullText ht
  case property ht   => exact congrArg (Query.property _) ht
  case aggregate ih  =>
    rw [norm_aggregate, filled_aggregate, List.map_congr_left ih]
  case joined ih ih' => rw [norm_joined, filled_joined, ih, ih']
  case function hp   => rw [norm_function, filled_function, Params.norm_eq_filled hp]

theorem Spellable.spellIn_filled (h : q.Spellable v) (inChain : Bool) :
    spellIn inChain q.filled = spellIn inChain q := by
  induction h generalizing inChain
  case fullText => rfl
  case property => rfl
  case aggregate kind children _ _ ih =>
    have hc : children.map (spellIn false ∘ filled) = children.map (spellIn false) :=
      List.map_congr_left fun q hq => ih q hq false
    simp only [filled_aggregate, spellIn, spellAll_eq_map, List.map_map, hc]
  case joined ihl ihr => simp only [filled_joined, spellIn, ihl, ihr]
  case function       => simp only [filled_function, spellIn, Params.spell_filled]

theorem spellIn_mapLast (q : Query A C F) (inChain : Bool) :
    spellIn inChain (q.mapLast normValue) = spellIn inChain q := by
  fun_induction mapLast normValue q generalizing inChain
  case case1 => exact spellValue_normValue _
  case case2 => simp only [spellIn, spellValue_normValue]
  case case3 ih => simp only [spellIn, ih]
  case case4 => rfl

end Query

end Changes

section Last

theorem exists_concat_of_append {α : Type} {as bs ps : List α} {p : α} (h : as ++ bs = ps ++ [p])
    (hb : bs ≠ []) : ∃ cs, bs = cs ++ [p] ∧ ps = as ++ cs := by
  obtain ⟨cs, b, rfl⟩ := (List.eq_nil_or_concat bs).resolve_left hb
  simp only [List.concat_eq_append, ← List.append_assoc] at h
  obtain ⟨hp, hb⟩ := List.append_inj' h rfl
  exact ⟨cs, by simp_all, hp.symm⟩

variable {A C F : Type} {v : Vocabulary A C F}
variable {ps : List Piece} {p : Piece} {content : String} {f : String → String}

-- A term that ends in a value and not in a bracket is a text or a property.
theorem Term.norm_of_last {t : Term} {q : Query A C F} (ht : t.yield = ps ++ [p])
    (hp : p.kind = .value content none) (hq : v.queryOfTerm t = .ok q)
    (hf : normValue content = f content) : q.norm = q.filled.mapLast f := by
  have hl := congrArg List.getLast? ht
  cases t <;> simp only [Term.yield, List.getLast?_append, List.getLast?_cons_cons,
    List.getLast?_singleton, ← List.cons_append, Option.some_or, Option.some.injEq] at hl <;>
    subst hl <;> cases hp <;> cases hq
  case fullText     => exact congrArg Query.fullText hf
  case property     => exact congrArg (Query.property _) hf

theorem Term.yield_ne_nil (t : Term) : t.yield ≠ [] := by
  cases t <;> simp [Term.yield]

theorem Chain.yield_ne_nil (c : Chain) : c.yield ≠ [] := by
  cases c
  case operand t => simpa [Chain.yield] using t.yield_ne_nil
  case joined    => simp [Chain.yield]

theorem Chain.yieldAll_ne_nil {cs : List Chain} (h : cs ≠ []) : Chain.yieldAll cs ≠ [] := by
  cases cs
  case nil       => exact absurd rfl h
  case cons c cs => simp [Chain.yieldAll, c.yield_ne_nil]

variable [Named A] [Named C] [Named F]

theorem Chain.norm_of_last (hv : v.PrintsItself) {c : Chain} {q : Query A C F}
    (hc : c.yield = ps ++ [p]) (hps : ∀ p ∈ ps, p.kind.Reads IsSettled)
    (hp : p.kind = .value content none) (hq : v.queryOfChain c = .ok q)
    (hf : normValue content = f content) : q.norm = q.filled.mapLast f := by
  cases c
  case operand t =>
    rw [Chain.yield] at hc
    rw [Vocabulary.queryOfChain] at hq
    exact t.norm_of_last hc hp hq hf
  case joined before connective t =>
    rw [Chain.yield, ← List.singleton_append, ← List.singleton_append (x := Piece.value connective),
      ← List.append_assoc, ← List.append_assoc] at hc
    obtain ⟨qs, ht, rfl⟩ := exists_concat_of_append hc t.yield_ne_nil
    obtain ⟨left, k, right, hl, -, hr, rfl⟩ := Vocabulary.queryOfChain_joined_eq_ok_iff.1 hq
    simp only [List.forall_mem_append] at hps
    have hleft := (before.ofValues hv hps.1.1.1 hl).norm_eq_filled
    exact congrArg₂ (Query.joined k) hleft (t.norm_of_last ht hp hr hf)

-- Of the queries in a text only the last one ends in the last token.
theorem Chain.map_norm_of_last (hv : v.PrintsItself) {cs : List Chain} {qs : List (Query A C F)}
    (hc : Chain.yieldAll cs = ps ++ [p]) (hps : ∀ p ∈ ps, p.kind.Reads IsSettled)
    (hp : p.kind = .value content none) (hq : v.queriesOfChains cs = .ok qs)
    (hf : normValue content = f content) :
    qs.map Query.norm = (qs.map Query.filled).modifyLast (Query.mapLast f) := by
  induction cs generalizing ps qs
  case nil => simp [Chain.yieldAll] at hc
  case cons c cs ih =>
    rw [Chain.yieldAll] at hc
    obtain ⟨q, qs, hqc, hqs, rfl⟩ := Vocabulary.queriesOfChains_cons_eq_ok_iff.1 hq
    cases cs
    case nil =>
      cases hqs
      rw [Chain.yieldAll, List.append_nil] at hc
      have := c.norm_of_last hv hc hps hp hqc hf
      simpa [List.modifyLast, List.modifyLast.go] using this
    case cons d cs =>
      have hd := Chain.yieldAll_ne_nil (List.cons_ne_nil d cs)
      obtain ⟨rs, hr, rfl⟩ := exists_concat_of_append hc hd
      rw [List.forall_mem_append] at hps
      have hn := (c.ofValues hv hps.1 hqc).norm_eq_filled
      have hne : qs.map Query.filled ≠ [] := by
        rw [Ne, List.map_eq_nil_iff]
        rintro rfl
        obtain ⟨_, _, -, -, hn⟩ := Vocabulary.queriesOfChains_cons_eq_ok_iff.1 hqs
        cases hn
      rw [List.map_cons, List.map_cons, ih hr hps.2 hqs, hn]
      exact (List.modifyLast_append_of_right_ne_nil _ [_] _ hne).symm

end Last

section Canonical

variable {A C F : Type} {v : Vocabulary A C F} {source : String}

theorem reads_of_describes {P : String → Prop} {ps : List Piece} {ts : List Token}
    (h : List.Forall₂ Piece.Describes ps (ts.filter (!·.isSpace)))
    (ht : ∀ t ∈ ts, t.kind.Reads P) : ∀ p ∈ ps, p.kind.Reads P := by
  intro p hp
  obtain ⟨t, htp, hd⟩ : ∃ t ∈ ts.filter (!·.isSpace), p.Describes t := by
    obtain ⟨i, hi, rfl⟩ := List.getElem_of_mem hp
    exact ⟨_, List.getElem_mem _, h.get hi (h.length_eq ▸ hi)⟩
  have hr := ht t (List.mem_of_mem_filter htp)
  rw [← hd.1]
  cases hk : t.kind <;> rw [hk] at hr <;> exact hr

theorem TokenKind.Reads.mono {P Q : String → Prop} {kind : TokenKind} (h : kind.Reads P)
    (hPQ : ∀ value, P value → Q value) : kind.Reads Q := by
  cases kind <;> first | exact h | exact hPQ _ h

variable [Named A] [Named C] [Named F] {ts : List Token} {cs : List Chain} {qs : List (Query A C F)}

theorem ofValues_of_not_endsCutShort (hv : v.PrintsItself) (ht : tokenize source = .ok ts)
    (hm : MadeOf cs ts) (hq : v.queriesOfChains cs = .ok qs) (hc : ¬EndsCutShort source) :
    ∀ q ∈ qs, q.OfValues v IsSettled := by
  refine Chain.ofValues_all hv cs (reads_of_describes hm fun t htm => ?_) hq
  obtain ⟨before, after, rfl⟩ := List.append_of_mem htm
  refine reads_of_tokenize ht rfl ?_
  rintro rfl hs
  exact hc ⟨_, ht, t, by simp, hs⟩

theorem norm_of_endsCutShort (hv : v.PrintsItself) (ht : tokenize source = .ok ts)
    (hm : MadeOf cs ts) (hq : v.queriesOfChains cs = .ok qs) (hc : EndsCutShort source) :
    (∀ q ∈ qs, q.Spellable v) ∧
    ∃ content : String, (normValue content = content.push '\\') ∧
      ∀ f, normValue content = f content →
        qs.map Query.norm = (qs.map Query.filled).modifyLast (Query.mapLast f) := by
  obtain ⟨_, ht', t, hl, content, quote, hk, hu, hn, ho⟩ := hc
  cases ht.symm.trans ht'
  obtain ⟨us, rfl⟩ := List.getLast?_eq_some_iff.1 hl
  have hus : ∀ u ∈ us, u.kind.Reads IsSettled := by
    intro u hu
    obtain ⟨before, after, rfl⟩ := List.append_of_mem hu
    exact @reads_of_tokenize _ _ before (after ++ [t]) u ht (by simp) (by simp)
  have hr := (tokenize_eq_ok_iff_isTokenization.1 ht).ruled us t [] rfl
  rw [hk] at hr hu
  have hnorm := hr.normValue_of_isCutShort ⟨content, quote, rfl, hu, hn, ho⟩
  constructor
  case left =>
    have hts : ∀ u ∈ us ++ [t], u.kind.Reads fun _ => True := by
      simp only [List.forall_mem_append, List.forall_mem_singleton, hk]
      exact ⟨fun u hu => (hus u hu).mono fun _ _ => trivial, trivial⟩
    intro q hqs
    exact (Chain.ofValues_all hv cs (reads_of_describes hm hts) hq q hqs).spellable
  case right =>
    have hs : t.isSpace = false := by simp [Token.isSpace, hk]
    rw [MadeOf, List.filter_append, List.filter_singleton, hs] at hm
    obtain ⟨ps, p, hy, hps, hp⟩ := exists_concat_of_forall₂ hm
    have hkind : p.kind = .value content none := by rw [← hp.1, hk]; rfl
    exact ⟨content, hnorm, fun f hf =>
      Chain.map_norm_of_last hv hy (reads_of_describes hps hus) hkind hq hf⟩

theorem map_modifyLast {α β : Type} {f : α → α} {g : α → β} (h : ∀ a, g (f a) = g a) (as : List α) :
    (as.modifyLast f).map g = as.map g := by
  induction as using List.reverseRecOn
  case nil => rfl
  case append_singleton as a _ => simp [List.modifyLast_concat, h]

-- The canonical text is that of what it compiles to.
theorem spellAll_norm (hv : v.PrintsItself) (ht : tokenize source = .ok ts) (hm : MadeOf cs ts)
    (hq : v.queriesOfChains cs = .ok qs) (hs : ∀ q ∈ qs, q.Spellable v) :
    Query.spellAll (qs.map Query.norm) = Query.spellAll qs := by
  have hf : (qs.map Query.filled).map (Query.spellIn false) = qs.map (Query.spellIn false) := by
    rw [List.map_map]
    exact List.map_congr_left fun q hq => (hs q hq).spellIn_filled false
  rw [Query.spellAll_eq_map, Query.spellAll_eq_map]
  by_cases hc : EndsCutShort source
  case pos =>
    obtain ⟨-, content, -, hn⟩ := norm_of_endsCutShort hv ht hm hq hc
    rw [hn normValue rfl, map_modifyLast fun q => Query.spellIn_mapLast q false, hf]
  case neg =>
    have hn := ofValues_of_not_endsCutShort hv ht hm hq hc
    rw [List.map_congr_left fun q hq => (hn q hq).norm_eq_filled, hf]

end Canonical

section Format

theorem spellValue_eq_cons (value : String) : ∃ c cs, spellValue value = c :: cs ∧ c ≠ '-' := by
  cases hn : needsQuotes value.toList
  case false =>
    have hb := needsQuotes_eq_false_iff.1 hn
    obtain ⟨c, cs, hc⟩ := List.exists_cons_of_ne_nil hb.nonempty
    refine ⟨c, cs, by simpa [spellValue, hn] using hc, ?_⟩
    rintro rfl
    exact absurd (hb.bare '-' (by simp [hc])) (by decide)
  case true =>
    refine ⟨(quoteFor value.toList).toChar, _, by simp [spellValue, hn]; rfl, ?_⟩
    cases quoteFor value.toList <;> decide

variable {A C F : Type} [Named A] [Named C] [Named F] {v : Vocabulary A C F} {q : Query A C F}

theorem Query.Spellable.spellIn_eq_cons (h : q.Spellable v) :
    ∃ c cs, spellIn false q = c :: cs ∧ c ≠ '-' := by
  cases h
  case fullText  => exact spellValue_eq_cons _
  case property hp =>
    obtain ⟨names, hn, -⟩ := hp
    exact ⟨'/', _, by simp [spellIn, hn]; rfl, by decide⟩
  case aggregate => exact ⟨'$', _, by simp [spellIn]; rfl, by decide⟩
  case joined    => exact ⟨'(', _, by simp [spellIn]; rfl, by decide⟩
  case function  => exact ⟨'%', _, by simp [spellIn]; rfl, by decide⟩

theorem Query.head?_spaced {qs : List (Query A C F)} (h : ∀ q ∈ qs, q.Spellable v) :
    (spaced (spellAll qs)).head? ≠ some '-' := by
  cases qs
  case nil => simp [spellAll, spaced]
  case cons q qs =>
    obtain ⟨c, cs, hs, hc⟩ := (h q List.mem_cons_self).spellIn_eq_cons
    cases qs <;> simp [spellAll, spaced, hs, hc]

theorem Vocabulary.standard_printsItself : Vocabulary.standard.PrintsItself where
  aggregate n k h := by
    simp only [standard, Quantifier.ofName?] at h
    split at h <;> cases h <;> exact ⟨rfl, needsQuotes_eq_false_iff.1 (by decide)⟩
  connective n k h := by
    simp only [standard, Connective.ofName?] at h
    split at h <;> cases h <;> exact ⟨rfl, needsQuotes_eq_false_iff.1 (by decide)⟩
  function n k h := by
    simp only [standard, Relation.ofName?] at h
    split at h <;> cases h
    exact ⟨rfl, needsQuotes_eq_false_iff.1 (by decide)⟩

end Format

section Main

variable {A C F : Type} [Named A] [Named C] [Named F] {v : Vocabulary A C F} {source : String}
variable {q : Query A C F}

-- What the canonical text of a compiled query compiles to.
theorem exists_compile_canonical (hv : v.PrintsItself) (h : compile v source = .ok q) :
    ∃ r, (compile v q.source = .ok r) ∧ (r.source = q.source) ∧
      (¬EndsCutShort source → r = q.filled) ∧
      (EndsCutShort source → r = q.filled.mapLastContent (·.push '\\')) ∧
      (q.source.toList.head? ≠ some '-') := by
  obtain ⟨ts, cs, qs, ht, hm, hq, rfl⟩ := compile_eq_ok_iff.1 h
  have hf := Query.filled_aggregate v.top qs
  have hs : ∀ q ∈ qs, q.Spellable v := by
    by_cases hc : EndsCutShort source
    case pos => exact (norm_of_endsCutShort hv ht hm hq hc).1
    case neg => exact fun q hqs => (ofValues_of_not_endsCutShort hv ht hm hq hc q hqs).spellable
  refine ⟨.aggregate v.top (qs.map Query.norm), Query.compile_spaced hs, ?_, ?_, ?_, ?_⟩
  · simp only [Query.source, spellAll_norm hv ht hm hq hs]
  · intro hc
    have hn := ofValues_of_not_endsCutShort hv ht hm hq hc
    rw [hf, List.map_congr_left fun q hq => (hn q hq).norm_eq_filled]
  · intro hc
    obtain ⟨-, content, hp, hn⟩ := norm_of_endsCutShort hv ht hm hq hc
    rw [hf, hn (·.push '\\') hp]
    rfl
  · simpa [Query.source] using Query.head?_spaced hs

-- A text that is a lookup of links by its tokens.
theorem compile_linkTo {source : String} (es : List (String × String))
    (h : Outlines source.toList (bracketedKinds .percent "linkTo" (argumentKinds es))) :
    compile .standard source = .ok (.aggregate .every [.function .linkTo (.ofList es)]) := by
  have hl : Vocabulary.standard.function? "linkTo" = some .linkTo := rfl
  exact compile_of_readAsChain h (readAsTerm_function es hl).chain

end Main

end EntitySearch
