import EntitySearch.Proofs.Query.Layout
import EntitySearch.Proofs.Query.Spelling

namespace EntitySearch

variable {A C F : Type} {v : Vocabulary A C F}

-- Holds if a source text compiles to these queries under the top aggregate.
def Compiles (v : Vocabulary A C F) (source : String) (qs : List (Query A C F)) : Prop :=
  compile v source = .ok (.aggregate v.top qs)

section Outline

variable {source : String} {qs : List (Query A C F)}

theorem readAsAll_of_madeOf {cs : List Chain} {ts : List Token} (hm : MadeOf cs ts)
    (hq : v.queriesOfChains cs = .ok qs) : ReadAsAll v (outline ts) qs := by
  intro as ha
  rw [← map_kind_atoms] at ha
  have hc := Expression.ofAtoms_eq_ok_iff.2 (madeOf_iff.1 hm)
  rcases ofAtoms_of_map_kind ha with ⟨ds, cs', hd, hc', hu⟩ | ⟨_, _, _, he, _⟩
  case inr => cases hc.symm.trans he
  case inl =>
    cases hc.symm.trans hc'
    refine ⟨ds, Expression.ofAtoms_eq_ok_iff.1 hd, ?_⟩
    have := queriesOfChains_unplaced v ds
    rw [hu, queriesOfChains_unplaced, hq] at this
    cases hds : v.queriesOfChains ds <;> rw [hds] at this <;> cases this
    rfl

theorem compiles_iff :
    Compiles v source qs ↔ ∃ ks, Outlines source.toList ks ∧ ReadAsAll v ks qs := by
  constructor
  case mp =>
    intro h
    obtain ⟨ts, cs, _, ht, hm, hq, ⟨⟩⟩ := compile_eq_ok_iff.1 h
    exact ⟨_, outlines_iff.2 ⟨ts, ht, rfl⟩, readAsAll_of_madeOf hm hq⟩
  case mpr =>
    rintro ⟨ks, ho, hr⟩
    exact compile_of_readAsAll ho hr

-- A text that ends in no open quote may be part of another.
theorem Compiles.exists_cutsInto (h : Compiles v source qs) (hu : ¬EndsUnclosed source) :
    ∃ ks, CutsInto source.toList ks ∧ ReadAsAll v ks qs := by
  obtain ⟨ks, ho, hr⟩ := compiles_iff.1 h
  obtain ⟨ts, ht, rfl⟩ := outlines_iff.1 ho
  exact ⟨_, cutsInto_of_not_endsUnclosed ht hu, hr⟩

theorem compiles_of_cutsInto {ks : List TokenKind} (h : CutsInto source.toList ks)
    (hr : ReadAsAll v ks qs) : Compiles v source qs :=
  compiles_iff.2 ⟨ks, h.outlines, hr⟩

end Outline

section Compose

variable {s t : String} {qs rs : List (Query A C F)} {q r : Query A C F} {name : String}

theorem Compiles.append {blanks : String} (hs : Compiles v s qs) (ht : Compiles v t rs)
    (hu : ¬EndsUnclosed s) (hn : blanks ≠ "") (hb : ∀ c ∈ blanks.toList, isBlank c) :
    Compiles v (s ++ blanks ++ t) (qs ++ rs) := by
  obtain ⟨ks, hc, hr⟩ := hs.exists_cutsInto hu
  obtain ⟨ls, ho, hr'⟩ := compiles_iff.1 ht
  have hne : blanks.toList ≠ [] := fun he => hn (String.toList_inj.1 he)
  refine compiles_iff.2 ⟨ks ++ ls, ?_, hr.append hr'⟩
  have := hc _ _ (stops_blanks hne hb _) (outlines_blanks hb ho)
  simpa using this

theorem Compiles.group (h : Compiles v s [q]) (hu : ¬EndsUnclosed s) :
    Compiles v ("(" ++ s ++ ")") [q] := by
  obtain ⟨ks, hc, hr⟩ := h.exists_cutsInto hu
  have hg := (readAsAll_singleton_iff.1 hr).group
  refine compiles_of_cutsInto ?_ (readAsAll_singleton_iff.2 hg.chain)
  simpa using cutsInto_group hc

theorem Compiles.aggregate {kind : A} (h : Compiles v s qs) (hu : ¬EndsUnclosed s)
    (hb : IsBareWord name.toList) (hn : v.aggregate? name = some kind) :
    Compiles v ("$" ++ name ++ "(" ++ s ++ ")") [.aggregate kind qs] := by
  obtain ⟨ks, hc, hr⟩ := h.exists_cutsInto hu
  refine compiles_of_cutsInto ?_ (readAsAll_singleton_iff.2 (hr.aggregate hn).chain)
  have hname : CutsInto name.toList [.value name none] := by simpa using cutsInto_bareWord hb
  simpa [Symbol.toChar] using cutsInto_bracketed .dollar hname hc

theorem Compiles.joined {kind : C} (hs : Compiles v s [q]) (ht : Compiles v t [r])
    (hsu : ¬EndsUnclosed s) (htu : ¬EndsUnclosed t) (hb : IsBareWord name.toList)
    (hn : v.connective? name = some kind) :
    Compiles v (s ++ " -" ++ name ++ " (" ++ t ++ ")") [.joined kind q r] := by
  obtain ⟨ks, hc, hr⟩ := hs.exists_cutsInto hsu
  obtain ⟨ls, hc', hr'⟩ := ht.exists_cutsInto htu
  have hj := (readAsAll_singleton_iff.1 hr).joined (readAsAll_singleton_iff.1 hr').group hn
  refine compiles_of_cutsInto ?_ (readAsAll_singleton_iff.2 hj)
  have hname : CutsInto name.toList [.value name none] := by simpa using cutsInto_bareWord hb
  have hright := cutsInto_append hname (cutsInto_space (cutsInto_group hc')) (by decide)
  have := cutsInto_append hc (cutsInto_space (cutsInto_symbol .minus hright)) (by decide)
  simpa [Symbol.toChar] using this

-- Every query that is compiled is one under the top aggregate, and what a text compiles to is
-- found again where the text is part of another one: beside a text behind blanks, between
-- brackets, in an aggregate, and at the sides of a connective, where it is the left operand if it
-- stands before it.
theorem compile_compositional (v : Vocabulary A C F) :
    (∀ s q, compile v s = .ok q → ∃ qs, q = .aggregate v.top qs ∧ Compiles v s qs) ∧
    (∀ s t blanks qs rs, Compiles v s qs → Compiles v t rs → ¬EndsUnclosed s → blanks ≠ "" →
      (∀ c ∈ blanks.toList, isBlank c) → Compiles v (s ++ blanks ++ t) (qs ++ rs)) ∧
    (∀ s q, Compiles v s [q] → ¬EndsUnclosed s → Compiles v ("(" ++ s ++ ")") [q]) ∧
    (∀ s qs name kind, Compiles v s qs → ¬EndsUnclosed s → IsBareWord name.toList →
      v.aggregate? name = some kind →
      Compiles v ("$" ++ name ++ "(" ++ s ++ ")") [.aggregate kind qs]) ∧
    (∀ s t q r name kind, Compiles v s [q] → Compiles v t [r] → ¬EndsUnclosed s →
      ¬EndsUnclosed t → IsBareWord name.toList → v.connective? name = some kind →
      Compiles v (s ++ " -" ++ name ++ " (" ++ t ++ ")") [.joined kind q r]) := by
  refine ⟨fun s q h => ?_, fun _ _ _ _ _ hs ht hu hn hb => hs.append ht hu hn hb,
    fun _ _ h hu => h.group hu, fun _ _ _ _ h hu hb hn => h.aggregate hu hb hn,
    fun _ _ _ _ _ _ hs ht hsu htu hb hn => hs.joined ht hsu htu hb hn⟩
  obtain ⟨_, _, qs, _, _, _, rfl⟩ := compile_eq_ok_iff.1 h
  exact ⟨qs, rfl, h⟩

theorem not_endsUnclosed_of_last {kind : TokenKind}
    (h : (tokenize s).map (·.getLast?.map Token.kind) = .ok (some kind))
    (hk : ∀ content q, kind ≠ .value content (some q)) : ¬EndsUnclosed s := by
  rintro ⟨ts, ht, t, hl, content, q, _, hc, -⟩
  rw [ht] at h
  have hkind : t.kind = kind := by simpa [Except.map, Option.mem_def.1 hl] using h
  exact hk content q (hkind ▸ hc)

-- A chain that goes on behind an aggregate.
theorem compile_compositional_chain :
    let v : Vocabulary String String String := .ofNames "every" ["some"] ["and", "or"] []
    let chain : Query String String String := .joined "and" (.fullText "a") (.fullText "b")
    let any : Query String String String := .aggregate "some" [.fullText "c", .fullText "d"]
    (Compiles v "a -and b" [chain]) ∧ (¬EndsUnclosed "a -and b") ∧
    (Compiles v "$some(c d)" [any]) ∧ (¬EndsUnclosed "$some(c d)") ∧
    (Compiles v ("a -and b" ++ "\n" ++ "$some(c d)") [chain, any]) ∧
    (Compiles v ("(" ++ "a -and b" ++ ")") [chain]) ∧
    (Compiles v ("$" ++ "some" ++ "(" ++ "a -and b" ++ ")") [.aggregate "some" [chain]]) ∧
    (Compiles v ("a -and b" ++ " -" ++ "or" ++ " (" ++ "$some(c d)" ++ ")")
      [.joined "or" chain any]) := by
  intro v chain any
  have hs : Compiles v "a -and b" [chain] := by
    have hand : v.connective? "and" = some "and" := rfl
    have hr := (readAsTerm_fullText "a").chain.joined (readAsTerm_fullText "b") hand
    exact compile_of_readAsChain (by decide +kernel) hr
  have ht : Compiles v "$some(c d)" [any] := by
    have hsome : v.aggregate? "some" = some "some" := rfl
    have hr (term : String) : ReadAsAll v [.value term none] [.fullText term] :=
      readAsAll_singleton_iff.2 (readAsTerm_fullText term).chain
    have hcd := ((hr "c").append (hr "d")).aggregate hsome
    exact compile_of_readAsChain (by decide +kernel) hcd.chain
  have hsu : ¬EndsUnclosed "a -and b" :=
    @not_endsUnclosed_of_last _ (.value "b" none) (by decide +kernel) (by simp)
  have htu : ¬EndsUnclosed "$some(c d)" :=
    @not_endsUnclosed_of_last _ (.symbol .closing) (by decide +kernel) (by simp)
  have hsome : IsBareWord "some".toList := needsQuotes_eq_false_iff.1 (by decide)
  have hor : IsBareWord "or".toList := needsQuotes_eq_false_iff.1 (by decide)
  obtain ⟨-, happend, hgroup, haggregate, hjoined⟩ := compile_compositional v
  have hblank : ∀ c ∈ "\n".toList, isBlank c := List.all_eq_true.1 (by decide)
  exact ⟨hs, hsu, ht, htu, happend _ _ "\n" _ _ hs ht hsu (by decide) hblank, hgroup _ _ hs hsu,
    haggregate _ _ "some" "some" hs hsu hsome rfl,
    hjoined _ _ _ _ "or" "or" hs ht hsu htu hor rfl⟩

end Compose

end EntitySearch
