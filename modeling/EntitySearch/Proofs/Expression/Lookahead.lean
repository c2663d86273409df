import EntitySearch.Proofs.Expression.Parsing

namespace EntitySearch

namespace Expression

-- Holds of atoms that no production tells apart, as it looks at three of them at most. Where there
-- are fewer than three, the end is seen, too.
def SameAhead (as bs : List Atom) : Prop :=
  as.take 3 = bs.take 3

section SameAhead

variable {as bs : List Atom}

theorem SameAhead.symm (h : SameAhead as bs) : SameAhead bs as :=
  Eq.symm h

theorem SameAhead.append (h : SameAhead as bs) (front : List Atom) :
    SameAhead (front ++ as) (front ++ bs) := by
  have ht := congrArg (List.take (3 - front.length)) h
  simp only [List.take_take, Nat.min_eq_left (Nat.sub_le 3 front.length)] at ht
  rw [SameAhead, List.take_append, List.take_append, ht]

theorem SameAhead.exists_append {front : List Atom} (h : SameAhead as (front ++ bs))
    (hl : front.length ≤ 3) : ∃ as', as = front ++ as' := by
  have ht := congrArg (List.take front.length) h
  simp only [List.take_take, Nat.min_eq_left hl, List.take_left] at ht
  have ha := List.take_append_drop front.length as
  rw [ht] at ha
  exact ⟨_, ha.symm⟩

theorem SameAhead.exists_cons {a : Atom} (h : SameAhead as (a :: bs)) : ∃ as', as = a :: as' :=
  h.exists_append (by simp : [a].length ≤ 3)

theorem SameAhead.exists_cons₂ {a b : Atom} (h : SameAhead as (a :: b :: bs)) :
    ∃ as', as = a :: b :: as' :=
  h.exists_append (by simp : [a, b].length ≤ 3)

theorem SameAhead.exists_cons₃ {a b c : Atom} (h : SameAhead as (a :: b :: c :: bs)) :
    ∃ as', as = a :: b :: c :: as' :=
  h.exists_append (by simp : [a, b, c].length ≤ 3)

theorem term?_eq_none (h : SameAhead as bs) (hn : term? as = none) : term? bs = none := by
  refine term?.eq_6 bs ?_ ?_ ?_ ?_ ?_
  case refine_1 =>
    rintro p _ rfl
    obtain ⟨inside, rfl⟩ := h.exists_cons
    rw [term?] at hn
    split at hn <;> cases hn
  case refine_2 =>
    rintro p name q _ rfl
    obtain ⟨inside, rfl⟩ := h.exists_cons₃
    rw [term?] at hn
    split at hn <;> cases hn
  case refine_3 =>
    rintro p name q _ rfl
    obtain ⟨inside, rfl⟩ := h.exists_cons₃
    rw [term?] at hn
    cases hn
  case refine_4 =>
    rintro path p value _ rfl
    obtain ⟨behind, rfl⟩ := h.exists_cons₃
    rw [term?] at hn
    cases hn
  case refine_5 =>
    rintro word _ rfl
    obtain ⟨behind, rfl⟩ := h.exists_cons
    rw [term?] at hn
    cases hn

theorem chain?_eq_none_iff : chain? as = none ↔ term? as = none := by
  rw [chain?]
  split <;> simp_all

theorem chain?_eq_none (h : SameAhead as bs) (hn : chain? as = none) : chain? bs = none :=
  chain?_eq_none_iff.2 (term?_eq_none h (chain?_eq_none_iff.1 hn))

end SameAhead

-- Holds if a production finds something before the atoms that are left. Links are looked for behind
-- whatever chain there is.
def Finds : Nonterminal → List Atom → List Atom → Prop
  | .chains, as, rest    => ∃ cs h, chains as = .found cs rest h
  | .chain, as, rest     => ∃ c h, chain? as = some (.found c rest h)
  | .links, as, rest     => ∀ before, ∃ c h, joins before as = .found c rest h
  | .term, as, rest      => ∃ t h, term? as = some (.found t rest h)
  | .arguments, as, rest => (arguments as).2 = rest

section Found

variable {as mid rest : List Atom}

theorem finds_no_chains (h : chain? as = none) : Finds .chains as as := by
  rw [Finds, chains, h]
  exact ⟨[], _, rfl⟩

theorem Finds.chains (hc : Finds .chain as mid) (hr : Finds .chains mid rest) :
    Finds .chains as rest := by
  obtain ⟨c, _, hc⟩ := hc
  obtain ⟨cs, _, hr⟩ := hr
  rw [Finds, Expression.chains, hc]
  dsimp only
  rw [hr]
  exact ⟨c :: cs, _, rfl⟩

-- Holds if a production finds something before `rest`, and would find it before all atoms that look
-- the same.
def ReadsTo (n : Nonterminal) (as rest : List Atom) : Prop :=
  ∃ front, as = front ++ rest ∧ Derives n (front.map Atom.terminal) ∧
    ∀ bs, SameAhead rest bs → Finds n (front ++ bs) bs

theorem readsTo_arguments (as : List Atom) : ReadsTo .arguments as (arguments as).2 := by
  fun_induction arguments as
  case case1 key p value as r ih =>
    obtain ⟨front, ha, hd, hf⟩ := ih
    refine ⟨.value key :: .symbol .equals p :: .value value :: front, ?_, .arguments hd, ?_⟩
    · exact congrArg (_ :: _ :: _ :: ·) ha
    · exact hf
  case case2 as hn =>
    refine ⟨[], rfl, .noArguments, fun bs hb => ?_⟩
    rw [Finds, List.nil_append, arguments.eq_2 bs]
    rintro key p value _ rfl
    obtain ⟨_, rfl⟩ := hb.exists_cons₃
    exact hn _ _ _ _ rfl

theorem readsTo_term {t : Term} {h : rest.length < as.length}
    (ht : term? as = some (.found t rest h)) : ReadsTo .term as rest := by
  obtain ⟨front, hy, rfl⟩ := takes_of_found.1 _ _ _ _ ht
  refine ⟨front, rfl, terminals_of_yields hy ▸ t.derives_yield, fun bs _ => ?_⟩
  exact ⟨t, term?_of_takes t ⟨front, hy, rfl⟩⟩

-- A chain with a connective behind it is carried on or fails.
theorem not_connective_of_joins {before c : Chain} {h : as.length < as.length + 1}
    (hj : joins before as = .found c as h) (p : Position) (w : Word) (behind : List Atom) :
    as ≠ .symbol .minus p :: .value w :: behind := by
  rintro rfl
  rw [joins] at hj
  split at hj
  case h_1 => cases hj
  case h_2 => cases hj
  case h_3 t rest fewer ht =>
    obtain ⟨hl, -⟩ := eq_found_of_weaken hj
    simp only [List.length_cons] at hl
    omega

theorem readsTo_chain {c : Chain} {h : rest.length < as.length}
    (hc : chain? as = some (.found c rest h)) : ReadsTo .chain as rest := by
  obtain ⟨front, hy, rfl⟩ := takes_of_found.2.2.1 _ _ _ _ hc
  obtain ⟨_, hw⟩ := chain?_of_takes c ⟨front, hy, rfl⟩
  obtain ⟨_, hj⟩ := eq_found_of_weaken (Option.some.inj (hw.symm.trans hc))
  refine ⟨front, rfl, terminals_of_yields hy ▸ c.derives_yield, fun bs hb => ?_⟩
  obtain ⟨hl, hw⟩ := chain?_of_takes c (⟨front, hy, rfl⟩ : Takes (front ++ bs) c.yield bs)
  have hn : ∀ p w behind, bs ≠ .symbol .minus p :: .value w :: behind := by
    rintro p w _ rfl
    obtain ⟨_, rfl⟩ := hb.exists_cons₂
    exact not_connective_of_joins hj _ _ _ rfl
  exact ⟨c, hl, by rw [hw, joins.eq_2 c bs hn]; rfl⟩

theorem readsTo_chains {cs : List Chain} {h : rest.length < as.length + 1}
    (hcs : chains as = .found cs rest h) : ReadsTo .chains as rest := by
  induction cs generalizing as
  case nil =>
    rw [chains] at hcs
    split at hcs
    case h_1 hn =>
      cases hcs
      exact ⟨[], rfl, .noChains, fun bs hb => finds_no_chains (chain?_eq_none hb hn)⟩
    case h_2 => cases hcs
    case h_3 => split at hcs <;> cases hcs
  case cons c cs ih =>
    rw [chains] at hcs
    split at hcs
    case h_1 => cases hcs
    case h_2 => cases hcs
    case h_3 hc =>
      split at hcs
      case h_1 => cases hcs
      case h_2 hr =>
        cases hcs
        obtain ⟨front, rfl, hd, hf⟩ := readsTo_chain hc
        obtain ⟨mid, rfl, hd', hf'⟩ := ih hr
        refine ⟨front ++ mid, by simp, by simpa using hd.chains hd', fun bs hb => ?_⟩
        rw [List.append_assoc]
        exact (hf _ (hb.append mid)).chains (hf' bs hb)

end Found

end Expression

end EntitySearch
