import EntitySearch.Proofs.Expression.Parsing

namespace EntitySearch

def Word.unplaced (w : Word) : Word :=
  { w with position := .start }

def Atom.unplaced : Atom → Atom
  | .symbol s _ => .symbol s .start
  | .path w     => .path w.unplaced
  | .value w    => .value w.unplaced

mutual

def Term.unplaced : Term → Term
  | .group _ inner        => .group .start inner.unplaced
  | .fullText term        => .fullText term.unplaced
  | .property path value  => .property path.unplaced value.unplaced
  | .function _ name args =>
    .function .start name.unplaced (args.map fun a => (a.1.unplaced, a.2.unplaced))
  | .aggregate _ name contents =>
    .aggregate .start name.unplaced (Chain.unplacedAll contents)

def Chain.unplaced : Chain → Chain
  | .operand t                  => .operand t.unplaced
  | .joined before connective t => .joined before.unplaced connective.unplaced t.unplaced

def Chain.unplacedAll : List Chain → List Chain
  | []      => []
  | c :: cs => c.unplaced :: Chain.unplacedAll cs

end

def ParseFailure.unplaced : ParseFailure → ParseFailure
  | .missing expected rest => .missing expected (rest.map Atom.unplaced)
  | .leftover found rest   => .leftover found.unplaced (rest.map Atom.unplaced)

section Atoms

variable {a b : Atom} {as bs : List Atom}

-- Without its place, an atom is its kind.
theorem Atom.unplaced_eq_iff : a.unplaced = b.unplaced ↔ a.kind = b.kind := by
  cases a <;> cases b <;> simp [unplaced, kind, Word.unplaced]

theorem map_unplaced_eq_iff :
    as.map Atom.unplaced = bs.map Atom.unplaced ↔ as.map Atom.kind = bs.map Atom.kind := by
  induction as generalizing bs
  case nil => cases bs <;> simp
  case cons a as ih => cases bs <;> simp [Atom.unplaced_eq_iff, ih]

theorem eq_symbol_cons_of_map {s : Symbol} {p : Position}
    (h : as.map Atom.unplaced = .symbol s p :: bs) :
    ∃ q cs, as = .symbol s q :: cs ∧ cs.map Atom.unplaced = bs := by
  obtain ⟨a, cs, rfl, ha, hc⟩ := List.map_eq_cons_iff.1 h
  cases a <;> simp only [Atom.unplaced, Atom.symbol.injEq, reduceCtorEq] at ha
  case symbol q => exact ⟨q, cs, by rw [ha.1], hc⟩

theorem eq_path_cons_of_map {w : Word} (h : as.map Atom.unplaced = .path w :: bs) :
    ∃ v cs, as = .path v :: cs ∧ cs.map Atom.unplaced = bs := by
  obtain ⟨a, cs, rfl, ha, hc⟩ := List.map_eq_cons_iff.1 h
  cases a <;> simp only [Atom.unplaced, reduceCtorEq] at ha
  case path v => exact ⟨v, cs, rfl, hc⟩

theorem eq_value_cons_of_map {w : Word} (h : as.map Atom.unplaced = .value w :: bs) :
    ∃ v cs, as = .value v :: cs ∧ cs.map Atom.unplaced = bs := by
  obtain ⟨a, cs, rfl, ha, hc⟩ := List.map_eq_cons_iff.1 h
  cases a <;> simp only [Atom.unplaced, reduceCtorEq] at ha
  case value v => exact ⟨v, cs, rfl, hc⟩

theorem Atom.kind_unplaced (a : Atom) : a.unplaced.kind = a.kind := by
  cases a <;> rfl

theorem ParseFailure.fault_unplaced (f : ParseFailure) : f.unplaced.fault = f.fault := by
  cases f
  case missing expected rest => cases rest <;> simp [unplaced, fault, Atom.kind_unplaced]
  case leftover              => simp [unplaced, fault, Atom.kind_unplaced]

end Atoms

namespace Expression

-- What was read, without its places, and what is left behind it.
def readUnplaced {α : Type} {n : Nat} (f : α → α) :
    Parsed α n → Except ParseFailure (α × List Atom)
  | .found x rest _ => .ok (f x, rest.map Atom.unplaced)
  | .failed e       => .error e.unplaced

section Readings

variable {α : Type} {m n : Nat} {r? : Option (Parsed α n)} {r : Parsed α n} {f : α → α}

theorem eq_found_of_toExcept {x : α} {rest : List Atom} (h : r.toExcept = .ok (x, rest)) :
    ∃ h, r = .found x rest h := by
  cases r <;> cases h
  exact ⟨_, rfl⟩

theorem eq_failed_of_toExcept {e : ParseFailure} (h : r.toExcept = .error e) : r = .failed e := by
  cases r <;> cases h
  rfl

theorem eq_some_found {x : α} {rest : List Atom}
    (h : r?.map Reading.toExcept = some (.ok (x, rest))) : ∃ h, r? = some (.found x rest h) := by
  obtain ⟨r, rfl, hr⟩ := Option.map_eq_some_iff.1 h
  obtain ⟨fewer, rfl⟩ := eq_found_of_toExcept hr
  exact ⟨fewer, rfl⟩

theorem eq_some_failed {e : ParseFailure} (h : r?.map Reading.toExcept = some (.error e)) :
    r? = some (.failed e) := by
  obtain ⟨r, rfl, hr⟩ := Option.map_eq_some_iff.1 h
  rw [eq_failed_of_toExcept hr]

theorem readUnplaced_weaken (h : n ≤ m) (r : Parsed α n) :
    readUnplaced f (r.weaken h) = readUnplaced f r := by
  cases r <;> rfl

theorem closed_unplaced {node node' : α} {rest : List Atom} (hn : node' = f node)
    (h : (rest.map Atom.unplaced).length < m) (h' : rest.length < n) :
    (closed node' (rest.map Atom.unplaced) h).toExcept =
      readUnplaced f (closed node rest h') := by
  subst hn
  match rest with
  | []               => rfl
  | .symbol s _ :: _ => cases s <;> rfl
  | .path _ :: _     => rfl
  | .value _ :: _    => rfl

end Readings

theorem arguments_unplaced (atoms : List Atom) :
    arguments (atoms.map Atom.unplaced) =
      ((arguments atoms).1.map fun a => (a.1.unplaced, a.2.unplaced),
        (arguments atoms).2.map Atom.unplaced) := by
  fun_induction arguments atoms
  case case1 key p value atoms r ih => simp [arguments, Atom.unplaced, ih, r]
  case case2 atoms h =>
    refine arguments.eq_2 _ fun key p value behind he => ?_
    obtain ⟨k, _, rfl, hs⟩ := eq_value_cons_of_map he
    obtain ⟨q, _, rfl, hv⟩ := eq_symbol_cons_of_map hs
    obtain ⟨v, _, rfl, -⟩ := eq_value_cons_of_map hv
    exact h k q v _ rfl

-- No production looks at a place.
theorem readings_unplaced :
    (∀ atoms, (term? (atoms.map Atom.unplaced)).map Reading.toExcept =
      (term? atoms).map (readUnplaced Term.unplaced)) ∧
    (∀ atoms, (chains (atoms.map Atom.unplaced)).toExcept =
      readUnplaced Chain.unplacedAll (chains atoms)) ∧
    (∀ atoms, (chain? (atoms.map Atom.unplaced)).map Reading.toExcept =
      (chain? atoms).map (readUnplaced Chain.unplaced)) ∧
    (∀ before atoms, (joins before.unplaced (atoms.map Atom.unplaced)).toExcept =
      readUnplaced Chain.unplaced (joins before atoms)) := by
  apply term?.mutual_induct
  case case1 =>
    intro p inside hi ih
    rw [hi] at ih
    have hu := Option.map_eq_none_iff.1 ih
    change (term? (.symbol .opening .start :: inside.map Atom.unplaced)).map _ = _
    simp only [term?, hi, hu]
    rfl
  case case2 =>
    intro p inside f hi ih
    rw [hi] at ih
    have hu := eq_some_failed ih
    change (term? (.symbol .opening .start :: inside.map Atom.unplaced)).map _ = _
    simp only [term?, hi, hu]
    rfl
  case case3 =>
    intro p inside inner rest fewer hi ih
    rw [hi] at ih
    obtain ⟨_, hu⟩ := eq_some_found ih
    change (term? (.symbol .opening .start :: inside.map Atom.unplaced)).map _ = _
    simp only [term?, hi, hu]
    exact congrArg some (closed_unplaced (by rw [Term.unplaced]) _ _)
  case case4 =>
    intro p name q inside f hi ih
    rw [hi] at ih
    have hu := eq_failed_of_toExcept ih
    change (term? (.symbol .dollar .start :: .value name.unplaced :: .symbol .opening .start ::
      inside.map Atom.unplaced)).map _ = _
    simp only [term?, hi, hu]
    rfl
  case case5 =>
    intro p name q inside contents rest fewer hi ih
    rw [hi] at ih
    obtain ⟨_, hu⟩ := eq_found_of_toExcept ih
    change (term? (.symbol .dollar .start :: .value name.unplaced :: .symbol .opening .start ::
      inside.map Atom.unplaced)).map _ = _
    simp only [term?, hi, hu]
    exact congrArg some (closed_unplaced (by rw [Term.unplaced]) _ _)
  case case6 =>
    intro p name q inside
    change (term? (.symbol .percent .start :: .value name.unplaced :: .symbol .opening .start ::
      inside.map Atom.unplaced)).map _ = _
    simp only [term?, arguments_unplaced]
    exact congrArg some (closed_unplaced (by rw [Term.unplaced]) _ _)
  case case7 =>
    intro path p value behind
    change (term? (.path path.unplaced :: .symbol .equals .start :: .value value.unplaced ::
      behind.map Atom.unplaced)).map _ = _
    simp only [term?]
    rfl
  case case8 =>
    intro word behind
    change (term? (.value word.unplaced :: behind.map Atom.unplaced)).map _ = _
    simp only [term?]
    rfl
  case case9 =>
    intro atoms h₁ h₂ h₃ h₄ h₅
    rw [term?.eq_6 atoms h₁ h₂ h₃ h₄ h₅, term?.eq_6]
    case x_1 =>
      intro _ _ he
      obtain ⟨p, _, rfl, -⟩ := eq_symbol_cons_of_map he
      exact h₁ p _ rfl
    case x_2 =>
      intro _ _ _ _ he
      obtain ⟨p, _, rfl, hn⟩ := eq_symbol_cons_of_map he
      obtain ⟨name, _, rfl, ho⟩ := eq_value_cons_of_map hn
      obtain ⟨q, _, rfl, -⟩ := eq_symbol_cons_of_map ho
      exact h₂ p name q _ rfl
    case x_3 =>
      intro _ _ _ _ he
      obtain ⟨p, _, rfl, hn⟩ := eq_symbol_cons_of_map he
      obtain ⟨name, _, rfl, ho⟩ := eq_value_cons_of_map hn
      obtain ⟨q, _, rfl, -⟩ := eq_symbol_cons_of_map ho
      exact h₃ p name q _ rfl
    case x_4 =>
      intro _ _ _ _ he
      obtain ⟨path, _, rfl, hs⟩ := eq_path_cons_of_map he
      obtain ⟨p, _, rfl, hv⟩ := eq_symbol_cons_of_map hs
      obtain ⟨value, _, rfl, -⟩ := eq_value_cons_of_map hv
      exact h₄ path p value _ rfl
    case x_5 =>
      intro _ _ he
      obtain ⟨word, _, rfl, -⟩ := eq_value_cons_of_map he
      exact h₅ word _ rfl
    rfl
  case case10 =>
    intro atoms hc ih
    rw [hc] at ih
    have hu := Option.map_eq_none_iff.1 ih
    simp only [chains, hc, hu]
    rfl
  case case11 =>
    intro atoms f hc ih
    rw [hc] at ih
    have hu := eq_some_failed ih
    simp only [chains, hc, hu]
    rfl
  case case12 =>
    intro atoms c rest fewer hc f hr ihc ihr
    rw [hc] at ihc
    rw [hr] at ihr
    obtain ⟨_, hu⟩ := eq_some_found ihc
    have hu' := eq_failed_of_toExcept ihr
    simp only [chains, hc, hr, hu, hu']
    rfl
  case case13 =>
    intro atoms c rest fewer hc cs rest' fewer' hr ihc ihr
    rw [hc] at ihc
    rw [hr] at ihr
    obtain ⟨_, hu⟩ := eq_some_found ihc
    obtain ⟨_, hu'⟩ := eq_found_of_toExcept ihr
    simp only [chains, hc, hr, hu, hu']
    rfl
  case case14 =>
    intro atoms ht ih
    rw [ht] at ih
    have hu := Option.map_eq_none_iff.1 ih
    simp only [chain?, ht, hu]
    rfl
  case case15 =>
    intro atoms f ht ih
    rw [ht] at ih
    have hu := eq_some_failed ih
    simp only [chain?, ht, hu]
    rfl
  case case16 =>
    intro atoms t rest fewer ht iht ihj
    rw [ht] at iht
    obtain ⟨_, hu⟩ := eq_some_found iht
    simp only [chain?, ht, hu, Option.map_some, Reading.toExcept_weaken, readUnplaced_weaken]
    exact congrArg some ihj
  case case17 =>
    intro before p connective behind ht ih
    rw [ht] at ih
    have hu := Option.map_eq_none_iff.1 ih
    change (joins before.unplaced (.symbol .minus .start :: .value connective.unplaced ::
      behind.map Atom.unplaced)).toExcept = _
    simp only [joins, ht, hu]
    rfl
  case case18 =>
    intro before p connective behind f ht ih
    rw [ht] at ih
    have hu := eq_some_failed ih
    change (joins before.unplaced (.symbol .minus .start :: .value connective.unplaced ::
      behind.map Atom.unplaced)).toExcept = _
    simp only [joins, ht, hu]
    rfl
  case case19 =>
    intro before p connective behind t rest fewer ht iht ihj
    rw [ht] at iht
    obtain ⟨_, hu⟩ := eq_some_found iht
    change (joins before.unplaced (.symbol .minus .start :: .value connective.unplaced ::
      behind.map Atom.unplaced)).toExcept = _
    simp only [joins, ht, hu, Reading.toExcept_weaken, readUnplaced_weaken]
    exact ihj
  case case20 =>
    intro before atoms h
    rw [joins.eq_2 before atoms h, joins.eq_2]
    case x =>
      intro _ _ _ he
      obtain ⟨p, _, rfl, hv⟩ := eq_symbol_cons_of_map he
      obtain ⟨connective, _, rfl, -⟩ := eq_value_cons_of_map hv
      exact h p connective _ rfl
    rfl

theorem ofAtoms_unplaced (atoms : List Atom) :
    ofAtoms (atoms.map Atom.unplaced) =
      ((ofAtoms atoms).map Chain.unplacedAll).mapError ParseFailure.unplaced := by
  have h := readings_unplaced.2.1 atoms
  unfold ofAtoms
  cases hc : chains atoms <;> rw [hc] at h
  case failed e =>
    rw [eq_failed_of_toExcept h]
    rfl
  case found cs rest fewer =>
    obtain ⟨_, hu⟩ := eq_found_of_toExcept h
    rw [hu]
    cases rest <;> rfl

end Expression

end EntitySearch
