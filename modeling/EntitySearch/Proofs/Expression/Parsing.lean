import EntitySearch.Expression.Parser
import EntitySearch.Proofs.Except
import EntitySearch.Proofs.Expression.Grammar

namespace EntitySearch

namespace Expression

-- Holds if what something is made of stands before the atoms that are left.
def Takes (atoms : List Atom) (ps : List Piece) (rest : List Atom) : Prop :=
  ∃ as, Yields ps as ∧ atoms = as ++ rest

section Takes

variable {atoms rest : List Atom} {ps qs : List Piece}

theorem takes_nil_right : Takes atoms ps [] ↔ Yields ps atoms := by
  simp [Takes]

@[simp]
theorem takes_nil : Takes atoms [] rest ↔ atoms = rest := by
  simp [Takes]

theorem takes_cons {p : Piece} :
    Takes atoms (p :: ps) rest ↔ ∃ a bs, p.Fits a ∧ atoms = a :: bs ∧ Takes bs ps rest := by
  simp only [Takes, yields_cons]
  constructor
  case mp  => rintro ⟨_, ⟨a, bs, ha, h, rfl⟩, rfl⟩; exact ⟨a, bs ++ rest, ha, rfl, bs, h, rfl⟩
  case mpr => rintro ⟨a, _, ha, rfl, bs, h, rfl⟩; exact ⟨_, ⟨a, bs, ha, h, rfl⟩, rfl⟩

@[simp]
theorem takes_path {w : Word} :
    Takes atoms (.path w :: ps) rest ↔ ∃ bs, atoms = .path w :: bs ∧ Takes bs ps rest := by
  simp [takes_cons, Piece.fits_path]

@[simp]
theorem takes_value {w : Word} :
    Takes atoms (.value w :: ps) rest ↔ ∃ bs, atoms = .value w :: bs ∧ Takes bs ps rest := by
  simp [takes_cons, Piece.fits_value]

@[simp]
theorem takes_symbolAt {s : Symbol} {p : Position} :
    Takes atoms (.symbolAt s p :: ps) rest ↔
      ∃ bs, atoms = .symbol s p :: bs ∧ Takes bs ps rest := by
  simp [takes_cons, Piece.fits_symbolAt]

@[simp]
theorem takes_symbol {s : Symbol} :
    Takes atoms (.symbol s :: ps) rest ↔ ∃ p bs, atoms = .symbol s p :: bs ∧ Takes bs ps rest := by
  simp only [takes_cons, Piece.fits_symbol]
  constructor
  case mp  => rintro ⟨_, bs, ⟨p, rfl⟩, h⟩; exact ⟨p, bs, h⟩
  case mpr => rintro ⟨p, bs, h⟩; exact ⟨_, bs, ⟨p, rfl⟩, h⟩

@[simp]
theorem takes_append :
    Takes atoms (ps ++ qs) rest ↔ ∃ mid, Takes atoms ps mid ∧ Takes mid qs rest := by
  simp only [Takes, yields_append]
  constructor
  case mp =>
    rintro ⟨_, ⟨bs, cs, hb, hc, rfl⟩, rfl⟩
    exact ⟨cs ++ rest, ⟨bs, hb, List.append_assoc ..⟩, cs, hc, rfl⟩
  case mpr =>
    rintro ⟨_, ⟨bs, hb, rfl⟩, cs, hc, rfl⟩
    exact ⟨bs ++ cs, ⟨bs, cs, hb, hc, rfl⟩, (List.append_assoc ..).symm⟩

theorem takes_closed {p : Position} (h : Takes atoms ps (.symbol .closing p :: rest)) :
    Takes atoms (ps ++ [.symbol .closing]) rest :=
  takes_append.2 ⟨_, h, by simp⟩

end Takes

section Soundness

theorem closed_eq_found {α : Type} {n : Nat} {node x : α} {rest behind : List Atom}
    {fewer : rest.length < n} {h : behind.length < n}
    (hc : closed node rest fewer = .found x behind h) :
    x = node ∧ ∃ p, rest = .symbol .closing p :: behind := by
  unfold closed at hc
  split at hc <;> cases hc
  exact ⟨rfl, _, rfl⟩

theorem takes_arguments (atoms : List Atom) :
    Takes atoms (yieldArguments (arguments atoms).1) (arguments atoms).2 := by
  fun_induction arguments atoms
  case case1 key p value atoms r ih => simpa [yieldArguments] using ih
  case case2                        => simp [yieldArguments]

theorem eq_found_of_weaken {α : Type} {n m : Nat} {r : Parsed α n} {hm : n ≤ m} {x : α}
    {rest : List Atom} {h : rest.length < m} (hr : r.weaken hm = .found x rest h) :
    ∃ h, r = .found x rest h := by
  cases r <;> cases hr
  case found fewer => exact ⟨fewer, rfl⟩

-- Whatever a production finds is made of the atoms in front of those that it leaves.
theorem takes_of_found :
    (∀ atoms t rest h, term? atoms = some (.found t rest h) → Takes atoms t.yield rest) ∧
    (∀ atoms cs rest h, chains atoms = .found cs rest h → Takes atoms (Chain.yieldAll cs) rest) ∧
    (∀ atoms c rest h, chain? atoms = some (.found c rest h) → Takes atoms c.yield rest) ∧
    (∀ before atoms c rest h, joins before atoms = .found c rest h →
      ∀ all, Takes all before.yield atoms → Takes all c.yield rest) := by
  apply term?.mutual_induct
  case case1 =>
    intro p inside hi _ t rest h ht
    simp [term?, hi] at ht
  case case2 =>
    intro p inside f hi _ t rest h ht
    simp [term?, hi] at ht
  case case3 =>
    intro p inside inner _ _ hi ih t rest h ht
    simp only [term?, hi, Option.some.injEq] at ht
    obtain ⟨rfl, q, rfl⟩ := closed_eq_found ht
    have := ih inner _ _ hi
    simpa [Term.yield] using takes_closed this
  case case4 =>
    intro p name q inside f hi _ t rest h ht
    simp [term?, hi] at ht
  case case5 =>
    intro p name q inside contents _ _ hi ih t rest h ht
    simp only [term?, hi, Option.some.injEq] at ht
    obtain ⟨rfl, r, rfl⟩ := closed_eq_found ht
    have := ih contents _ _ hi
    simpa [Term.yield] using takes_closed this
  case case6 =>
    intro p name q inside t rest h ht
    simp only [term?, Option.some.injEq] at ht
    obtain ⟨rfl, r, hr⟩ := closed_eq_found ht
    have := takes_arguments inside
    rw [hr] at this
    simpa [Term.yield] using takes_closed this
  case case7 =>
    intro path p value behind t rest h ht
    simp only [term?, Option.some.injEq, Reading.found.injEq] at ht
    obtain ⟨rfl, rfl⟩ := ht
    simp [Term.yield]
  case case8 =>
    intro word behind t rest h ht
    simp only [term?, Option.some.injEq, Reading.found.injEq] at ht
    obtain ⟨rfl, rfl⟩ := ht
    simp [Term.yield]
  case case9 =>
    intro atoms h₁ h₂ h₃ h₄ h₅ t rest h ht
    rw [term?.eq_6 atoms h₁ h₂ h₃ h₄ h₅] at ht
    cases ht
  case case10 =>
    intro atoms hc _ cs rest h hcs
    simp only [chains, hc, Reading.found.injEq] at hcs
    obtain ⟨rfl, rfl⟩ := hcs
    simp [Chain.yieldAll]
  case case11 =>
    intro atoms f hc _ cs rest h hcs
    simp [chains, hc] at hcs
  case case12 =>
    intro atoms c rest' _ hc f hr _ _ cs rest h hcs
    simp [chains, hc, hr] at hcs
  case case13 =>
    intro atoms c rest' _ hc cs' rest'' _ hr ihc ihr cs rest h hcs
    simp only [chains, hc, hr, Reading.found.injEq] at hcs
    obtain ⟨rfl, rfl⟩ := hcs
    rw [Chain.yieldAll]
    exact takes_append.2 ⟨_, ihc c _ _ hc, ihr cs' _ _ hr⟩
  case case14 =>
    intro atoms ht _ c rest h hc
    simp [chain?, ht] at hc
  case case15 =>
    intro atoms f ht _ c rest h hc
    simp [chain?, ht] at hc
  case case16 =>
    intro atoms t rest' _ ht iht ihj c rest h hc
    simp only [chain?, ht, Option.some.injEq] at hc
    obtain ⟨_, hj⟩ := eq_found_of_weaken hc
    have := iht t _ _ ht
    exact ihj c _ _ hj atoms (by rwa [Chain.yield])
  case case17 =>
    intro before p connective behind ht _ c rest h hc
    simp [joins, ht] at hc
  case case18 =>
    intro before p connective behind f ht _ c rest h hc
    simp [joins, ht] at hc
  case case19 =>
    intro before p connective behind t rest' _ ht iht ihj c rest h hc all ha
    simp only [joins, ht] at hc
    obtain ⟨_, hj⟩ := eq_found_of_weaken hc
    have := iht t _ _ ht
    refine ihj c _ _ hj all ?_
    rw [Chain.yield]
    exact takes_append.2 ⟨_, ha, by simpa using this⟩
  case case20 =>
    intro before atoms hm c rest h hc all ha
    rw [joins.eq_2 before atoms hm] at hc
    cases hc
    exact ha

end Soundness

section Completeness

theorem weaken_weaken {α : Type} {n m k : Nat} (r : Parsed α n) (h : n ≤ m) (h' : m ≤ k) :
    (r.weaken h).weaken h' = r.weaken (Nat.le_trans h h') := by
  cases r <;> rfl

-- Nothing is joined to a chain unless a connective follows.
theorem joins_eq_found (before : Chain) {atoms : List Atom}
    (h : ∀ p, atoms.head? ≠ some (.symbol .minus p)) :
    joins before atoms = .found before atoms (Nat.lt_succ_self _) :=
  joins.eq_2 before atoms fun p _ _ ha => h p (by simp [ha])

theorem head?_of_takes_term {t : Term} {atoms rest : List Atom} (h : Takes atoms t.yield rest)
    (p : Position) : atoms.head? ≠ some (.symbol .minus p) := by
  cases t <;> simp only [Term.yield, takes_symbolAt, takes_value, takes_path] at h <;>
    obtain ⟨bs, rfl, -⟩ := h <;> simp

theorem head?_of_takes_chain {c : Chain} {atoms rest : List Atom} (h : Takes atoms c.yield rest)
    (p : Position) : atoms.head? ≠ some (.symbol .minus p) := by
  match c with
  | .operand t =>
    rw [Chain.yield] at h
    exact head?_of_takes_term h p
  | .joined before connective t =>
    rw [Chain.yield, takes_append] at h
    obtain ⟨_, hb, -⟩ := h
    exact head?_of_takes_chain hb p

theorem arguments_of_takes {ps : List (Word × Word)} {atoms rest : List Atom} {p : Position}
    (h : Takes atoms (yieldArguments ps) (.symbol .closing p :: rest)) :
    arguments atoms = (ps, .symbol .closing p :: rest) := by
  induction ps generalizing atoms
  case nil =>
    rw [yieldArguments, takes_nil] at h
    simp [h, arguments]
  case cons kv ps ih =>
    simp only [yieldArguments, takes_value, takes_symbol] at h
    obtain ⟨_, rfl, q, _, rfl, bs, rfl, hb⟩ := h
    simp [arguments, ih hb]

-- Behind the chains of an aggregate stands a bracket, and behind those of a source nothing.
def Ends (rest : List Atom) : Prop :=
  ∀ a ∈ rest.head?, ∃ p, a = .symbol .closing p

theorem ends_nil : Ends [] := by
  simp [Ends]

theorem ends_closing (p : Position) (rest : List Atom) : Ends (.symbol .closing p :: rest) := by
  simp [Ends]

theorem Ends.chain?_eq_none {rest : List Atom} (h : Ends rest) : chain? rest = none := by
  cases rest
  case nil => simp [chain?, term?]
  case cons a rest =>
    obtain ⟨p, rfl⟩ := h a rfl
    simp [chain?, term?]

-- What stands behind one of some chains does not carry it on.
theorem head?_of_takes_all {cs : List Chain} {atoms rest : List Atom}
    (h : Takes atoms (Chain.yieldAll cs) rest) (he : Ends rest) (p : Position) :
    atoms.head? ≠ some (.symbol .minus p) := by
  cases cs
  case nil =>
    rw [Chain.yieldAll, takes_nil] at h
    subst h
    intro hp
    obtain ⟨_, hq⟩ := he _ hp
    cases hq
  case cons c cs =>
    rw [Chain.yieldAll, takes_append] at h
    obtain ⟨_, hc, -⟩ := h
    exact head?_of_takes_chain hc p

mutual

theorem term?_of_takes (t : Term) {atoms rest : List Atom} (h : Takes atoms t.yield rest) :
    ∃ hr, term? atoms = some (.found t rest hr) := by
  cases t <;> simp only [Term.yield, takes_symbolAt, takes_symbol, takes_value, takes_path,
    takes_append, takes_nil] at h
  case group p inner =>
    obtain ⟨inside, rfl, _, hi, q, _, rfl, rfl⟩ := h
    obtain ⟨_, hc⟩ := chain?_of_takes inner hi
    rw [joins_eq_found inner (by simp)] at hc
    rw [term?, hc]
    exact ⟨_, rfl⟩
  case fullText term =>
    obtain ⟨_, rfl, rfl⟩ := h
    rw [term?]
    exact ⟨_, rfl⟩
  case property path value =>
    obtain ⟨_, rfl, q, _, rfl, _, rfl, rfl⟩ := h
    rw [term?]
    exact ⟨_, rfl⟩
  case function p name arguments =>
    obtain ⟨_, rfl, _, rfl, q, inside, rfl, _, hi, r, _, rfl, rfl⟩ := h
    have ha := arguments_of_takes hi
    rw [term?]
    generalize_proofs fewer
    revert fewer
    rw [ha]
    exact fun _ => ⟨_, rfl⟩
  case aggregate p name contents =>
    obtain ⟨_, rfl, _, rfl, q, inside, rfl, _, hi, r, _, rfl, rfl⟩ := h
    obtain ⟨_, hc⟩ := chains_of_takes contents hi (ends_closing r _)
    rw [term?, hc]
    exact ⟨_, rfl⟩

theorem chain?_of_takes (c : Chain) {atoms rest : List Atom} (h : Takes atoms c.yield rest) :
    ∃ hr, chain? atoms = some ((joins c rest).weaken hr) := by
  cases c <;> simp only [Chain.yield, takes_append, takes_symbol, takes_value] at h
  case operand t =>
    obtain ⟨hr, ht⟩ := term?_of_takes t h
    rw [chain?, ht]
    exact ⟨hr, rfl⟩
  case joined before connective t =>
    obtain ⟨_, hb, p, _, rfl, behind, rfl, ht⟩ := h
    obtain ⟨_, ht⟩ := term?_of_takes t ht
    obtain ⟨_, hb⟩ := chain?_of_takes before hb
    rw [hb, joins, ht]
    exact ⟨_, congrArg some (weaken_weaken ..)⟩

theorem chains_of_takes (cs : List Chain) {atoms rest : List Atom}
    (h : Takes atoms (Chain.yieldAll cs) rest) (he : Ends rest) :
    ∃ hr, chains atoms = .found cs rest hr := by
  cases cs <;> simp only [Chain.yieldAll, takes_append, takes_nil] at h
  case nil =>
    subst h
    rw [chains, he.chain?_eq_none]
    exact ⟨_, rfl⟩
  case cons c cs =>
    obtain ⟨mid, hc, hcs⟩ := h
    obtain ⟨_, hc⟩ := chain?_of_takes c hc
    obtain ⟨_, hr⟩ := chains_of_takes cs hcs he
    rw [joins_eq_found c (head?_of_takes_all hcs he)] at hc
    rw [chains, hc]
    dsimp only [Reading.weaken]
    rw [hr]
    exact ⟨_, rfl⟩

end

end Completeness

theorem ofAtoms_eq_ok_iff {atoms : List Atom} {cs : List Chain} :
    ofAtoms atoms = .ok cs ↔ Yields (Chain.yieldAll cs) atoms := by
  rw [← takes_nil_right, ofAtoms]
  constructor
  case mp =>
    intro h
    split at h <;> cases h
    case h_2 hc => exact takes_of_found.2.1 atoms cs [] _ hc
  case mpr =>
    intro h
    obtain ⟨_, hc⟩ := chains_of_takes cs h ends_nil
    rw [hc]

end Expression

section Parse

variable {source : String} {tokens : List Token}

theorem parse_of_tokenize (h : tokenize source = .ok tokens) :
    parse source = match Expression.ofAtoms (tokens.filterMap Token.atom?) with
      | .ok cs   => .ok cs
      | .error f => .error (.ofFault f.fault source (f.position source)) := by
  rw [parse, h]
  rfl

theorem parse_eq_ok_iff {cs : List Chain} (h : tokenize source = .ok tokens) :
    parse source = .ok cs ↔ MadeOf cs tokens := by
  simp only [madeOf_iff, ← Expression.ofAtoms_eq_ok_iff, parse, bind_eq_ok_iff, h,
    Except.ok.injEq, exists_eq_left']
  cases Expression.ofAtoms (tokens.filterMap Token.atom?)
  case ok cs'  => simp [pure, Except.pure]
  case error f => simp [throw, throwThe, MonadExceptOf.throw]

theorem parse_of_yields {atoms : List Atom} {cs : List Chain}
    (h : (tokenize source).map (·.filterMap Token.atom?) = .ok atoms)
    (hy : Yields (Chain.yieldAll cs) atoms) : parse source = .ok cs := by
  cases ht : tokenize source <;> rw [ht] at h <;> cases h
  exact (parse_eq_ok_iff ht).2 (madeOf_iff.2 hy)

theorem parse_eq_error_iff {e : SyntaxError} (h : tokenize source = .ok tokens) :
    parse source = .error e ↔
      ∃ f, (Expression.ofAtoms (tokens.filterMap Token.atom?) = .error f) ∧
        (e = .ofFault f.fault source (f.position source)) := by
  rw [parse_of_tokenize h]
  cases Expression.ofAtoms (tokens.filterMap Token.atom?)
  case ok      => simp
  case error f => simp [eq_comm]

-- A source text with tokens has expressions just if the grammar derives these, and then they are
-- the only expressions that are made of them.
theorem parse_exact (h : tokenize source = .ok tokens) :
    ((∃ cs, parse source = .ok cs) ↔ Derives .chains (tokens.filterMap (·.kind.terminal?))) ∧
    ∀ cs, parse source = .ok cs → ∀ cs', MadeOf cs' tokens ↔ cs' = cs := by
  constructor
  case left =>
    simp only [parse_eq_ok_iff h, madeOf_iff]
    constructor
    case mp =>
      rintro ⟨cs, hy⟩
      rw [← map_terminal_atoms, ← terminals_of_yields hy]
      exact Chain.derives_yieldAll cs
    case mpr =>
      intro hd
      exact hd.realized _ (map_terminal_atoms tokens)
  case right =>
    intro cs hc cs'
    rw [← parse_eq_ok_iff h, hc, Except.ok.injEq]
    exact eq_comm

theorem parse_exact_group :
    let tokens : List Token := [
      { kind := .symbol .opening, start := ⟨1, 1, 0⟩, stop := ⟨1, 2, 1⟩, text := "(" },
      { kind := .value "a" none, start := ⟨1, 2, 1⟩, stop := ⟨1, 3, 2⟩, text := "a" },
      { kind := .symbol .closing, start := ⟨1, 3, 2⟩, stop := ⟨1, 4, 3⟩, text := ")" }]
    ((∃ cs, parse "(a)" = .ok cs) ↔ Derives .chains (tokens.filterMap (·.kind.terminal?))) ∧
    ∀ cs, parse "(a)" = .ok cs → ∀ cs', MadeOf cs' tokens ↔ cs' = cs :=
  parse_exact (by decide +kernel)

end Parse

end EntitySearch
