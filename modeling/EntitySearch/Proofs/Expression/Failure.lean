import EntitySearch.Proofs.Expression.Lookahead
import EntitySearch.Proofs.Text.Position

namespace EntitySearch

namespace Expression

-- Holds if a production gives up.
def Fails : Nonterminal → List Atom → Prop
  | .chains, as    => ∃ f, chains as = .failed f
  | .chain, as     => ∃ f, chain? as = some (.failed f)
  | .links, as     => ∀ before, ∃ f, joins before as = .failed f
  | .term, as      => ∃ f, term? as = some (.failed f)
  | .arguments, _  => False

-- Holds if no bracket is closed by the atoms that are left.
def StaysOpen (rest : List Atom) : Prop :=
  ∀ p behind, rest ≠ .symbol .closing p :: behind

theorem StaysOpen.of_sameAhead {as bs : List Atom} (h : StaysOpen as) (hs : SameAhead as bs) :
    StaysOpen bs := by
  rintro p _ rfl
  obtain ⟨_, rfl⟩ := hs.exists_cons
  exact h p _ rfl

section Steps

variable {as mid rest inside : List Atom}

theorem exists_weaken_failed {α : Type} {k l : Nat} {r : Parsed α k} (hl : k ≤ l)
    (h : ∃ f, r = .failed f) : ∃ f, r.weaken hl = .failed f := by
  obtain ⟨f, rfl⟩ := h
  exact ⟨f, rfl⟩

theorem exists_closed_failed {α : Type} {k : Nat} {rest : List Atom} (node : α)
    (fewer : rest.length < k) (h : StaysOpen rest) : ∃ f, closed node rest fewer = .failed f := by
  unfold closed
  split
  case h_1 => exact absurd rfl (h _ _)
  case h_2 => exact ⟨_, rfl⟩

theorem closed_eq_failed {α : Type} {k : Nat} {node : α} {fewer : rest.length < k}
    {f : ParseFailure} (h : closed node rest fewer = .failed f) :
    f.rest = rest ∧ StaysOpen rest := by
  unfold closed at h
  split at h
  case h_1 => cases h
  case h_2 hn =>
    cases h
    refine ⟨rfl, ?_⟩
    rintro p behind rfl
    exact hn p behind fewer rfl HEq.rfl

theorem Fails.chains_head (h : Fails .chain as) : Fails .chains as := by
  obtain ⟨f, h⟩ := h
  rw [Fails, chains, h]
  exact ⟨f, rfl⟩

theorem Fails.chains_tail (h : Fails .chains mid) (hc : Finds .chain as mid) :
    Fails .chains as := by
  obtain ⟨f, h⟩ := h
  obtain ⟨c, _, hc⟩ := hc
  rw [Fails, chains, hc]
  dsimp only
  rw [h]
  exact ⟨f, rfl⟩

theorem Fails.chain_head (h : Fails .term as) : Fails .chain as := by
  obtain ⟨f, h⟩ := h
  rw [Fails, chain?, h]
  exact ⟨f, rfl⟩

theorem Fails.chain_links (h : Fails .links mid) (ht : Finds .term as mid) : Fails .chain as := by
  obtain ⟨t, hl, ht⟩ := ht
  rw [Fails, chain?, ht]
  obtain ⟨f, hf⟩ := exists_weaken_failed hl (h (.operand t))
  exact ⟨f, congrArg some hf⟩

theorem fails_links_missing (p : Position) (w : Word) (h : term? as = none) :
    Fails .links (.symbol .minus p :: .value w :: as) := by
  intro before
  rw [joins, h]
  exact ⟨_, rfl⟩

theorem Fails.links_head (h : Fails .term as) (p : Position) (w : Word) :
    Fails .links (.symbol .minus p :: .value w :: as) := by
  obtain ⟨f, h⟩ := h
  intro before
  rw [joins, h]
  exact ⟨f, rfl⟩

theorem Fails.links_tail (h : Fails .links mid) (p : Position) (w : Word)
    (ht : Finds .term as mid) : Fails .links (.symbol .minus p :: .value w :: as) := by
  obtain ⟨t, _, ht⟩ := ht
  intro before
  rw [joins, ht]
  exact exists_weaken_failed _ (h (.joined before w t))

theorem fails_group_missing (p : Position) (h : chain? inside = none) :
    Fails .term (.symbol .opening p :: inside) := by
  rw [Fails, term?, h]
  exact ⟨_, rfl⟩

theorem Fails.group (h : Fails .chain inside) (p : Position) :
    Fails .term (.symbol .opening p :: inside) := by
  obtain ⟨f, h⟩ := h
  rw [Fails, term?, h]
  exact ⟨f, rfl⟩

theorem fails_group_open (p : Position) (h : Finds .chain inside rest) (hn : StaysOpen rest) :
    Fails .term (.symbol .opening p :: inside) := by
  obtain ⟨c, _, h⟩ := h
  rw [Fails, term?, h]
  obtain ⟨f, hf⟩ := exists_closed_failed (Term.group p c) _ hn
  exact ⟨f, congrArg some hf⟩

theorem Fails.aggregate (h : Fails .chains inside) (p : Position) (name : Word) (q : Position) :
    Fails .term (.symbol .dollar p :: .value name :: .symbol .opening q :: inside) := by
  obtain ⟨f, h⟩ := h
  rw [Fails, term?, h]
  exact ⟨f, rfl⟩

theorem fails_aggregate_open (p : Position) (name : Word) (q : Position)
    (h : Finds .chains inside rest) (hn : StaysOpen rest) :
    Fails .term (.symbol .dollar p :: .value name :: .symbol .opening q :: inside) := by
  obtain ⟨cs, _, h⟩ := h
  rw [Fails, term?, h]
  obtain ⟨f, hf⟩ := exists_closed_failed (Term.aggregate p name cs) _ hn
  exact ⟨f, congrArg some hf⟩

theorem fails_function_open (p : Position) (name : Word) (q : Position)
    (h : Finds .arguments inside rest) (hn : StaysOpen rest) :
    Fails .term (.symbol .percent p :: .value name :: .symbol .opening q :: inside) := by
  obtain rfl := h
  rw [Fails, term?]
  obtain ⟨f, hf⟩ := exists_closed_failed (Term.function p name (arguments inside).1) _ hn
  exact ⟨f, congrArg some hf⟩

end Steps

-- Holds if a production gives up at `rest`, and would give up before all atoms that look the same.
-- What stands before them may be carried on.
def FailsAt (n : Nonterminal) (as rest : List Atom) : Prop :=
  ∃ front, as = front ++ rest ∧ (∃ w, Derives n (front.map Atom.terminal ++ w)) ∧
    ∀ bs, SameAhead rest bs → Fails n (front ++ bs)

section Failed

variable {n m : Nonterminal} {as rest : List Atom}

-- A production gives up where one that it goes on with does.
theorem FailsAt.behind (h : FailsAt n as rest) (front : List Atom)
    (hd : ∀ u, Derives n u → ∃ w, Derives m (front.map Atom.terminal ++ (u ++ w)))
    (hf : ∀ bs, SameAhead as bs → Fails n bs → Fails m (front ++ bs)) :
    FailsAt m (front ++ as) rest := by
  obtain ⟨mid, rfl, ⟨w, hw⟩, hb⟩ := h
  obtain ⟨w', hw'⟩ := hd _ hw
  refine ⟨front ++ mid, by simp, ⟨w ++ w', by simpa using hw'⟩, fun bs hs => ?_⟩
  rw [List.append_assoc]
  exact hf _ (hs.append mid) (hb bs hs)

-- A production gives up behind what one that it goes on with has found.
theorem ReadsTo.failsAt (h : ReadsTo n as rest) (front : List Atom) (w : List Terminal)
    (hd : ∀ u, Derives n u → Derives m (front.map Atom.terminal ++ (u ++ w)))
    (hf : ∀ inside bs, SameAhead rest bs → Finds n inside bs → Fails m (front ++ inside)) :
    FailsAt m (front ++ as) rest := by
  obtain ⟨mid, rfl, hu, hb⟩ := h
  refine ⟨front ++ mid, by simp, ⟨w, by simpa using hd _ hu⟩, fun bs hs => ?_⟩
  rw [List.append_assoc]
  exact hf _ bs hs (hb bs hs)

theorem eq_failed_of_weaken {α : Type} {k l : Nat} {r : Parsed α k} {hl : k ≤ l}
    {f : ParseFailure} (h : r.weaken hl = .failed f) : r = .failed f := by
  cases r <;> cases h
  case failed => rfl

theorem failsAt_of_failed :
    (∀ as f, term? as = some (.failed f) → FailsAt .term as f.rest) ∧
    (∀ as f, chains as = .failed f → FailsAt .chains as f.rest) ∧
    (∀ as f, chain? as = some (.failed f) → FailsAt .chain as f.rest) ∧
    (∀ before as f, joins before as = .failed f → FailsAt .links as f.rest) := by
  apply term?.mutual_induct
  case case1 =>
    intro p inside hi _ f ht
    simp only [term?, hi, Option.some.injEq, Reading.failed.injEq] at ht
    subst ht
    have hd := Derives.group (.chain .fullText .noLinks)
    refine ⟨[.symbol .opening p], rfl, ⟨[.value, .symbol .closing], ?_⟩, fun bs hs => ?_⟩
    · simpa [Atom.terminal] using hd
    · exact fails_group_missing p (chain?_eq_none hs hi)
  case case2 =>
    intro p inside f' hi ih f ht
    simp only [term?, hi, Option.some.injEq, Reading.failed.injEq] at ht
    subst ht
    exact (ih f' hi).behind [.symbol .opening p] (fun u hu => ⟨[.symbol .closing], .group hu⟩)
      fun bs _ h => h.group p
  case case3 =>
    intro p inside inner rest _ hi _ f ht
    simp only [term?, hi, Option.some.injEq] at ht
    obtain ⟨hr, hn⟩ := closed_eq_failed ht
    rw [hr]
    exact (readsTo_chain hi).failsAt [.symbol .opening p] [.symbol .closing] (fun u hu => .group hu)
      fun _ bs hs h => fails_group_open p h (hn.of_sameAhead hs)
  case case4 =>
    intro p name q inside f' hi ih f ht
    simp only [term?, hi, Option.some.injEq, Reading.failed.injEq] at ht
    subst ht
    exact (ih f' hi).behind [.symbol .dollar p, .value name, .symbol .opening q]
      (fun u hu => ⟨[.symbol .closing], .aggregate hu⟩) fun bs _ h => h.aggregate p name q
  case case5 =>
    intro p name q inside contents rest _ hi _ f ht
    simp only [term?, hi, Option.some.injEq] at ht
    obtain ⟨hr, hn⟩ := closed_eq_failed ht
    rw [hr]
    exact (readsTo_chains hi).failsAt [.symbol .dollar p, .value name, .symbol .opening q]
      [.symbol .closing] (fun u hu => .aggregate hu)
      fun _ bs hs h => fails_aggregate_open p name q h (hn.of_sameAhead hs)
  case case6 =>
    intro p name q inside f ht
    simp only [term?, Option.some.injEq] at ht
    obtain ⟨hr, hn⟩ := closed_eq_failed ht
    rw [hr]
    exact (readsTo_arguments inside).failsAt [.symbol .percent p, .value name, .symbol .opening q]
      [.symbol .closing] (fun u hu => .function hu)
      fun _ bs hs h => fails_function_open p name q h (hn.of_sameAhead hs)
  case case7 =>
    intro path p value behind f ht
    simp [term?] at ht
  case case8 =>
    intro word behind f ht
    simp [term?] at ht
  case case9 =>
    intro as h₁ h₂ h₃ h₄ h₅ f ht
    rw [term?.eq_6 as h₁ h₂ h₃ h₄ h₅] at ht
    cases ht
  case case10 =>
    intro as hc _ f hcs
    simp [chains, hc] at hcs
  case case11 =>
    intro as f' hc ih f hcs
    simp only [chains, hc, Reading.failed.injEq] at hcs
    subst hcs
    exact (ih f' hc).behind [] (fun u hu => ⟨[], by simpa using hu.chains .noChains⟩)
      fun bs _ h => h.chains_head
  case case12 =>
    intro as c mid _ hc f' hr _ ih f hcs
    simp only [chains, hc, hr, Reading.failed.injEq] at hcs
    subst hcs
    obtain ⟨front, rfl, hd, hf⟩ := readsTo_chain hc
    exact (ih f' hr).behind front (fun u hu => ⟨[], by simpa using hd.chains hu⟩)
      fun bs hs h => h.chains_tail (hf bs hs)
  case case13 =>
    intro as c mid _ hc cs rest _ hr _ _ f hcs
    simp [chains, hc, hr] at hcs
  case case14 =>
    intro as ht _ f hc
    simp [chain?, ht] at hc
  case case15 =>
    intro as f' ht ih f hc
    simp only [chain?, ht, Option.some.injEq, Reading.failed.injEq] at hc
    subst hc
    exact (ih f' ht).behind [] (fun u hu => ⟨[], by simpa using hu.chain .noLinks⟩)
      fun bs _ h => h.chain_head
  case case16 =>
    intro as t mid _ ht _ ih f hc
    simp only [chain?, ht, Option.some.injEq] at hc
    have hb := ih f (eq_failed_of_weaken hc)
    obtain ⟨front, rfl, hd, hf⟩ := readsTo_term ht
    exact hb.behind front (fun u hu => ⟨[], by simpa using hd.chain hu⟩)
      fun bs hs h => h.chain_links (hf bs hs)
  case case17 =>
    intro before p connective behind ht _ f hj
    simp only [joins, ht, Reading.failed.injEq] at hj
    subst hj
    have hd := Derives.links .fullText .noLinks
    refine ⟨[.symbol .minus p, .value connective], rfl, ⟨[.value], ?_⟩, fun bs hs => ?_⟩
    · simpa [Atom.terminal] using hd
    · exact fails_links_missing p connective (term?_eq_none hs ht)
  case case18 =>
    intro before p connective behind f' ht ih f hj
    simp only [joins, ht, Reading.failed.injEq] at hj
    subst hj
    exact (ih f' ht).behind [.symbol .minus p, .value connective]
      (fun u hu => ⟨[], by simpa [Atom.terminal] using hu.links .noLinks⟩)
      fun bs _ h => h.links_head p connective
  case case19 =>
    intro before p connective behind t mid _ ht _ ih f hj
    simp only [joins, ht] at hj
    have hb := ih f (eq_failed_of_weaken hj)
    obtain ⟨front, rfl, hd, hf⟩ := readsTo_term ht
    exact hb.behind (.symbol .minus p :: .value connective :: front)
      (fun u hu => ⟨[], by simpa [Atom.terminal] using hd.links hu⟩)
      fun bs hs h => h.links_tail p connective (hf bs hs)
  case case20 =>
    intro before as hm f hj
    rw [joins.eq_2 before as hm] at hj
    cases hj

end Failed

section Whole

variable {as rest : List Atom} {f : ParseFailure}

theorem error_of_fails (h : Fails .chains as) : ∃ f, ofAtoms as = .error f := by
  obtain ⟨f, h⟩ := h
  rw [ofAtoms, h]
  exact ⟨f, rfl⟩

theorem error_of_finds {a : Atom} (h : Finds .chains as (a :: rest)) :
    ∃ f, ofAtoms as = .error f := by
  obtain ⟨cs, _, h⟩ := h
  rw [ofAtoms, h]
  exact ⟨_, rfl⟩

-- Reading a list of atoms gives up where a production does, or at what is left over.
theorem error_of_ofAtoms (h : ofAtoms as = .error f) :
    ∃ front, as = front ++ f.rest ∧ (∃ w, Derives .chains (front.map Atom.terminal ++ w)) ∧
      ∀ bs, SameAhead f.rest bs → ∃ f', ofAtoms (front ++ bs) = .error f' := by
  rw [ofAtoms] at h
  split at h
  case h_1 hc =>
    cases h
    obtain ⟨front, ha, hd, hf⟩ := failsAt_of_failed.2.1 as f hc
    exact ⟨front, ha, hd, fun bs hs => error_of_fails (hf bs hs)⟩
  case h_2 => cases h
  case h_3 hc =>
    cases h
    obtain ⟨front, ha, hd, hf⟩ := readsTo_chains hc
    refine ⟨front, ha, ⟨[], by simpa using hd⟩, fun bs hs => ?_⟩
    obtain ⟨_, rfl⟩ := hs.symm.exists_cons
    exact error_of_finds (hf _ hs)

theorem not_derives_of_error (h : ofAtoms as = .error f) :
    ¬Derives .chains (as.map Atom.terminal) := by
  intro hd
  obtain ⟨cs, hy⟩ := hd.realized as rfl
  rw [ofAtoms_eq_ok_iff.2 hy] at h
  cases h

end Whole

end Expression

section Ended

variable {us ws : List Terminal} {k : Nat}

-- Terminals with an end mark behind them.
def endMarked (us : List Terminal) : List (Option Terminal) :=
  us.map some ++ [none]

theorem length_endMarked (us : List Terminal) : (endMarked us).length = us.length + 1 := by
  simp [endMarked]

theorem take_endMarked (h : k ≤ us.length) : (endMarked us).take k = (us.take k).map some := by
  rw [endMarked, List.take_append_of_le_length (by simpa using h), List.map_take]

theorem prefix_of_map_some (h : us.map some <+: endMarked ws) : us <+: ws := by
  simpa [endMarked] using h.filterMap id

theorem eq_of_prefix_endMarked (h : endMarked us <+: endMarked ws) : us = ws := by
  obtain ⟨vs, rfl⟩ := prefix_of_map_some ((List.prefix_append _ [none]).trans h)
  cases vs
  case nil       => simp
  case cons v vs => simp [endMarked] at h

-- An atom that the grammar takes for a terminal.
def atomOf : Terminal → Atom
  | .symbol s => .symbol s .start
  | .path     => .path ⟨"/", .start⟩
  | .value    => .value ⟨"", .start⟩

theorem terminal_comp_atomOf : Atom.terminal ∘ atomOf = id := by
  funext u
  cases u <;> rfl

-- What stands for terminals that go on differently does not begin with these atoms and the three
-- behind them, or with all atoms and the end.
theorem not_prefix_of_sameAhead {front rest : List Atom} {w : List Terminal}
    (hw : ∀ bs, Expression.SameAhead rest bs → (front ++ bs).map Atom.terminal ≠ w) :
    ¬(endMarked ((front ++ rest).map Atom.terminal)).take
      (min (front.length + 2) (front ++ rest).length + 1) <+: endMarked w := by
  intro h
  by_cases hl : front.length + 2 < (front ++ rest).length
  case pos =>
    have hk : front.length + 3 ≤ ((front ++ rest).map Atom.terminal).length := by
      rw [List.length_map]
      exact hl
    rw [Nat.min_eq_left (Nat.le_of_lt hl), take_endMarked hk] at h
    obtain ⟨vs, rfl⟩ := prefix_of_map_some h
    rw [← List.map_take, List.take_length_add_append] at hw
    have hr : 3 ≤ rest.length := by simpa using hk
    exact hw (rest.take 3 ++ vs.map atomOf) (by simp [Expression.SameAhead, hr])
      (by simp [terminal_comp_atomOf])
  case neg =>
    have hk := length_endMarked ((front ++ rest).map Atom.terminal)
    rw [List.length_map] at hk
    rw [Nat.min_eq_right (Nat.not_lt.1 hl), List.take_of_length_le (Nat.le_of_eq hk)] at h
    exact hw rest rfl (eq_of_prefix_endMarked h)

end Ended

section Source

variable {source : String} {tokens : List Token}

-- The tokens that are no blanks are those that have atoms.
theorem map_atom?_filter (ts : List Token) :
    (ts.filter (!·.isSpace)).map Token.atom? = (ts.filterMap Token.atom?).map some := by
  induction ts
  case nil => rfl
  case cons t ts ih =>
    cases t.atom?_cases
    case inl h =>
      obtain ⟨hs, ha⟩ := h
      simpa [hs, ha] using ih
    case inr h =>
      obtain ⟨a, hs, ha, -⟩ := h
      rw [List.filter_cons_of_pos (by simpa using hs), List.filterMap_cons_some ha, List.map_cons,
        List.map_cons, ha, ih]

theorem ParseFailure.kind_fault (f : ParseFailure) :
    f.fault.kind = if f.rest = [] then .unexpectedEnd else .unexpectedToken := by
  cases f
  case missing expected rest => cases rest <;> rfl
  case leftover              => rfl

-- Holds if an error points at the token behind the first `i`, or at the end of the source if there
-- are no more.
structure PointsBehind (i : Nat) (source : String) (ts : List Token) (e : SyntaxError) : Prop where
  le    : i ≤ ts.length
  token : ∀ t ∈ ts[i]?, (e.kind = .unexpectedToken) ∧ (e.place.map (·.position) = some t.start)
  ends  : (i = ts.length) → (e.kind = .unexpectedEnd) ∧
    (e.place.map (·.position) = some (.locate source source.utf8ByteSize))

theorem pointsBehind_of_ofAtoms {front : List Atom} {f : ParseFailure}
    (ha : tokens.filterMap Token.atom? = front ++ f.rest) :
    PointsBehind front.length source (tokens.filter (!·.isSpace))
      (.ofFault f.fault source (f.position source)) := by
  have hm := map_atom?_filter tokens
  rw [ha] at hm
  have hl := congrArg List.length hm
  simp only [List.length_map, List.length_append] at hl
  have hi := congrArg (·[front.length]?) hm
  simp only [List.getElem?_map, List.getElem?_append_right (Nat.le_refl _), Nat.sub_self] at hi
  constructor
  case le => omega
  case token =>
    intro t ht
    rw [Option.mem_def.1 ht] at hi
    cases hr : f.rest <;> rw [hr] at hi
    case nil => simp at hi
    case cons a rest =>
      have hp : f.position source = t.start := by
        rw [ParseFailure.position, hr]
        exact Token.position_of_atom? (Option.some.inj hi)
      exact ⟨f.kind_fault.trans (if_neg (by simp [hr])), congrArg some hp⟩
  case ends =>
    intro hn
    have hr : f.rest = [] := List.length_eq_zero_iff.1 (by omega)
    have hp : f.position source = .locate source source.utf8ByteSize := by
      rw [ParseFailure.position, hr, Position.locate_utf8ByteSize]
    exact ⟨f.kind_fault.trans (if_pos hr), congrArg some hp⟩

-- What cannot be read is blamed on a token, or else on the end of the source. Those in front of it
-- may be carried on to what the grammar derives, but not together with it and the two behind it, of
-- which one may be the end.
theorem parse_error_placed {e : SyntaxError} (ht : tokenize source = .ok tokens)
    (he : parse source = .error e) :
    let us := tokens.filterMap (·.kind.terminal?)
    ∃ i, PointsBehind i source (tokens.filter (!·.isSpace)) e ∧
      (∃ w, Derives .chains (us.take i ++ w)) ∧
      ∀ w, Derives .chains w →
        ¬(endMarked us).take (min (i + 2) us.length + 1) <+: endMarked w := by
  obtain ⟨f, hf, rfl⟩ := (parse_eq_error_iff ht).1 he
  obtain ⟨front, ha, hd, hn⟩ := Expression.error_of_ofAtoms hf
  refine ⟨front.length, pointsBehind_of_ofAtoms ha, ?_, ?_⟩
  · rw [← map_terminal_atoms, ha, List.map_append, ← List.length_map Atom.terminal,
      List.take_left]
    exact hd
  · rw [← map_terminal_atoms, ha, List.length_map]
    intro w hw
    refine not_prefix_of_sameAhead fun bs hb he => ?_
    obtain ⟨_, hb⟩ := hn bs hb
    exact Expression.not_derives_of_error hb (he ▸ hw)

-- A function without its bracket. It is told of the sign before the name, though only the token
-- behind the name cannot stand there.
theorem parse_error_placed_function :
    let tokens := Token.place .start [⟨.value "a" none, ['a']⟩, ⟨.space, [' ']⟩,
      ⟨.symbol .percent, ['%']⟩, ⟨.value "b" none, ['b']⟩, ⟨.space, [' ']⟩,
      ⟨.value "c" none, ['c']⟩, ⟨.space, [' ']⟩, ⟨.value "d" none, ['d']⟩]
    let us := tokens.filterMap (·.kind.terminal?)
    ∃ e, (tokenize "a %b c d" = .ok tokens) ∧ (parse "a %b c d" = .error e) ∧
      ∃ i, PointsBehind i "a %b c d" (tokens.filter (!·.isSpace)) e ∧
        (∃ w, Derives .chains (us.take i ++ w)) ∧
        ∀ w, Derives .chains w →
          ¬(endMarked us).take (min (i + 2) us.length + 1) <+: endMarked w := by
  intro tokens us
  have ht : tokenize "a %b c d" = .ok tokens := by decide +kernel
  have hf : Expression.ofAtoms (tokens.filterMap Token.atom?) =
      .error (.leftover (.symbol .percent ⟨1, 3, 2⟩)
        [.value ⟨"b", ⟨1, 4, 3⟩⟩, .value ⟨"c", ⟨1, 6, 5⟩⟩, .value ⟨"d", ⟨1, 8, 7⟩⟩]) := by
    have ha : tokens.filterMap Token.atom? = [.value ⟨"a", ⟨1, 1, 0⟩⟩, .symbol .percent ⟨1, 3, 2⟩,
        .value ⟨"b", ⟨1, 4, 3⟩⟩, .value ⟨"c", ⟨1, 6, 5⟩⟩, .value ⟨"d", ⟨1, 8, 7⟩⟩] := by
      decide +kernel
    rw [ha]
    cbv
  have he := (parse_eq_error_iff ht).2 ⟨_, hf, rfl⟩
  exact ⟨_, ht, he, parse_error_placed ht he⟩

end Source

end EntitySearch
