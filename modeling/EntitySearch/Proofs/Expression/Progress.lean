import EntitySearch.Proofs.Expression.Cursor

namespace EntitySearch

namespace Cursor

section Progress

variable {α β γ σ : Type} {atoms rest : List Atom} {n m : Nat}

-- What a production may come to that finds something or nothing: nothing, with the cursor where it
-- was, something, with the cursor moved on but not past the end, or an error.
inductive Atomic (atoms : List Atom) (cursor : Nat) (p : Production (Option α)) : Prop
  | nothing :
    (Comes p cursor (.ok (none, cursor))) → Atomic atoms cursor p
  | node {x : α} {cursor' : Nat} :
    (Comes p cursor (.ok (some x, cursor'))) → (cursor < cursor') → (cursor' ≤ atoms.length) →
    Atomic atoms cursor p
  | failed {f : ParseFailure} :
    (Comes p cursor (.error f)) → Atomic atoms cursor p

-- Holds of where a production leaves the cursor, or of its error.
def Halts (p : Production α) (cursor : Nat) (r : Except ParseFailure Nat) : Prop :=
  ∃ outcome, (Comes p cursor outcome) ∧ (outcome.map Prod.snd = r)

-- A loop that goes round for as long as its condition finds something, with a body that uses it:
-- from a cursor, so many rounds, of which the last may fail, to where the cursor is left or to an
-- error.
inductive Runs (condition : Production (Option α)) (body : α → Production β) :
    Nat → Nat → Except ParseFailure Nat → Prop
  | stop {n m : Nat} :
    (Comes condition n (.ok (none, m))) → Runs condition body n 0 (.ok m)
  | unfit {n : Nat} {f : ParseFailure} :
    (Comes condition n (.error f)) → Runs condition body n 0 (.error f)
  | broken {n m : Nat} {x : α} {f : ParseFailure} :
    (Comes condition n (.ok (some x, m))) → (Comes (body x) m (.error f)) →
    Runs condition body n 1 (.error f)
  | round {n m l k : Nat} {x : α} {y : β} {r : Except ParseFailure Nat} :
    (Comes condition n (.ok (some x, m))) → (Comes (body x) m (.ok (y, l))) →
    (Runs condition body l k r) → Runs condition body n (k + 1) r

-- Holds if a loop comes to an end within as many rounds as there are atoms from the cursor on.
def RunsOut (atoms : List Atom) (cursor : Nat) (condition : Production (Option α))
    (body : α → Production β) (loop : Production γ) : Prop :=
  ∃ rounds r, (Runs condition body cursor rounds r) ∧ (cursor + rounds ≤ atoms.length) ∧
    (Halts loop cursor r)

-- What productions do that start at a cursor.
structure Progress (atoms : List Atom) (cursor : Nat) : Prop where
  matchForward : ∀ pattern, pattern ≠ [] → Atomic atoms cursor fun _ => matchForward atoms pattern
  term         : Atomic atoms cursor (term? atoms)
  chain        : Atomic atoms cursor (chain? atoms)
  aggregate    : Atomic atoms cursor (aggregate? atoms)
  function     : Atomic atoms cursor (function? atoms)
  property     : Atomic atoms cursor fun _ => property? atoms
  fullText     : Atomic atoms cursor fun _ => fullText? atoms
  chains       : RunsOut atoms cursor (chain? atoms) (fun c _ => return c) (chains atoms)
  joins        : ∀ before, RunsOut atoms cursor (fun _ => connective? atoms) (operand atoms)
    (joins atoms before)
  arguments    : RunsOut atoms cursor (fun _ => argument? atoms) (fun a _ => return a)
    (arguments atoms)

section Atomic

-- Cursors that are not past the end are the cursors before the last atoms.
theorem atomic_of_suffix {p : Production (Option α)}
    (hp : ∀ rest, rest <:+ atoms → Atomic atoms (cursorAt atoms rest) p) (h : n ≤ atoms.length) :
    Atomic atoms n p := by
  have ha := hp _ (List.drop_suffix n atoms)
  rwa [cursorAt_drop h] at ha

theorem atomic_of_agrees? {p : Production (Option α)}
    {r : Option (Expression.Parsed α rest.length)} (hr : rest <:+ atoms)
    (h : Agrees? atoms rest p r) : Atomic atoms (cursorAt atoms rest) p := by
  cases r
  case none => exact .nothing h
  case some r =>
    cases r
    case failed f => exact .failed h
    case found x behind fewer =>
      have := hr.length_le
      refine .node h ?_ (Nat.sub_le _ _)
      simp only [cursorAt]
      omega

-- A pattern that is taken moves the cursor on.
theorem cursorAt_lt_of_map {window behind : List Atom} {pattern : List Terminal}
    (hr : window ++ behind <:+ atoms) (hw : window.map Atom.terminal = pattern)
    (hp : pattern ≠ []) : cursorAt atoms (window ++ behind) < cursorAt atoms behind := by
  rw [← cursorAt_append hr]
  refine Nat.lt_add_of_pos_right (List.length_pos_of_ne_nil fun hn => hp ?_)
  rw [← hw, hn, List.map_nil]

theorem atomic_matchForward (hr : rest <:+ atoms) {pattern : List Terminal} (hp : pattern ≠ []) :
    Atomic atoms (cursorAt atoms rest) fun _ => matchForward atoms pattern := by
  by_cases hw : ∃ window behind, rest = window ++ behind ∧ window.map Atom.terminal = pattern
  case pos =>
    obtain ⟨window, behind, rfl, hw⟩ := hw
    have hm := comes_of_outcome? (matchForward_of_eq window hr hw)
    exact .node hm (cursorAt_lt_of_map hr hw hp) (Nat.sub_le _ _)
  case neg =>
    have hm := matchForward_of_ne hr fun window behind he ht => hw ⟨window, behind, he, ht⟩
    exact .nothing (comes_of_outcome? hm)

-- The same if a node is made of what is taken.
theorem atomic_readForward (hr : rest <:+ atoms) {pattern : List Terminal}
    {node : List Atom → Option α} (hp : pattern ≠ [])
    (hn : ∀ window, window.map Atom.terminal = pattern → ∃ x, node window = some x) :
    Atomic atoms (cursorAt atoms rest) fun _ => readForward atoms pattern node := by
  by_cases hw : ∃ window behind, rest = window ++ behind ∧ window.map Atom.terminal = pattern
  case pos =>
    obtain ⟨window, behind, rfl, hw⟩ := hw
    obtain ⟨x, hx⟩ := hn window hw
    have hm : Comes (fun _ => readForward atoms pattern node) _ _ :=
      comes_of_outcome? (readForward_of_eq window hr hw)
    rw [hx] at hm
    exact .node hm (cursorAt_lt_of_map hr hw hp) (Nat.sub_le _ _)
  case neg =>
    refine .nothing (comes_of_outcome? (readForward_of_ne hr fun window behind he ht => ?_))
    exact hw ⟨window, behind, he, ht⟩

theorem atomic_fullText? (hr : rest <:+ atoms) :
    Atomic atoms (cursorAt atoms rest) fun _ => fullText? atoms := by
  refine atomic_readForward hr (by simp) fun window hw => ?_
  obtain ⟨word, rfl⟩ := eq_of_map_fullText hw
  exact ⟨_, rfl⟩

theorem atomic_property? (hr : rest <:+ atoms) :
    Atomic atoms (cursorAt atoms rest) fun _ => property? atoms := by
  refine atomic_readForward hr (by simp) fun window hw => ?_
  obtain ⟨path, p, value, rfl⟩ := eq_of_map_property hw
  exact ⟨_, rfl⟩

theorem atomic_argument? (hr : rest <:+ atoms) :
    Atomic atoms (cursorAt atoms rest) fun _ => argument? atoms := by
  refine atomic_readForward hr (by simp) fun window hw => ?_
  obtain ⟨key, p, value, rfl⟩ := eq_of_map_argument hw
  exact ⟨_, rfl⟩

theorem atomic_connective? (hr : rest <:+ atoms) :
    Atomic atoms (cursorAt atoms rest) fun _ => connective? atoms := by
  refine atomic_readForward hr (by simp) fun window hw => ?_
  obtain ⟨p, connective, rfl⟩ := eq_of_map_connective hw
  exact ⟨_, rfl⟩

theorem atomic_function? (hr : rest <:+ atoms) :
    Atomic atoms (cursorAt atoms rest) (function? atoms) := by
  by_cases hw : ∃ p name q inside,
    rest = .symbol .percent p :: .value name :: .symbol .opening q :: inside
  case pos =>
    obtain ⟨p, name, q, inside, rfl⟩ := hw
    have hl := Expression.length_arguments_le inside
    refine atomic_of_agrees? hr (agrees_function? hr _ ?_)
    simp only [List.length_cons]
    omega
  case neg => exact .nothing (function?_of_ne hr fun _ _ _ _ he => hw ⟨_, _, _, _, he⟩)

theorem atomic_aggregate? (hr : rest <:+ atoms) :
    Atomic atoms (cursorAt atoms rest) (aggregate? atoms) := by
  by_cases hw : ∃ p name q inside,
    rest = .symbol .dollar p :: .value name :: .symbol .opening q :: inside
  case pos =>
    obtain ⟨p, name, q, inside, rfl⟩ := hw
    have hin := suffix_of_append [.symbol .dollar p, .value name, .symbol .opening q] hr
    exact atomic_of_agrees? hr (agrees_aggregate? hr (allAgree hin).chains)
  case neg => exact .nothing (aggregate?_of_ne hr fun _ _ _ _ he => hw ⟨_, _, _, _, he⟩)

theorem atomic_term? (h : n ≤ atoms.length) : Atomic atoms n (term? atoms) :=
  atomic_of_suffix (fun _ hr => atomic_of_agrees? hr (allAgree hr).term) h

theorem atomic_chain? (h : n ≤ atoms.length) : Atomic atoms n (chain? atoms) :=
  atomic_of_suffix (fun _ hr => atomic_of_agrees? hr (allAgree hr).chain) h

end Atomic

section Loops

variable {condition : Production (Option α)} {body : α → Production β} {loop : σ → Production γ}

-- What a production may come to that has to find something.
inductive Settles (atoms : List Atom) (cursor : Nat) (p : Production α) : Prop
  | done {x : α} {cursor' : Nat} :
    (Comes p cursor (.ok (x, cursor'))) → (cursor ≤ cursor') → (cursor' ≤ atoms.length) →
    Settles atoms cursor p
  | failed {f : ParseFailure} :
    (Comes p cursor (.error f)) → Settles atoms cursor p

-- A loop with something that changes from round to round.
structure IsLoop (condition : Production (Option α)) (body : α → Production β)
    (loop : σ → Production γ) : Prop where
  stop   : ∀ s n m, Comes condition n (.ok (none, m)) → Halts (loop s) n (.ok m)
  unfit  : ∀ s n f, Comes condition n (.error f) → Halts (loop s) n (.error f)
  broken : ∀ s n x m f, Comes condition n (.ok (some x, m)) → Comes (body x) m (.error f) →
    Halts (loop s) n (.error f)
  round  : ∀ s n x m y l, Comes condition n (.ok (some x, m)) → Comes (body x) m (.ok (y, l)) →
    ∃ s', ∀ r, Halts (loop s') l r → Halts (loop s) n r

-- A loop runs out if its condition is atomic, since each round moves the cursor on.
theorem IsLoop.runsOut (hl : IsLoop condition body loop)
    (hc : ∀ n ≤ atoms.length, Atomic atoms n condition)
    (hb : ∀ x, ∀ n ≤ atoms.length, Settles atoms n (body x)) (s : σ) (h : n ≤ atoms.length) :
    RunsOut atoms n condition body (loop s) := by
  induction hk : atoms.length - n using Nat.strongRecOn generalizing n s
  case ind k ih =>
    subst hk
    cases hc n h
    case nothing hn => exact ⟨0, .ok n, .stop hn, h, hl.stop s n n hn⟩
    case failed f hf => exact ⟨0, .error f, .unfit hf, h, hl.unfit s n f hf⟩
    case node x m hx hlt hle =>
      cases hb x m hle
      case failed f hf =>
        exact ⟨1, .error f, .broken hx hf, by omega, hl.broken s n x m f hx hf⟩
      case done y l hy hml hll =>
        obtain ⟨s', hs⟩ := hl.round s n x m y l hx hy
        obtain ⟨k, r, hr, hkl, he⟩ := ih (atoms.length - l) (by omega) s' hll rfl
        exact ⟨k + 1, r, .round hx hy hr, by omega, hs r he⟩

theorem Halts.bind_pure {p : Production α} {r : Except ParseFailure Nat} {g : α → β}
    (h : Halts p n r) : Halts (fun calls => do return g (← p calls)) n r := by
  obtain ⟨outcome, hp, rfl⟩ := h
  cases outcome
  case error e => exact ⟨_, .bind_error hp, rfl⟩
  case ok x    => exact ⟨_, .bind hp comes_pure, rfl⟩

theorem settles_pure (x : α) (h : n ≤ atoms.length) : Settles atoms n (fun _ => return x) :=
  .done comes_pure (Nat.le_refl n) h

theorem eq_of_comes_pure {x : α} {r : Except ParseFailure (α × Nat)}
    (h : Comes (fun _ => return x) n r) : r = .ok (x, n) :=
  h.unique comes_pure

-- A loop that collects what its condition finds.
theorem isLoop_of_collects {loop : Production (List α)} {f : Nat → Option α → Step (List α)}
    (h : ∀ calls, loop (calls + 1) = condition calls >>= f calls)
    (hn : ∀ calls, f calls none = return [])
    (hs : ∀ calls x, f calls (some x) = do return x :: (← loop calls)) :
    IsLoop condition (fun x _ => return x) (fun _ : Unit => loop) where
  stop s n m hx := by
    refine ⟨.ok ([], m), comes_of_succ h (.bind hx ?_), rfl⟩
    simp only [hn]
    exact comes_pure
  unfit s n f hx := ⟨_, comes_of_succ h (.bind_error hx), rfl⟩
  broken s n x m f hx hf := by cases eq_of_comes_pure hf
  round s n x m y l hx hy := by
    cases eq_of_comes_pure hy
    refine ⟨(), fun r hr => ?_⟩
    obtain ⟨outcome, hp, he⟩ := hr.bind_pure (g := (x :: ·))
    refine ⟨outcome, comes_of_succ h (.bind hx ?_), he⟩
    simp only [hs]
    exact hp

theorem isLoop_joins (atoms : List Atom) :
    IsLoop (fun _ => connective? atoms) (operand atoms) (joins atoms) where
  stop before n m hx := ⟨_, comes_of_succ (joins.eq_2 atoms before) (.bind hx comes_pure), rfl⟩
  unfit before n f hx := ⟨_, comes_of_succ (joins.eq_2 atoms before) (.bind_error hx), rfl⟩
  broken before n connective m f hx hf :=
    ⟨_, comes_of_succ (joins.eq_2 atoms before) (.bind hx (.bind_error hf)), rfl⟩
  round before n connective m t l hx ht := by
    refine ⟨.joined before connective t, fun r hr => ?_⟩
    obtain ⟨outcome, hj, he⟩ := hr
    exact ⟨outcome, comes_of_succ (joins.eq_2 atoms before) (.bind hx (.bind ht hj)), he⟩

theorem settles_operand (connective : Word) (h : Atomic atoms n (term? atoms)) :
    Settles atoms n (operand atoms connective) := by
  cases h
  case nothing hn =>
    refine .failed (f := .missing (.operand connective.content) (atoms.drop n)) ?_
    exact comes_of_succ (operand.eq_2 atoms connective) (.bind hn (comes_of_outcome? rfl))
  case node t m ht hlt hle =>
    refine .done (x := t) ?_ (Nat.le_of_lt hlt) hle
    exact comes_of_succ (operand.eq_2 atoms connective) (.bind ht comes_pure)
  case failed f hf =>
    exact .failed (comes_of_succ (operand.eq_2 atoms connective) (.bind_error hf))

end Loops

theorem progress (h : n ≤ atoms.length) : Progress atoms n where
  matchForward pattern hp := atomic_of_suffix (fun _ hr => atomic_matchForward hr hp) h
  term      := atomic_term? h
  chain     := atomic_chain? h
  aggregate := atomic_of_suffix (fun _ hr => atomic_aggregate? hr) h
  function  := atomic_of_suffix (fun _ hr => atomic_function? hr) h
  property  := atomic_of_suffix (fun _ hr => atomic_property? hr) h
  fullText  := atomic_of_suffix (fun _ hr => atomic_fullText? hr) h
  chains    := by
    have hl := isLoop_of_collects (chains.eq_2 atoms) (fun _ => rfl) fun _ _ => rfl
    exact hl.runsOut (fun _ => atomic_chain?) (fun c _ => settles_pure c) () h
  joins before :=
    (isLoop_joins atoms).runsOut (fun _ => atomic_of_suffix fun _ => atomic_connective?)
      (fun connective _ hm => settles_operand connective (atomic_term? hm)) before h
  arguments := by
    have hl := isLoop_of_collects (arguments.eq_2 atoms) (fun _ => rfl) fun _ _ => rfl
    exact hl.runsOut (fun _ => atomic_of_suffix fun _ => atomic_argument?)
      (fun a _ => settles_pure a) () h

-- All productions are atomic and make progress, at each cursor that is not past the end. So their
-- loops run out, and reading a source text comes to an end, with just what is read.
theorem productions_progress :
    (∀ (atoms : List Atom) (cursor : Nat), cursor ≤ atoms.length → Progress atoms cursor) ∧
    ∀ source, ∃ depth, ∀ calls, depth ≤ calls → parse? calls source = some (parse source) :=
  ⟨fun _ _ => progress, comes_parse⟩

-- The atoms of the text "$every(a -and b)" from the argument on.
theorem productions_progress_aggregate :
    let atoms : List Atom := [
      .symbol .dollar ⟨1, 1, 0⟩, .value ⟨"every", ⟨1, 2, 1⟩⟩, .symbol .opening ⟨1, 7, 6⟩,
      .value ⟨"a", ⟨1, 8, 7⟩⟩, .symbol .minus ⟨1, 10, 9⟩, .value ⟨"and", ⟨1, 11, 10⟩⟩,
      .value ⟨"b", ⟨1, 15, 14⟩⟩, .symbol .closing ⟨1, 16, 15⟩]
    (3 ≤ atoms.length) ∧ (Progress atoms 3) ∧
      ∃ depth, ∀ calls, depth ≤ calls →
        parse? calls "$every(a -and b)" = some (parse "$every(a -and b)") := by
  intro atoms
  have h : 3 ≤ atoms.length := by decide
  exact ⟨h, productions_progress.1 atoms 3 h, productions_progress.2 _⟩

end Progress

end Cursor

end EntitySearch
