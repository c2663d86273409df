import EntitySearch.Proofs.Expression.Parsing

namespace EntitySearch

namespace Cursor

-- What reads something at a cursor and moves the cursor, or fails, or does not come to an end.
abbrev Step (α : Type) := StateT Nat (ExceptT ParseFailure Option) α

-- What is read by calling one production from another, for each number of calls that may stand in
-- each other. Where one more is needed, it does not come to an end.
abbrev Production (α : Type) := Nat → Step α

section Productions

variable (atoms : List Atom)

-- Takes the atoms at the cursor if they are those of a pattern.
def matchForward (pattern : List Terminal) : Step (Option (List Atom)) := do
  let cursor ← get
  let window := (atoms.drop cursor).take pattern.length
  if window.map Atom.terminal = pattern then
    set (cursor + pattern.length)
    return some window
  else return none

-- Fails at the cursor unless something has been found.
def must {α : Type} (expected : Expectation) : Option α → Step α
  | some found => return found
  | none => do throw (.missing expected (atoms.drop (← get)))

def mustClose : Step Unit := do
  let _ ← must atoms .closing (← matchForward atoms [.symbol .closing])

-- Reads a pattern.
def readForward {α : Type} (pattern : List Terminal) (node : List Atom → Option α) :
    Step (Option α) := do
  match ← matchForward atoms pattern with
  | some window => return node window
  | none => return none

def fullText? : Step (Option Term) :=
  readForward atoms [.value] fun
    | [.value word] => some (.fullText word)
    | _ => none

def property? : Step (Option Term) :=
  readForward atoms [.path, .symbol .equals, .value] fun
    | [.path path, _, .value value] => some (.property path value)
    | _ => none

-- A further argument, for which the loop of a function goes on.
def argument? : Step (Option (Word × Word)) :=
  readForward atoms [.value, .symbol .equals, .value] fun
    | [.value key, _, .value value] => some (key, value)
    | _ => none

-- A further connective, for which the loop of a chain goes on.
def connective? : Step (Option Word) :=
  readForward atoms [.symbol .minus, .value] fun
    | [_, .value connective] => some connective
    | _ => none

-- Goes on and on.
def endless {α : Type} : Step α :=
  fun _ => none

-- The loop of a function.
def arguments : Production (List (Word × Word))
  | 0 => endless
  | calls + 1 => do
    match ← argument? atoms with
    | some a => return a :: (← arguments calls)
    | none => return []

def function? : Production (Option Term) := fun calls => do
  match ← matchForward atoms [.symbol .percent, .value, .symbol .opening] with
  | some [.symbol _ p, .value name, _] =>
    let args ← arguments atoms calls
    mustClose atoms
    return some (.function p name args)
  | _ => return none

mutual

def term? : Production (Option Term)
  | 0 => endless
  | calls + 1 => do
    match ← matchForward atoms [.symbol .opening] with
    | some [.symbol _ p] =>
      let inner ← must atoms .groupContent (← chain? calls)
      mustClose atoms
      return some (.group p inner)
    | _ =>
      match ← aggregate? calls with
      | some t => return some t
      | none =>
        match ← function? atoms calls with
        | some t => return some t
        | none =>
          match ← property? atoms with
          | some t => return some t
          | none => fullText? atoms

def aggregate? : Production (Option Term)
  | 0 => endless
  | calls + 1 => do
    match ← matchForward atoms [.symbol .dollar, .value, .symbol .opening] with
    | some [.symbol _ p, .value name, _] =>
      let contents ← chains calls
      mustClose atoms
      return some (.aggregate p name contents)
    | _ => return none

def chain? : Production (Option Chain)
  | 0 => endless
  | calls + 1 => do
    match ← term? calls with
    | some t => return some (← joins (.operand t) calls)
    | none => return none

-- The term that has to follow a connective.
def operand (connective : Word) : Production Term
  | 0 => endless
  | calls + 1 => do must atoms (.operand connective.content) (← term? calls)

-- The loop of a chain.
def joins (before : Chain) : Production Chain
  | 0 => endless
  | calls + 1 => do
    match ← connective? atoms with
    | some connective => joins (.joined before connective (← operand connective calls)) calls
    | none => return before

-- The loop of an aggregate, and of a whole source text.
def chains : Production (List Chain)
  | 0 => endless
  | calls + 1 => do
    match ← chain? calls with
    | some c => return c :: (← chains calls)
    | none => return []

end

def top : Production (List Chain) := fun calls => do
  let cs ← chains atoms calls
  match atoms.drop (← get) with
  | [] => return cs
  | a :: rest => throw (.leftover a rest)

end Productions

section Outcomes

variable {α β : Type} {p : Step α} {f : α → Step β} {x : α} {n m : Nat} {e : ParseFailure}

-- What comes of reading at a cursor: an error, or what is read and where the cursor is then. There
-- is no outcome if reading does not come to an end.
def Step.outcome? (p : Step α) (cursor : Nat) : Option (Except ParseFailure (α × Nat)) :=
  p cursor

theorem outcome?_pure : (pure x : Step α).outcome? n = some (.ok (x, n)) :=
  rfl

theorem outcome?_bind_of_ok (h : p.outcome? n = some (.ok (x, m))) :
    (p >>= f).outcome? n = (f x).outcome? m := by
  have hb : (p >>= f).outcome? n = ExceptT.bindCont (fun r => f r.1 r.2) =<< p.outcome? n := rfl
  rw [hb, h]
  rfl

theorem outcome?_bind_of_error (h : p.outcome? n = some (.error e)) :
    (p >>= f).outcome? n = some (.error e) := by
  have hb : (p >>= f).outcome? n = ExceptT.bindCont (fun r => f r.1 r.2) =<< p.outcome? n := rfl
  rw [hb, h]
  rfl

end Outcomes

section Comes

variable {α β : Type} {p q : Production α} {f : Nat → α → Step β} {x : α} {n m : Nat}
variable {r : Except ParseFailure (α × Nat)} {r' : Except ParseFailure (β × Nat)} {e : ParseFailure}

-- Holds of the outcome of a production. It comes to it as soon as so many calls may stand in each
-- other as there are.
def Comes (p : Production α) (cursor : Nat) (r : Except ParseFailure (α × Nat)) : Prop :=
  ∃ depth, ∀ calls, depth ≤ calls → (p calls).outcome? cursor = some r

theorem comes_of_outcome? {p : Step α} (h : p.outcome? n = some r) : Comes (fun _ => p) n r :=
  ⟨0, fun _ _ => h⟩

theorem comes_pure : Comes (fun _ => pure x) n (.ok (x, n)) :=
  comes_of_outcome? outcome?_pure

theorem Comes.unique {r r' : Except ParseFailure (α × Nat)} (h : Comes p n r)
    (h' : Comes p n r') : r = r' := by
  obtain ⟨k, h⟩ := h
  obtain ⟨l, h'⟩ := h'
  have hr := h (max k l) (Nat.le_max_left k l)
  rw [h' (max k l) (Nat.le_max_right k l)] at hr
  exact (Option.some.inj hr).symm

theorem Comes.bind (hp : Comes p n (.ok (x, m))) (hf : Comes (fun calls => f calls x) m r') :
    Comes (fun calls => p calls >>= f calls) n r' := by
  obtain ⟨k, hp⟩ := hp
  obtain ⟨l, hf⟩ := hf
  refine ⟨max k l, fun calls hc => ?_⟩
  rw [outcome?_bind_of_ok (hp calls (Nat.le_trans (Nat.le_max_left k l) hc))]
  exact hf calls (Nat.le_trans (Nat.le_max_right k l) hc)

theorem Comes.bind_error (hp : Comes p n (.error e)) :
    Comes (fun calls => p calls >>= f calls) n (.error e) := by
  obtain ⟨k, hp⟩ := hp
  exact ⟨k, fun calls hc => outcome?_bind_of_error (hp calls hc)⟩

-- A production comes to what it comes to with one call less for those it calls.
theorem comes_of_succ (h : ∀ calls, p (calls + 1) = q calls) (hq : Comes q n r) : Comes p n r := by
  obtain ⟨k, hq⟩ := hq
  refine ⟨k + 1, fun calls hc => ?_⟩
  cases calls
  case zero       => exact absurd hc (Nat.not_succ_le_zero k)
  case succ calls => rw [h]; exact hq calls (Nat.le_of_succ_le_succ hc)

end Comes

section Matching

variable {atoms rest window : List Atom} {pattern : List Terminal} {s : Symbol}

-- The cursor before the last atoms of all.
def cursorAt (atoms rest : List Atom) : Nat :=
  atoms.length - rest.length

theorem drop_cursorAt (h : rest <:+ atoms) : atoms.drop (cursorAt atoms rest) = rest :=
  (List.suffix_iff_eq_drop.1 h).symm

theorem cursorAt_drop {n : Nat} (h : n ≤ atoms.length) : cursorAt atoms (atoms.drop n) = n := by
  rw [cursorAt, List.length_drop]
  omega

theorem cursorAt_append (h : window ++ rest <:+ atoms) :
    cursorAt atoms (window ++ rest) + window.length = cursorAt atoms rest := by
  have := h.length_le
  simp only [cursorAt, List.length_append] at this ⊢
  omega

theorem terminal_eq_symbol {a : Atom} : a.terminal = .symbol s ↔ ∃ p, a = .symbol s p :=
  ⟨Atom.exists_symbol, by rintro ⟨p, rfl⟩; rfl⟩

theorem terminal_eq_path {a : Atom} : a.terminal = .path ↔ ∃ w, a = .path w :=
  ⟨Atom.exists_path, by rintro ⟨w, rfl⟩; rfl⟩

theorem terminal_eq_value {a : Atom} : a.terminal = .value ↔ ∃ w, a = .value w :=
  ⟨Atom.exists_value, by rintro ⟨w, rfl⟩; rfl⟩

-- The atoms of each pattern that the grammar has.
theorem eq_of_map_symbol (h : window.map Atom.terminal = [.symbol s]) :
    ∃ p, window = [.symbol s p] := by
  simp only [List.map_eq_cons_iff, List.map_eq_nil_iff, terminal_eq_symbol] at h
  obtain ⟨_, _, rfl, ⟨p, rfl⟩, rfl⟩ := h
  exact ⟨p, rfl⟩

theorem eq_of_map_fullText (h : window.map Atom.terminal = [.value]) :
    ∃ word, window = [.value word] := by
  simp only [List.map_eq_cons_iff, List.map_eq_nil_iff, terminal_eq_value] at h
  obtain ⟨_, _, rfl, ⟨word, rfl⟩, rfl⟩ := h
  exact ⟨word, rfl⟩

theorem eq_of_map_property (h : window.map Atom.terminal = [.path, .symbol .equals, .value]) :
    ∃ path p value, window = [.path path, .symbol .equals p, .value value] := by
  simp only [List.map_eq_cons_iff, List.map_eq_nil_iff, terminal_eq_path, terminal_eq_symbol,
    terminal_eq_value] at h
  obtain ⟨_, _, rfl, ⟨path, rfl⟩, _, _, rfl, ⟨p, rfl⟩, _, _, rfl, ⟨value, rfl⟩, rfl⟩ := h
  exact ⟨path, p, value, rfl⟩

theorem eq_of_map_argument (h : window.map Atom.terminal = [.value, .symbol .equals, .value]) :
    ∃ key p value, window = [.value key, .symbol .equals p, .value value] := by
  simp only [List.map_eq_cons_iff, List.map_eq_nil_iff, terminal_eq_symbol, terminal_eq_value] at h
  obtain ⟨_, _, rfl, ⟨key, rfl⟩, _, _, rfl, ⟨p, rfl⟩, _, _, rfl, ⟨value, rfl⟩, rfl⟩ := h
  exact ⟨key, p, value, rfl⟩

theorem eq_of_map_connective (h : window.map Atom.terminal = [.symbol .minus, .value]) :
    ∃ p connective, window = [.symbol .minus p, .value connective] := by
  simp only [List.map_eq_cons_iff, List.map_eq_nil_iff, terminal_eq_symbol, terminal_eq_value] at h
  obtain ⟨_, _, rfl, ⟨p, rfl⟩, _, _, rfl, ⟨connective, rfl⟩, rfl⟩ := h
  exact ⟨p, connective, rfl⟩

theorem eq_of_map_bracket (h : window.map Atom.terminal = [.symbol s, .value, .symbol .opening]) :
    ∃ p name q, window = [.symbol s p, .value name, .symbol .opening q] := by
  simp only [List.map_eq_cons_iff, List.map_eq_nil_iff, terminal_eq_symbol, terminal_eq_value] at h
  obtain ⟨_, _, rfl, ⟨p, rfl⟩, _, _, rfl, ⟨name, rfl⟩, _, _, rfl, ⟨q, rfl⟩, rfl⟩ := h
  exact ⟨p, name, q, rfl⟩

theorem outcome?_matchForward (atoms : List Atom) (pattern : List Terminal) (n : Nat) :
    (matchForward atoms pattern).outcome? n =
      if ((atoms.drop n).take pattern.length).map Atom.terminal = pattern then
        some (.ok (some ((atoms.drop n).take pattern.length), n + pattern.length))
      else some (.ok (none, n)) := by
  have hg : (get : Step Nat).outcome? n = some (.ok (n, n)) := rfl
  rw [matchForward, outcome?_bind_of_ok hg]
  dsimp only
  split <;> rfl

-- A pattern that stands at the cursor is taken as a whole.
theorem matchForward_of_eq (window : List Atom) (h : window ++ rest <:+ atoms)
    (hp : window.map Atom.terminal = pattern) :
    (matchForward atoms pattern).outcome? (cursorAt atoms (window ++ rest)) =
      some (.ok (some window, cursorAt atoms rest)) := by
  have hl : pattern.length = window.length := by rw [← hp, List.length_map]
  rw [outcome?_matchForward, drop_cursorAt h, hl, List.take_left, if_pos hp, cursorAt_append h]

theorem matchForward_of_ne (h : rest <:+ atoms)
    (hn : ∀ window behind, rest = window ++ behind → window.map Atom.terminal ≠ pattern) :
    (matchForward atoms pattern).outcome? (cursorAt atoms rest) =
      some (.ok (none, cursorAt atoms rest)) := by
  have ht := (List.take_append_drop pattern.length rest).symm
  rw [outcome?_matchForward, drop_cursorAt h, if_neg (hn _ _ ht)]

variable {α : Type} {node : List Atom → Option α}

theorem readForward_of_eq (window : List Atom) (h : window ++ rest <:+ atoms)
    (hp : window.map Atom.terminal = pattern) :
    (readForward atoms pattern node).outcome? (cursorAt atoms (window ++ rest)) =
      some (.ok (node window, cursorAt atoms rest)) :=
  outcome?_bind_of_ok (matchForward_of_eq window h hp)

theorem readForward_of_ne (h : rest <:+ atoms)
    (hn : ∀ window behind, rest = window ++ behind → window.map Atom.terminal ≠ pattern) :
    (readForward atoms pattern node).outcome? (cursorAt atoms rest) =
      some (.ok (none, cursorAt atoms rest)) :=
  outcome?_bind_of_ok (matchForward_of_ne h hn)

end Matching

section Leaves

variable {atoms rest behind : List Atom} {p : Position} {word key value connective : Word}

theorem fullText?_of_value (h : .value word :: behind <:+ atoms) :
    (fullText? atoms).outcome? (cursorAt atoms (.value word :: behind)) =
      some (.ok (some (.fullText word), cursorAt atoms behind)) :=
  readForward_of_eq [.value word] h rfl

theorem fullText?_of_ne (h : rest <:+ atoms) (hn : ∀ word behind, rest ≠ .value word :: behind) :
    (fullText? atoms).outcome? (cursorAt atoms rest) = some (.ok (none, cursorAt atoms rest)) := by
  refine readForward_of_ne h fun window behind he hw => ?_
  obtain ⟨word, rfl⟩ := eq_of_map_fullText hw
  exact hn word behind he

theorem property?_of_path (h : .path key :: .symbol .equals p :: .value value :: behind <:+ atoms) :
    (property? atoms).outcome?
        (cursorAt atoms (.path key :: .symbol .equals p :: .value value :: behind)) =
      some (.ok (some (.property key value), cursorAt atoms behind)) :=
  readForward_of_eq [.path key, .symbol .equals p, .value value] h rfl

theorem property?_of_ne (h : rest <:+ atoms)
    (hn : ∀ path p value behind, rest ≠ .path path :: .symbol .equals p :: .value value :: behind) :
    (property? atoms).outcome? (cursorAt atoms rest) = some (.ok (none, cursorAt atoms rest)) := by
  refine readForward_of_ne h fun window behind he hw => ?_
  obtain ⟨path, p, value, rfl⟩ := eq_of_map_property hw
  exact hn path p value behind he

theorem argument?_of_value
    (h : .value key :: .symbol .equals p :: .value value :: behind <:+ atoms) :
    (argument? atoms).outcome?
        (cursorAt atoms (.value key :: .symbol .equals p :: .value value :: behind)) =
      some (.ok (some (key, value), cursorAt atoms behind)) :=
  readForward_of_eq [.value key, .symbol .equals p, .value value] h rfl

theorem argument?_of_ne (h : rest <:+ atoms)
    (hn : ∀ key p value behind, rest ≠ .value key :: .symbol .equals p :: .value value :: behind) :
    (argument? atoms).outcome? (cursorAt atoms rest) = some (.ok (none, cursorAt atoms rest)) := by
  refine readForward_of_ne h fun window behind he hw => ?_
  obtain ⟨key, p, value, rfl⟩ := eq_of_map_argument hw
  exact hn key p value behind he

theorem connective?_of_minus (h : .symbol .minus p :: .value connective :: behind <:+ atoms) :
    (connective? atoms).outcome?
        (cursorAt atoms (.symbol .minus p :: .value connective :: behind)) =
      some (.ok (some connective, cursorAt atoms behind)) :=
  readForward_of_eq [.symbol .minus p, .value connective] h rfl

theorem connective?_of_ne (h : rest <:+ atoms)
    (hn : ∀ p connective behind, rest ≠ .symbol .minus p :: .value connective :: behind) :
    (connective? atoms).outcome? (cursorAt atoms rest) =
      some (.ok (none, cursorAt atoms rest)) := by
  refine readForward_of_ne h fun window behind he hw => ?_
  obtain ⟨p, connective, rfl⟩ := eq_of_map_connective hw
  exact hn p connective behind he

theorem mustClose_of_closing (h : .symbol .closing p :: behind <:+ atoms) :
    (mustClose atoms).outcome? (cursorAt atoms (.symbol .closing p :: behind)) =
      some (.ok ((), cursorAt atoms behind)) :=
  outcome?_bind_of_ok (matchForward_of_eq [.symbol .closing p] h rfl)

theorem must_none {α : Type} (h : rest <:+ atoms) (expected : Expectation) :
    (must atoms expected (none : Option α)).outcome? (cursorAt atoms rest) =
      some (.error (.missing expected rest)) := by
  have hm (n : Nat) : (must atoms expected (none : Option α)).outcome? n =
      some (.error (.missing expected (atoms.drop n))) := rfl
  rw [hm, drop_cursorAt h]

theorem mustClose_of_ne (h : rest <:+ atoms)
    (hn : ∀ p behind, rest ≠ .symbol .closing p :: behind) :
    (mustClose atoms).outcome? (cursorAt atoms rest) = some (.error (.missing .closing rest)) := by
  have hm : (matchForward atoms [.symbol .closing]).outcome? (cursorAt atoms rest) =
      some (.ok (none, cursorAt atoms rest)) := by
    refine matchForward_of_ne h fun window behind he hw => ?_
    obtain ⟨p, rfl⟩ := eq_of_map_symbol hw
    exact hn p behind he
  rw [mustClose, outcome?_bind_of_ok hm]
  exact outcome?_bind_of_error (must_none h .closing)

end Leaves

section Agreement

variable {α : Type} {atoms rest behind inside : List Atom} {n : Nat} {p q : Position} {name : Word}

-- What a production comes to that reads the atoms behind a cursor.
def located (atoms : List Atom) : Expression.Parsed α n → Except ParseFailure (α × Nat)
  | .found x rest _ => .ok (x, cursorAt atoms rest)
  | .failed f       => .error f

def located? (atoms all : List Atom) :
    Option (Expression.Parsed α n) → Except ParseFailure (Option α × Nat)
  | none                   => .ok (none, cursorAt atoms all)
  | some (.found x rest _) => .ok (some x, cursorAt atoms rest)
  | some (.failed f)       => .error f

-- Holds if a production at a cursor does what one does that reads the atoms behind the cursor.
def Agrees (atoms rest : List Atom) (p : Production α) (r : Expression.Parsed α n) : Prop :=
  Comes p (cursorAt atoms rest) (located atoms r)

def Agrees? (atoms rest : List Atom) (p : Production (Option α))
    (r : Option (Expression.Parsed α n)) : Prop :=
  Comes p (cursorAt atoms rest) (located? atoms rest r)

theorem suffix_of_append (window : List Atom) (h : window ++ rest <:+ atoms) : rest <:+ atoms :=
  (List.suffix_append window rest).trans h

theorem suffix_of_takes {ps : List Piece} (h : Expression.Takes rest ps behind)
    (hr : rest <:+ atoms) : behind <:+ atoms := by
  obtain ⟨as, -, rfl⟩ := h
  exact (List.suffix_append as behind).trans hr

theorem comes_arguments (h : rest <:+ atoms) :
    Comes (arguments atoms) (cursorAt atoms rest)
      (.ok ((Expression.arguments rest).1, cursorAt atoms (Expression.arguments rest).2)) := by
  fun_induction Expression.arguments rest
  case case1 key p value rest r ih =>
    have hr := suffix_of_append [.value key, .symbol .equals p, .value value] h
    refine comes_of_succ (arguments.eq_2 atoms) ?_
    exact .bind (comes_of_outcome? (argument?_of_value h)) (.bind (ih hr) comes_pure)
  case case2 rest hn =>
    refine comes_of_succ (arguments.eq_2 atoms) ?_
    exact .bind (comes_of_outcome? (argument?_of_ne h hn)) comes_pure

-- A first symbol, a name and a bracket are not what the atoms begin with.
theorem map_terminal_ne_bracket {s : Symbol} {rest : List Atom}
    (hn : ∀ p name q inside, rest ≠ .symbol s p :: .value name :: .symbol .opening q :: inside) :
    ∀ window inside, rest = window ++ inside →
      window.map Atom.terminal ≠ [.symbol s, .value, .symbol .opening] := by
  intro window inside he hw
  obtain ⟨p, name, q, rfl⟩ := eq_of_map_bracket hw
  exact hn p name q inside he

-- A closing bracket at the cursor is passed, and without one there is an error.
theorem comes_closed (h : rest <:+ atoms) (all : List Atom) (node : α) (fewer : rest.length < n) :
    Comes (fun _ => do mustClose atoms; return some node) (cursorAt atoms rest)
      (located? atoms all (some (Expression.closed node rest fewer))) := by
  refine comes_of_outcome? ?_
  unfold Expression.closed
  split
  case h_1 p behind fewer =>
    exact outcome?_bind_of_ok (mustClose_of_closing h)
  case h_2 hn =>
    refine outcome?_bind_of_error (mustClose_of_ne h fun p behind he => ?_)
    subst he
    exact hn p behind fewer rfl HEq.rfl

theorem agrees_aggregate?
    (h : .symbol .dollar p :: .value name :: .symbol .opening q :: inside <:+ atoms)
    (hc : Agrees atoms inside (chains atoms) (Expression.chains inside)) :
    Agrees? atoms (.symbol .dollar p :: .value name :: .symbol .opening q :: inside)
      (aggregate? atoms)
      (Expression.term? (.symbol .dollar p :: .value name :: .symbol .opening q :: inside)) := by
  have hin := suffix_of_append [.symbol .dollar p, .value name, .symbol .opening q] h
  have hm := comes_of_outcome?
    (matchForward_of_eq [.symbol .dollar p, .value name, .symbol .opening q] h rfl)
  refine comes_of_succ (aggregate?.eq_2 atoms) (.bind hm ?_)
  cases hi : Expression.chains inside
  case failed f =>
    rw [hi] at hc
    simp only [Expression.term?, hi]
    exact .bind_error hc
  case found contents behind fewer =>
    rw [hi] at hc
    simp only [Expression.term?, hi]
    have hb := suffix_of_takes (Expression.takes_of_found.2.1 _ _ _ _ hi) hin
    exact .bind hc (comes_closed hb _ _ _)

theorem aggregate?_of_ne (h : rest <:+ atoms)
    (hn : ∀ p name q inside,
      rest ≠ .symbol .dollar p :: .value name :: .symbol .opening q :: inside) :
    Comes (aggregate? atoms) (cursorAt atoms rest) (.ok (none, cursorAt atoms rest)) := by
  have hm := comes_of_outcome? (matchForward_of_ne h (map_terminal_ne_bracket hn))
  exact comes_of_succ (aggregate?.eq_2 atoms) (.bind hm comes_pure)

theorem agrees_function?
    (h : .symbol .percent p :: .value name :: .symbol .opening q :: inside <:+ atoms)
    (all : List Atom) (fewer : (Expression.arguments inside).2.length < n) :
    Comes (function? atoms)
      (cursorAt atoms (.symbol .percent p :: .value name :: .symbol .opening q :: inside))
      (located? atoms all (some (Expression.closed
        (.function p name (Expression.arguments inside).1) (Expression.arguments inside).2
        fewer))) := by
  have hin := suffix_of_append [.symbol .percent p, .value name, .symbol .opening q] h
  have hm := comes_of_outcome?
    (matchForward_of_eq [.symbol .percent p, .value name, .symbol .opening q] h rfl)
  have hb := suffix_of_takes (Expression.takes_arguments inside) hin
  exact .bind hm (.bind (comes_arguments hin) (comes_closed hb all _ fewer))

theorem function?_of_ne (h : rest <:+ atoms)
    (hn : ∀ p name q inside,
      rest ≠ .symbol .percent p :: .value name :: .symbol .opening q :: inside) :
    Comes (function? atoms) (cursorAt atoms rest) (.ok (none, cursorAt atoms rest)) :=
  .bind (comes_of_outcome? (matchForward_of_ne h (map_terminal_ne_bracket hn))) comes_pure

-- What is found first is not looked for any more.
theorem comes_first {first : Production (Option α)} {f : Nat → Option α → Step (Option α)}
    {r : Option (Expression.Parsed α n)} (hf : ∀ calls x, f calls (some x) = return some x)
    (hr : r ≠ none) (h : Agrees? atoms rest first r) :
    Agrees? atoms rest (fun calls => first calls >>= f calls) r := by
  cases r
  case none => exact absurd rfl hr
  case some r =>
    cases r
    case failed => exact .bind_error h
    case found =>
      refine .bind h ?_
      simp only [hf]
      exact comes_pure

theorem term?_of_ne {r : Except ParseFailure (Option Term × Nat)} (h : rest <:+ atoms)
    (hn : ∀ p inside, rest ≠ .symbol .opening p :: inside)
    (hr : Comes (fun calls => do
      match ← aggregate? atoms calls with
      | some t => return some t
      | none =>
        match ← function? atoms calls with
        | some t => return some t
        | none =>
          match ← property? atoms with
          | some t => return some t
          | none => fullText? atoms) (cursorAt atoms rest) r) :
    Comes (term? atoms) (cursorAt atoms rest) r := by
  refine comes_of_succ (term?.eq_2 atoms) (.bind (comes_of_outcome? (matchForward_of_ne h ?_)) hr)
  intro window inside he hw
  obtain ⟨p, rfl⟩ := eq_of_map_symbol hw
  exact hn p inside he

theorem agrees_group (h : .symbol .opening p :: inside <:+ atoms)
    (hc : Agrees? atoms inside (chain? atoms) (Expression.chain? inside)) :
    Agrees? atoms (.symbol .opening p :: inside) (term? atoms)
      (Expression.term? (.symbol .opening p :: inside)) := by
  have hin := suffix_of_append [.symbol .opening p] h
  have hm := comes_of_outcome? (matchForward_of_eq [.symbol .opening p] h rfl)
  refine comes_of_succ (term?.eq_2 atoms) (.bind hm ?_)
  rw [Expression.term?]
  dsimp only
  split
  case h_1 he =>
    rw [he] at hc
    exact .bind hc (.bind_error (comes_of_outcome? (must_none hin .groupContent)))
  case h_2 f he =>
    rw [he] at hc
    exact .bind_error hc
  case h_3 inner behind fewer he =>
    rw [he] at hc
    have hb := suffix_of_takes (Expression.takes_of_found.2.2.1 _ _ _ _ he) hin
    exact .bind hc (.bind comes_pure (comes_closed hb _ _ _))

theorem agrees_term? (h : rest <:+ atoms)
    (hc : ∀ inside, inside <:+ atoms → inside.length < rest.length →
      Agrees? atoms inside (chain? atoms) (Expression.chain? inside))
    (hcs : ∀ inside, inside <:+ atoms → inside.length < rest.length →
      Agrees atoms inside (chains atoms) (Expression.chains inside)) :
    Agrees? atoms rest (term? atoms) (Expression.term? rest) := by
  unfold Expression.term?
  -- The productions are tried in turn. Those before the one that fits find nothing.
  split
  case h_1 p inside =>
    have hi := hc inside (suffix_of_append [.symbol .opening p] h) (Nat.lt_succ_self _)
    have hg := agrees_group h hi
    rwa [Expression.term?] at hg
  case h_2 p name q inside =>
    have hl : inside.length < inside.length + 1 + 1 + 1 := by omega
    have hin := suffix_of_append [.symbol .dollar p, .value name, .symbol .opening q] h
    have ha := agrees_aggregate? h (hcs inside hin hl)
    rw [Expression.term?] at ha
    exact term?_of_ne h (by simp) (comes_first (fun _ _ => rfl) (by split <;> simp) ha)
  case h_3 p name q inside =>
    refine term?_of_ne h (by simp) (.bind (aggregate?_of_ne h (by simp)) ?_)
    exact comes_first (fun _ _ => rfl) (by simp) (agrees_function? h _ _)
  case h_4 path p value behind =>
    have hp := comes_of_outcome? (property?_of_path h)
    exact term?_of_ne h (by simp) (.bind (aggregate?_of_ne h (by simp))
      (.bind (function?_of_ne h (by simp)) (.bind hp comes_pure)))
  case h_5 word behind =>
    have hp := comes_of_outcome? (property?_of_ne h (by simp))
    have ht := comes_of_outcome? (fullText?_of_value h)
    exact term?_of_ne h (by simp) (.bind (aggregate?_of_ne h (by simp))
      (.bind (function?_of_ne h (by simp)) (.bind hp ht)))
  case h_6 h₁ h₂ h₃ h₄ h₅ =>
    have hp := comes_of_outcome? (property?_of_ne h h₄)
    have ht := comes_of_outcome? (fullText?_of_ne h h₅)
    exact term?_of_ne h h₁ (.bind (aggregate?_of_ne h h₂)
      (.bind (function?_of_ne h h₃) (.bind hp ht)))

theorem agrees_chain? (h : rest <:+ atoms)
    (ht : Agrees? atoms rest (term? atoms) (Expression.term? rest))
    (hj : ∀ before behind, behind <:+ atoms → behind.length < rest.length →
      Agrees atoms behind (joins atoms before) (Expression.joins before behind)) :
    Agrees? atoms rest (chain? atoms) (Expression.chain? rest) := by
  rw [Expression.chain?]
  refine comes_of_succ (chain?.eq_2 atoms) ?_
  split
  case h_1 he =>
    rw [he] at ht
    exact .bind ht comes_pure
  case h_2 f he =>
    rw [he] at ht
    exact .bind_error ht
  case h_3 t behind fewer he =>
    rw [he] at ht
    have hb := suffix_of_takes (Expression.takes_of_found.1 _ _ _ _ he) h
    have hm := hj (.operand t) behind hb fewer
    refine .bind ht ?_
    cases hr : Expression.joins (.operand t) behind
    case found  => rw [hr] at hm; exact .bind hm comes_pure
    case failed => rw [hr] at hm; exact .bind_error hm

theorem agrees_joins (h : rest <:+ atoms) (before : Chain)
    (ht : ∀ behind, behind <:+ atoms → behind.length < rest.length →
      Agrees? atoms behind (term? atoms) (Expression.term? behind))
    (hj : ∀ before behind, behind <:+ atoms → behind.length < rest.length →
      Agrees atoms behind (joins atoms before) (Expression.joins before behind)) :
    Agrees atoms rest (joins atoms before) (Expression.joins before rest) := by
  unfold Expression.joins
  refine comes_of_succ (joins.eq_2 atoms before) ?_
  split
  case h_1 p connective behind =>
    have hl : behind.length < behind.length + 1 + 1 := by omega
    have hb := suffix_of_append [.symbol .minus p, .value connective] h
    have hfirst := ht behind hb hl
    refine .bind (comes_of_outcome? (connective?_of_minus h)) ?_
    dsimp only
    split
    case h_1 he =>
      rw [he] at hfirst
      refine .bind_error (comes_of_succ (operand.eq_2 atoms connective) ?_)
      exact .bind hfirst (comes_of_outcome? (must_none hb _))
    case h_2 f he =>
      rw [he] at hfirst
      exact .bind_error (comes_of_succ (operand.eq_2 atoms connective) (.bind_error hfirst))
    case h_3 t behind' fewer he =>
      rw [he] at hfirst
      have hb' := suffix_of_takes (Expression.takes_of_found.1 _ _ _ _ he) hb
      have hm := hj (.joined before connective t) behind' hb' (Nat.lt_trans fewer hl)
      refine .bind (comes_of_succ (operand.eq_2 atoms connective) (.bind hfirst comes_pure)) ?_
      cases hr : Expression.joins (.joined before connective t) behind' <;>
        rw [hr] at hm <;> exact hm
  case h_2 hn =>
    exact .bind (comes_of_outcome? (connective?_of_ne h hn)) comes_pure

theorem agrees_chains (h : rest <:+ atoms)
    (hc : Agrees? atoms rest (chain? atoms) (Expression.chain? rest))
    (hcs : ∀ behind, behind <:+ atoms → behind.length < rest.length →
      Agrees atoms behind (chains atoms) (Expression.chains behind)) :
    Agrees atoms rest (chains atoms) (Expression.chains rest) := by
  rw [Expression.chains]
  refine comes_of_succ (chains.eq_2 atoms) ?_
  split
  case h_1 he =>
    rw [he] at hc
    exact .bind hc comes_pure
  case h_2 f he =>
    rw [he] at hc
    exact .bind_error hc
  case h_3 c behind fewer he =>
    rw [he] at hc
    have hb := suffix_of_takes (Expression.takes_of_found.2.2.1 _ _ _ _ he) h
    have hm := hcs behind hb fewer
    refine .bind hc ?_
    dsimp only
    split
    case h_1 f hr => rw [hr] at hm; exact .bind_error hm
    case h_2 cs behind' _ hr => rw [hr] at hm; exact .bind hm comes_pure

-- Holds if all productions do at a cursor what those do that read the atoms behind it.
structure AllAgree (atoms rest : List Atom) : Prop where
  term   : Agrees? atoms rest (term? atoms) (Expression.term? rest)
  chain  : Agrees? atoms rest (chain? atoms) (Expression.chain? rest)
  joins  : ∀ before, Agrees atoms rest (joins atoms before) (Expression.joins before rest)
  chains : Agrees atoms rest (chains atoms) (Expression.chains rest)

theorem allAgree (h : rest <:+ atoms) : AllAgree atoms rest := by
  induction hk : rest.length using Nat.strongRecOn generalizing rest
  case ind k ih =>
    subst hk
    have ih {behind : List Atom} (hb : behind <:+ atoms) (hl : behind.length < rest.length) :=
      ih behind.length hl hb rfl
    have ht := agrees_term? h (fun _ hb hl => (ih hb hl).chain) fun _ hb hl => (ih hb hl).chains
    have hc := agrees_chain? h ht fun before _ hb hl => (ih hb hl).joins before
    exact {
      term   := ht
      chain  := hc
      joins  := fun before => agrees_joins h before (fun _ hb hl => (ih hb hl).term)
        fun before _ hb hl => (ih hb hl).joins before
      chains := agrees_chains h hc fun _ hb hl => (ih hb hl).chains }

theorem comes_top_of_chains {cs : List Chain} {m k : Nat}
    (h : Comes (chains atoms) m (.ok (cs, k))) :
    Comes (top atoms) m (match atoms.drop k with
      | []        => .ok (cs, k)
      | a :: rest => .error (.leftover a rest)) := by
  have hg : (get : Step Nat).outcome? k = some (.ok (k, k)) := rfl
  refine .bind h (.bind (comes_of_outcome? hg) ?_)
  cases atoms.drop k
  case nil  => exact comes_pure
  case cons => exact comes_of_outcome? rfl

theorem comes_top (atoms : List Atom) :
    Comes (top atoms) 0 ((Expression.ofAtoms atoms).map fun cs => (cs, atoms.length)) := by
  have h := (allAgree (List.suffix_refl atoms)).chains
  have h0 : cursorAt atoms atoms = 0 := Nat.sub_self _
  rw [Agrees, h0] at h
  unfold Expression.ofAtoms
  split
  case h_1 f he =>
    rw [he] at h
    exact .bind_error h
  case h_2 cs fewer he =>
    rw [he] at h
    have ht := comes_top_of_chains h
    rwa [drop_cursorAt List.nil_suffix] at ht
  case h_3 cs a rest fewer he =>
    rw [he] at h
    have hb := suffix_of_takes (Expression.takes_of_found.2.1 _ _ _ _ he) (List.suffix_refl atoms)
    have ht := comes_top_of_chains h
    rwa [drop_cursorAt hb] at ht

-- Reads the expressions of a source text, if that comes to an end with so many calls in each other.
def parse? (calls : Nat) (source : String) : Option (Except SyntaxError (List Chain)) :=
  match tokenize source with
  | .error e => some (.error e)
  | .ok tokens =>
    ((top (tokens.filterMap Token.atom?) calls).outcome? 0).map fun
      | .ok (cs, _) => .ok cs
      | .error f    => .error (.ofFault f.fault source (f.position source))

theorem comes_parse (source : String) :
    ∃ depth, ∀ calls, depth ≤ calls → parse? calls source = some (parse source) := by
  cases h : tokenize source
  case error e =>
    refine ⟨0, fun calls _ => ?_⟩
    rw [parse?, parse, h]
    rfl
  case ok tokens =>
    obtain ⟨depth, ht⟩ := comes_top (tokens.filterMap Token.atom?)
    refine ⟨depth, fun calls hc => ?_⟩
    rw [parse?, h, parse_of_tokenize h]
    dsimp only
    rw [ht calls hc]
    cases Expression.ofAtoms (tokens.filterMap Token.atom?) <;> rfl

end Agreement

end Cursor

end EntitySearch
