import EntitySearch.Expression.Atom
import EntitySearch.Reading
import EntitySearch.Token.Lexer

namespace EntitySearch

-- Why no expressions could be read, with the atoms that were left then.
inductive ParseFailure
  | missing (expected : Expectation) (rest : List Atom)
  | leftover (found : Atom) (rest : List Atom)
  deriving DecidableEq, Repr

namespace ParseFailure

-- The atoms from the one at fault on.
def rest : ParseFailure → List Atom
  | missing _ rest => rest
  | leftover found rest => found :: rest

def fault : ParseFailure → SyntaxFault
  | missing expected rest => .missing expected (rest.head?.map Atom.kind)
  | leftover found _ => .leftover found.kind

-- The place of the atom at fault, or else the end of the source.
def position (f : ParseFailure) (source : String) : Position :=
  match f.rest with
  | a :: _ => a.position
  | [] => .endOf source

end ParseFailure

namespace Expression

abbrev Parsed (α : Type) (bound : Nat) := Reading Atom ParseFailure α bound

-- A node that has to be followed by a closing bracket.
def closed {α : Type} {n : Nat} (node : α) (rest : List Atom) (fewer : rest.length < n) :
    Parsed α n :=
  match rest with
  | .symbol .closing _ :: behind => .found node behind (Nat.lt_of_succ_lt fewer)
  | _ => .failed (.missing .closing rest)

-- The arguments at the front of a list of atoms, and what stands behind them.
def arguments : List Atom → List (Word × Word) × List Atom
  | .value key :: .symbol .equals _ :: .value value :: atoms =>
    let r := arguments atoms
    ((key, value) :: r.1, r.2)
  | atoms => ([], atoms)

theorem length_arguments_le (atoms : List Atom) :
    (arguments atoms).2.length ≤ atoms.length := by
  fun_induction arguments atoms with
  | case1 key p value atoms r ih => simp only [List.length_cons, r]; omega
  | case2 => exact Nat.le_refl _

-- The grammar is
--
--     Chains    := Chain*
--     Chain     := Term ('-' value Term)*
--     Term      := '(' Chain ')'
--                | '$' value '(' Chains ')'
--                | '%' value '(' Arguments ')'
--                | path '=' value
--                | value
--     Arguments := (value '=' value)*
--
-- Each production looks at most at the first three atoms before it decides. It takes nothing when
-- it finds nothing, and at least one atom when it finds something, so that reading comes to an end.
mutual

-- Reads a term, if there is one.
def term? (atoms : List Atom) : Option (Parsed Term atoms.length) :=
  match atoms with
  | .symbol .opening p :: inside =>
    match chain? inside with
    | none => some (.failed (.missing .groupContent inside))
    | some (.failed f) => some (.failed f)
    | some (.found inner rest fewer) => some (closed (.group p inner) rest (by simp; omega))
  | .symbol .dollar p :: .value name :: .symbol .opening _ :: inside =>
    match chains inside with
    | .failed f => some (.failed f)
    | .found contents rest fewer =>
      some (closed (.aggregate p name contents) rest (by simp; omega))
  | .symbol .percent p :: .value name :: .symbol .opening _ :: inside =>
    some (closed (.function p name (arguments inside).1) (arguments inside).2
      (by have := length_arguments_le inside; simp; omega))
  | .path path :: .symbol .equals _ :: .value value :: behind =>
    some (.found (.property path value) behind (by simp; omega))
  | .value word :: behind => some (.found (.fullText word) behind (by simp))
  | _ => none
termination_by (atoms.length, 0)

-- Reads a chain, if there is one: a term and all that is joined to it.
def chain? (atoms : List Atom) : Option (Parsed Chain atoms.length) :=
  match term? atoms with
  | none => none
  | some (.failed f) => some (.failed f)
  | some (.found t rest fewer) => some ((joins (.operand t) rest).weaken fewer)
termination_by (atoms.length, 1)

-- Goes on with a chain for as long as connectives follow.
def joins (before : Chain) (atoms : List Atom) : Parsed Chain (atoms.length + 1) :=
  match atoms with
  | .symbol .minus _ :: .value connective :: behind =>
    match term? behind with
    | none => .failed (.missing (.operand connective.content) behind)
    | some (.failed f) => .failed f
    | some (.found t rest fewer) =>
      (joins (.joined before connective t) rest).weaken (by simp; omega)
  | atoms => .found before atoms (Nat.lt_succ_self _)
termination_by (atoms.length, 0)

-- Reads chains for as long as there are any.
def chains (atoms : List Atom) : Parsed (List Chain) (atoms.length + 1) :=
  match chain? atoms with
  | none => .found [] atoms (Nat.lt_succ_self _)
  | some (.failed f) => .failed f
  | some (.found c rest fewer) =>
    match chains rest with
    | .failed f => .failed f
    | .found cs rest' fewer' => .found (c :: cs) rest' (by omega)
termination_by (atoms.length, 2)

end

-- Reads a list of atoms to its end.
def ofAtoms (atoms : List Atom) : Except ParseFailure (List Chain) :=
  match chains atoms with
  | .failed f => .error f
  | .found cs [] _ => .ok cs
  | .found _ (a :: rest) _ => .error (.leftover a rest)

end Expression

def parse (source : String) : Except SyntaxError (List Chain) := do
  let tokens ← tokenize source
  match Expression.ofAtoms (tokens.filterMap Token.atom?) with
  | .ok cs => return cs
  | .error f => throw (.ofFault f.fault source (f.position source))

end EntitySearch
