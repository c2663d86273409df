namespace EntitySearch.CommandLine

structure Switch where
  short : Option Char
  long : String
  takesValue : Bool
  deriving DecidableEq, Repr

inductive Argument
  | plain (text : String)
  | switch (long : String)
  | setting (long value : String)
  | help
  -- An argument that the command does not know, or a switch without the value that it takes.
  | unusable
  deriving DecidableEq, Repr

-- Holds of the arguments that are no switches.
def isPlain (arg : String) : Bool :=
  match arg.toList with
  | '-' :: _ :: _ => false
  | _ => true

-- Splits a switch at its first equals sign, if it has one.
def splitAtEquals (cs : List Char) : List Char × Option (List Char) :=
  match cs.dropWhile (· ≠ '=') with
  | _ :: value => (cs.takeWhile (· ≠ '='), some value)
  | [] => (cs, none)

-- What an argument says by itself, or else the switch that takes its value from the next one.
def readOne (switches : List Switch) (arg : String) : Argument ⊕ Switch :=
  match arg.toList with
  | '-' :: '-' :: cs =>
    let (name, value?) := splitAtEquals cs
    if name = "help".toList then .inl (if value?.isNone then .help else .unusable)
    else
      match switches.find? (·.long.toList = name), value? with
      | none, _ => .inl .unusable
      | some s, none => if s.takesValue then .inr s else .inl (.switch s.long)
      | some s, some value =>
        .inl (if s.takesValue then .setting s.long (String.ofList value) else .unusable)
  | '-' :: c :: cs =>
    if c = 'h' then .inl .help
    else
      match switches.find? (·.short = some c), cs with
      | none, _ => .inl .unusable
      | some s, [] => if s.takesValue then .inr s else .inl (.switch s.long)
      | some s, '=' :: value => .inl (.setting s.long (String.ofList value))
      | some s, value => .inl (.setting s.long (String.ofList value))
  | _ => .inl (.plain arg)

-- The arguments of a command that knows some switches. A lone hyphen stands by itself, and so does
-- all that follows two hyphens.
def readArguments (switches : List Switch) : List String → List Argument
  | [] => []
  | arg :: args =>
    if arg = "--" then args.map .plain
    else
      match readOne switches arg, args with
      | .inl a, args => a :: readArguments switches args
      | .inr s, value :: args =>
        if isPlain value then .setting s.long value :: readArguments switches args
        else [.unusable]
      | .inr _, [] => [.unusable]

end EntitySearch.CommandLine
