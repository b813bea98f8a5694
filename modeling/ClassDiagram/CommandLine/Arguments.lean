import ClassDiagram.CommandLine.Options

/-! # Reading the arguments

Arguments are read from left to right and the first problem ends the reading. An option whose
value is an argument of its own, and the record file, are taken in late: when the next option or
record file is met, or at the end.
-/

namespace ClassDiagram

/-- What has been met and is not taken in yet. -/
inductive Pending
  | nothing
  | awaiting (option : ValueOption)
  | value (option : ValueOption) (text : String)
  | input (text : String)
  deriving DecidableEq

/-- The state between two arguments. Behind a `--` no argument is an option. -/
structure Reading where
  given : Given
  pending : Pending
  trailing : Bool
  deriving DecidableEq

namespace Reading

def start : Reading :=
  ⟨.nothing, .nothing, false⟩

def settled (r : Reading) : Except Halt Given :=
  match r.pending with
  | .nothing => .ok r.given
  | .awaiting _ => .error (.refused .invalidValue)
  | .value o v => r.given.put o v
  | .input v => r.given.putInput v

def hasInput (r : Reading) : Bool :=
  r.given.input?.isSome ||
    match r.pending with
    | .input _ => true
    | _ => false

def raise (r : Reading) (f : Flag) : Except Halt Reading :=
  (r.settled.bind (·.raise f)).map fun g => ⟨g, .nothing, r.trailing⟩

def await (r : Reading) (o : ValueOption) : Except Halt Reading :=
  r.settled.map fun g => ⟨g, .awaiting o, r.trailing⟩

def attach (r : Reading) (o : ValueOption) (v : String) : Except Halt Reading :=
  (r.settled.bind (·.put o v)).map fun g => ⟨g, .nothing, r.trailing⟩

def positional (r : Reading) (v : String) : Except Halt Reading :=
  if r.hasInput then .error (.refused .unknownArgument)
  else r.settled.map fun g => ⟨g, .input v, r.trailing⟩

/-- An argument that is no option: the value that is waited for, or the record file. -/
def word (r : Reading) (v : String) : Except Halt Reading :=
  match r.pending with
  | .awaiting o => .ok { r with pending := .value o v }
  | _ => r.positional v

/-- A long option, given without its dashes; its value may follow an equals sign. -/
def long (r : Reading) (cs : List Char) : Except Halt Reading :=
  let name := String.ofList (cs.takeWhile (· != '='))
  let rest := cs.dropWhile (· != '=')
  match Switch.ofLong? name, rest with
  | none, _ => .error (.refused .unknownArgument)
  | some (.flag f), [] => r.raise f
  | some (.flag _), _ :: _ => .error (.refused .unexpectedValue)
  | some (.value o), [] => r.await o
  | some (.value o), _ :: v => r.attach o (String.ofList v)

/-- Short options behind one dash. The first that takes a value takes all that follows it. -/
def short (r : Reading) : List Char → Except Halt Reading
  | [] => .ok r
  | c :: cs =>
    match Switch.ofShort? c, cs with
    | none, _ => .error (.refused .unknownArgument)
    | some (.flag f), cs =>
      match r.raise f with
      | .error h => .error h
      | .ok r => r.short cs
    | some (.value o), [] => r.await o
    | some (.value o), '=' :: v => r.attach o (String.ofList v)
    | some (.value o), v => r.attach o (String.ofList v)

def argument (r : Reading) (arg : String) : Except Halt Reading :=
  if r.trailing then r.positional arg
  else
    match arg.toList with
    | ['-', '-'] => .ok { r with trailing := true }
    | '-' :: '-' :: cs => r.long cs
    | ['-'] => r.word arg
    | '-' :: cs => r.short cs
    | _ => r.word arg

def arguments (r : Reading) : List String → Except Halt Reading
  | [] => .ok r
  | a :: as => (r.argument a).bind fun r => r.arguments as

end Reading

/-- Reads the arguments of a command line, the name of the program not among them. -/
def Options.ofArguments (args : List String) : Except Halt Options :=
  ((Reading.start.arguments args).bind (·.settled)).bind (·.options)

end ClassDiagram
