import ClassDiagram.Logging

/-! # Options of the command line

What a user asks for, and the arguments that are not understood.
-/

namespace ClassDiagram

structure Options where
  input : String
  notationKey : String
  ignored : List String
  output? : Option String
  strict : Bool
  verbose : Bool
  logLevel : LogLevel
  logFormat : LogFormat
  deriving DecidableEq

inductive UsageError
  | unknownArgument
  | invalidValue
  | repeatedArgument
  | unexpectedValue
  | missingInput
  deriving DecidableEq

/-- Why reading the arguments ends without options. -/
inductive Halt
  | help
  | version
  | refused (error : UsageError)
  deriving DecidableEq

def Halt.exitCode : Halt → Nat
  | help => 0
  | version => 0
  | refused _ => 2

inductive ValueOption
  | notationKey
  | ignored
  | output
  | logLevel
  | logFormat
  deriving DecidableEq

inductive Flag
  | strict
  | verbose
  | help
  | version
  deriving DecidableEq

inductive Switch
  | value (option : ValueOption)
  | flag (flag : Flag)
  deriving DecidableEq

namespace Switch

def ofLong? : String → Option Switch
  | "notation" => some (value .notationKey)
  | "ignore" => some (value .ignored)
  | "output" => some (value .output)
  | "log-level" => some (value .logLevel)
  | "log-format" => some (value .logFormat)
  | "strict" => some (flag .strict)
  | "verbose" => some (flag .verbose)
  | "help" => some (flag .help)
  | "version" => some (flag .version)
  | _ => none

def ofShort? : Char → Option Switch
  | 'n' => some (value .notationKey)
  | 'o' => some (value .output)
  | 'v' => some (flag .verbose)
  | 'h' => some (flag .help)
  | 'V' => some (flag .version)
  | _ => none

end Switch

/-- The arguments that have been taken in so far. -/
structure Given where
  input? : Option String
  notationKey? : Option String
  ignored : List String
  output? : Option String
  strict : Bool
  verbose : Bool
  logLevel? : Option LogLevel
  logFormat? : Option LogFormat
  deriving DecidableEq

namespace Given

def nothing : Given :=
  ⟨none, none, [], none, false, false, none, none⟩

/-- Whether the option may not be given again. -/
def has (g : Given) : ValueOption → Bool
  | .notationKey => g.notationKey?.isSome
  | .ignored => false
  | .output => g.output?.isSome
  | .logLevel => g.logLevel?.isSome
  | .logFormat => g.logFormat?.isSome

def set? (g : Given) (v : String) : ValueOption → Option Given
  | .notationKey => some { g with notationKey? := some v }
  | .ignored => some { g with ignored := g.ignored ++ [v] }
  | .output => if v.isEmpty then none else some { g with output? := some v }
  | .logLevel => (LogLevel.ofName? v).map fun l => { g with logLevel? := some l }
  | .logFormat => (LogFormat.ofName? v).map fun f => { g with logFormat? := some f }

def put (g : Given) (o : ValueOption) (v : String) : Except Halt Given :=
  if g.has o then .error (.refused .repeatedArgument)
  else
    match g.set? v o with
    | some g => .ok g
    | none => .error (.refused .invalidValue)

def putInput (g : Given) (v : String) : Except Halt Given :=
  if v.isEmpty then .error (.refused .invalidValue) else .ok { g with input? := some v }

def raise (g : Given) : Flag → Except Halt Given
  | .strict =>
    if g.strict then .error (.refused .repeatedArgument) else .ok { g with strict := true }
  | .verbose =>
    if g.verbose then .error (.refused .repeatedArgument) else .ok { g with verbose := true }
  | .help => .error .help
  | .version => .error .version

def options (g : Given) : Except Halt Options :=
  match g.input? with
  | none => .error (.refused .missingInput)
  | some input =>
    .ok ⟨input, g.notationKey?.getD "yuml", g.ignored, g.output?, g.strict, g.verbose,
      g.logLevel?.getD .warn, g.logFormat?.getD .compact⟩

end Given

end ClassDiagram
