import ClassDiagram.Text.Lowercase

/-! # Logging

A logger has a level and a format, and a process installs at most one. Levels are open-ended: one
that is not known is accepted. How a logger writes an event down is its own affair.
-/

namespace ClassDiagram

inductive LogLevel
  | trace
  | debug
  | info
  | warn
  | error
  deriving DecidableEq

namespace LogLevel

def all : List LogLevel :=
  [trace, debug, info, warn, error]

def name : LogLevel → String
  | trace => "trace"
  | debug => "debug"
  | info => "info"
  | warn => "warn"
  | error => "error"

def ofName? (s : String) : Option LogLevel :=
  all.find? (·.name == s)

end LogLevel

inductive LogFormat
  | compact
  | pretty
  | json
  deriving DecidableEq

namespace LogFormat

def all : List LogFormat :=
  [compact, pretty, json]

def name : LogFormat → String
  | compact => "compact"
  | pretty => "pretty"
  | json => "json"

def ofName? (s : String) : Option LogFormat :=
  all.find? (·.name == s)

end LogFormat

inductive LogFailure
  | unknownFormat (name : String)
  | invalidFormat (name : String)
  | alreadyInstalled
  deriving DecidableEq

namespace LogFailure

def message : LogFailure → String
  | unknownFormat name => "Unknown log format: " ++ name
  | invalidFormat name => "Invalid log format: Unknown log format: " ++ name
  | alreadyInstalled => "a global default trace dispatcher has already been set"

end LogFailure

/-- Reads the name of a format in any case. -/
def LogFormat.read (s : String) : Except LogFailure LogFormat :=
  match ofName? (Text.lower s) with
  | some f => .ok f
  | none => .error (.unknownFormat s)

structure Logger where
  level : String
  format : LogFormat
  deriving DecidableEq

/-- Installs a logger beside the one that may be there. The format is looked at first. -/
def Logger.install (current? : Option Logger) (level format : String) :
    Except LogFailure Logger :=
  match LogFormat.read format with
  | .error _ => .error (.invalidFormat format)
  | .ok f =>
    match current? with
    | some _ => .error .alreadyInstalled
    | none => .ok ⟨level, f⟩

/-- Something that a program tells the logger, with named values. -/
structure LogEvent where
  level : LogLevel
  text : String
  fields : List (String × String)
  deriving DecidableEq

end ClassDiagram
