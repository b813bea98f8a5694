import ClassDiagram.Failure
import ClassDiagram.Logging

/-! # Plans

What a program does, step after step, as a value. A step that asks for something goes on as the
answer says. A host takes the single steps, and a run is a plan that is carried out on a host.
-/

namespace ClassDiagram

/-- Text is printed to the standard output and said on the error stream. -/
inductive Plan
  | finish (exitCode : Nat)
  | print (text : String) (next : Plan)
  | say (text : String) (next : Plan)
  | ask (setting : String) (next : Option String → Plan)
  | install (level format : String) (next : Except LogFailure Unit → Plan)
  | log (event : LogEvent) (next : Plan)
  | look (path : String) (next : Bool → Plan)
  | read (path : String) (next : Except SystemFault ByteArray → Plan)
  | write (path : String) (bytes : ByteArray) (next : Except SystemFault Unit → Plan)

/-- What a system does when it is asked for one step. -/
structure Host (m : Type → Type) where
  print : String → m Unit
  say : String → m Unit
  /-- The value of a variable of the environment. -/
  ask : String → m (Option String)
  install : String → String → m (Except LogFailure Unit)
  log : LogEvent → m Unit
  /-- Whether a path leads to anything. -/
  look : String → m Bool
  read : String → m (Except SystemFault ByteArray)
  write : String → ByteArray → m (Except SystemFault Unit)

namespace Plan

/-- Takes all steps of a plan up to its exit code. -/
def carryOut {m : Type → Type} [Monad m] (host : Host m) : Plan → m Nat
  | finish code => return code
  | print text next => do
    host.print text
    next.carryOut host
  | say text next => do
    host.say text
    next.carryOut host
  | ask setting next => do
    (next (← host.ask setting)).carryOut host
  | install level format next => do
    (next (← host.install level format)).carryOut host
  | log event next => do
    host.log event
    next.carryOut host
  | look path next => do
    (next (← host.look path)).carryOut host
  | read path next => do
    (next (← host.read path)).carryOut host
  | write path bytes next => do
    (next (← host.write path bytes)).carryOut host

def fail (e : Failure) : Plan :=
  say ("Error: " ++ e.message ++ "\n") (finish 1)

/-- Goes on with a result, if there is one. -/
def attempt {α : Type} (result : Except Failure α) (next : α → Plan) : Plan :=
  match result with
  | .error e => fail e
  | .ok a => next a

end Plan

end ClassDiagram
