import ClassDiagram.Member.Modifier
import ClassDiagram.Record
import ClassDiagram.Text.Uppercase

/-! # Fields

A field line: modifiers, a type of any number of words, and a name. A type that begins with an
upper case letter refers to another entity.
-/

namespace ClassDiagram

namespace Chars

def isEntityReference : List Char → Bool
  | [] => false
  | c :: _ => isUppercase c

/-- The argument of a generic type, which ends in `>`; any other type is its own argument. -/
def typeArgument (cs : List Char) : List Char :=
  if cs.getLast? = some '>' then
    if '<' ∈ cs.dropLast then (cs.dropLast.dropWhile (· != '<')).drop 1 else cs.dropLast
  else cs

end Chars

def isEntityReference (type : String) : Bool :=
  Chars.isEntityReference type.toList

/-- The entity that a field of this type holds: the argument, if the type is generic. -/
def compositionTarget? (type : String) : Option String :=
  if isEntityReference type && !(Chars.typeArgument type.toList).isEmpty then
    some (String.ofList (Chars.typeArgument type.toList))
  else none

structure Field extends Qualifiers where
  type : String
  name : String
  deriving DecidableEq

namespace Field

def ofWords? (ws : List String) : Option Field :=
  match Modifier.leading ws with
  | (ms, rest) =>
    match rest.getLast? with
    | none => none
    | some name =>
      if rest.dropLast.isEmpty then none
      else some ⟨Qualifiers.ofModifiers ms, Text.unwords rest.dropLast, name⟩

/-- Reads a member line of three words or more, the dash counted if it stands alone. -/
def ofLine? (line : String) : Option Field :=
  if (Text.words line).length < 3 then none else ofWords? (Text.words (stripBullet line))

def render (f : Field) : String :=
  Text.unwords (f.toQualifiers.words none ++ [f.name, ":", f.type])

def target? (f : Field) : Option String :=
  compositionTarget? f.type

end Field

end ClassDiagram
