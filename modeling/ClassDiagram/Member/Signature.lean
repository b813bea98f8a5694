import ClassDiagram.Member.Modifier
import ClassDiagram.Record

/-! # Signatures

A constructor or method line: modifiers, then everything else as one text.
-/

namespace ClassDiagram

/-- A constructor or method. Its text holds return type, name and parameters. -/
structure Signature extends Qualifiers where
  text : String
  deriving DecidableEq

namespace Signature

def ofWords? (ws : List String) : Option Signature :=
  match Modifier.leading ws with
  | (_, []) => none
  | (ms, rest) => some ⟨Qualifiers.ofModifiers ms, Text.unwords rest⟩

/-- Reads a member line; there is no signature if nothing follows the modifiers. -/
def ofLine? (line : String) : Option Signature :=
  ofWords? (Text.words (stripBullet line))

def isAbstract (s : Signature) : Bool :=
  s.modifiers.contains .abstract

def render (marker? : Option String) (s : Signature) : String :=
  Text.unwords (s.toQualifiers.words marker? ++ [s.text])

end Signature

end ClassDiagram
