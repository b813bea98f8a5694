import ClassDiagram.Defect
import ClassDiagram.Member.Field
import ClassDiagram.Member.Signature

/-! # Findings

What a stream contributes to a diagram: entities that open, fill and close, relations between
them, and defects. An entity extends its parent, realizes its interfaces, and is composed of what
its fields hold.
-/

namespace ClassDiagram

inductive RelationKind
  | inheritance
  | realization
  | composition
  deriving DecidableEq

/-- A directed relation between two entities, given by their simple names. -/
structure Relation where
  kind : RelationKind
  owner : String
  target : String
  deriving DecidableEq

inductive Member
  | constructor (signature : Signature)
  | method (signature : Signature)
  | field (field : Field)
  deriving DecidableEq

inductive Event
  | opened (kind : EntityKind) (name : String)
  | member (member : Member)
  | closed
  deriving DecidableEq

inductive Finding
  | event (event : Event)
  | relation (relation : Relation)
  | defect (defect : Defect)
  deriving DecidableEq

namespace Finding

def event? : Finding → Option Event
  | event e => some e
  | _ => none

def relation? : Finding → Option Relation
  | relation r => some r
  | _ => none

def defect? : Finding → Option Defect
  | defect d => some d
  | _ => none

end Finding

end ClassDiagram
