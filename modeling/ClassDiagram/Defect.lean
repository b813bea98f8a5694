import ClassDiagram.Text.Quoted

/-! # Defects

A line that does not have the form its place asks for is left out of the diagram and reported.
-/

namespace ClassDiagram

inductive DefectReason
  | missingEntityName
  | parentOutsideEntity
  | missingParentName
  | memberOutsideEntity
  | missingInterfaceName
  | missingConstructor
  | missingMethod
  | incompleteField
  | worded (text : String)
  deriving DecidableEq

def DefectReason.message : DefectReason → String
  | missingEntityName => "missing entity name"
  | parentOutsideEntity => "superclass outside of an entity"
  | missingParentName => "missing superclass name"
  | memberOutsideEntity => "member line outside of an entity"
  | missingInterfaceName => "missing interface name"
  | missingConstructor => "missing constructor signature"
  | missingMethod => "missing method signature"
  | incompleteField => "expected `modifier type name`"
  | worded text => text

/-- A reported line: its number, counted from one, its trimmed text, and the entity it stands in. -/
structure Defect where
  number : Nat
  line : String
  entity? : Option String
  reason : DefectReason
  deriving DecidableEq

def Defect.message (d : Defect) : String :=
  let place := match d.entity? with
    | some entity => "line " ++ toString d.number ++ " in " ++ entity
    | none => "line " ++ toString d.number
  place ++ ": " ++ d.reason.message ++ " (" ++ Text.quote d.line ++ ")"

end ClassDiagram
