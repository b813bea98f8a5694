import ClassDiagram.Scan.Cursor

/-! # Surveys

The findings of a whole stream, sorted by kind.
-/

namespace ClassDiagram

structure Survey where
  events : List Event
  relations : List Relation
  defects : List Defect
  deriving DecidableEq

def numbered (lines : List String) : List NumberedLine :=
  lines.zipIdx 1 |>.map fun l => (l.2, l.1)

namespace Survey

def ofFindings (fs : List Finding) : Survey :=
  ⟨fs.filterMap Finding.event?, fs.filterMap Finding.relation?, fs.filterMap Finding.defect?⟩

def ofNumbered (ls : List NumberedLine) : Survey :=
  ofFindings (Cursor.start.scan ls)

def ofLines (lines : List String) : Survey :=
  ofNumbered (numbered lines)

def entityCount (s : Survey) : Nat :=
  s.events.countP fun
    | .opened _ _ => true
    | _ => false

end Survey

end ClassDiagram
