import ClassDiagram.Scan.Survey
import ClassDiagram.Text.Lines

/-! # Renderings

The lines of a drawn diagram together with what was counted and what was left out.
-/

namespace ClassDiagram

/-- How a notation writes the events and relations of a survey. -/
abbrev Drawing := List Event → List Relation → List String

structure Rendering where
  lines : List String
  defects : List Defect
  entityCount : Nat
  relationCount : Nat
  deriving DecidableEq

namespace Rendering

def isClean (r : Rendering) : Bool :=
  r.defects.isEmpty

def text (r : Rendering) : String :=
  Text.unlines r.lines

end Rendering

namespace Drawing

def ofSurvey (draw : Drawing) (s : Survey) : Rendering :=
  ⟨draw s.events s.relations, s.defects, s.entityCount, s.relations.length⟩

def render (draw : Drawing) (lines : List String) : Rendering :=
  draw.ofSurvey (Survey.ofLines lines)

end Drawing

end ClassDiagram
