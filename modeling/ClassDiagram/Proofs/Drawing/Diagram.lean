import Mathlib.Algebra.Order.Ring.Nat
import Mathlib.Data.List.Flatten
import ClassDiagram.Registry
import ClassDiagram.Proofs.Scan.Blocks

/-! # One diagram in two notations

PlantUML writes every event as it comes and yUML waits for complete blocks. Both write the same
diagram: blocks in order, then relations. A member is written alike in both, but for the mark that
PlantUML puts on abstract methods.
-/

namespace ClassDiagram

/-- What there is to draw. -/
structure Diagram where
  blocks : List Block
  relations : List Relation

namespace Diagram

def ofLines (lines : List String) : Diagram :=
  ⟨Block.ofEvents (Survey.ofLines lines).events, (Survey.ofLines lines).relations⟩

def memberCount (d : Diagram) : Nat :=
  (d.blocks.map (·.members.length)).sum

end Diagram

/-- A signature as it is shown, with a given word for the modifier `abstract`. -/
def Signature.shown (abstractWord : String) (s : Signature) : String :=
  Text.unwords (String.singleton s.visibility.glyph ::
    s.modifiers.map (fun m => if m = .abstract then abstractWord else m.keyword) ++ [s.text])

namespace PlantUml

def blockLines (b : Block) : List String :=
  (b.kind.keyword ++ " " ++ b.name ++ " \x7b") :: b.members.map memberLine ++ ["\x7d"]

def diagramLines (d : Diagram) : List String :=
  ["@startuml"] ++ d.blocks.flatMap blockLines ++ d.relations.map relationLine ++ ["@enduml"]

theorem map_eventLine_events (b : Block) : b.events.map eventLine = blockLines b := by
  rw [Block.events, Block.opening, List.map_append, List.map_cons, List.map_map]
  rfl

theorem render_eq (lines : List String) :
    draw.render lines =
      ⟨diagramLines (.ofLines lines), (Survey.ofLines lines).defects,
        (Diagram.ofLines lines).blocks.length, (Diagram.ofLines lines).relations.length⟩ := by
  have hl : (Survey.ofLines lines).events.map eventLine =
      (Diagram.ofLines lines).blocks.flatMap blockLines := by
    rw [Survey.events_eq_flatMap, List.map_flatMap]
    exact List.flatMap_congr fun b _ => map_eventLine_events b
  rw [Drawing.render, Drawing.ofSurvey, Survey.entityCount_eq, draw, hl]
  rfl

end PlantUml

namespace Yuml

def diagramLines (d : Diagram) : List String :=
  d.blocks.map blockLine ++ d.relations.map relationLine

theorem render_eq (lines : List String) :
    draw.render lines =
      ⟨diagramLines (.ofLines lines), (Survey.ofLines lines).defects,
        (Diagram.ofLines lines).blocks.length, (Diagram.ofLines lines).relations.length⟩ := by
  rw [Drawing.render, Drawing.ofSurvey, Survey.entityCount_eq]
  rfl

end Yuml

/-- Both notations, asked for by name, write the diagram, report the defects, and count the blocks
and the relations of the diagram. -/
structure DrawnBy (render : String → Except Failure Rendering) (d : Diagram)
    (defects : List Defect) : Prop where
  plantUml : render "plantuml" =
    .ok ⟨PlantUml.diagramLines d, defects, d.blocks.length, d.relations.length⟩
  yuml : render "yuml" =
    .ok ⟨Yuml.diagramLines d, defects, d.blocks.length, d.relations.length⟩

theorem drawnBy_render (lines : List String) :
    DrawnBy (Registry.standard.render · lines) (.ofLines lines) (Survey.ofLines lines).defects where
  plantUml := congrArg Except.ok (PlantUml.render_eq lines)
  yuml := congrArg Except.ok (Yuml.render_eq lines)

end ClassDiagram
