import ClassDiagram.Drawing.Rendering
import ClassDiagram.Failure
import ClassDiagram.Scan.Block

/-! # Renderers

A renderer draws record lines in a notation that it names. The two built-in ones never fail and have
the version of the program.

PlantUML writes every event as soon as it comes: a block is a line that opens it, a line for each
member, and a line that closes it. yUML writes a block as one line in brackets once it is complete.
Relations follow the blocks in both.
-/

namespace ClassDiagram

namespace Program

def name : String :=
  "umlscribe"

def version : String :=
  "0.1.0"

end Program

namespace PlantUml

def abstractMarker : String :=
  "\x7babstract\x7d"

def memberLine : Member → String
  | .constructor s => s.render none
  | .method s => s.render (some abstractMarker)
  | .field f => f.render

def eventLine : Event → String
  | .opened kind name => kind.keyword ++ " " ++ name ++ " \x7b"
  | .member m => memberLine m
  | .closed => "\x7d"

/-- The arrow points from the owner at what it is composed of, and at the owner otherwise. -/
def relationLine (r : Relation) : String :=
  match r.kind with
  | .inheritance => r.target ++ " <|-- " ++ r.owner
  | .realization => r.target ++ " <|.. " ++ r.owner
  | .composition => r.owner ++ " ---> " ++ r.target

def draw : Drawing := fun es rs =>
  ["@startuml"] ++ es.map eventLine ++ rs.map relationLine ++ ["@enduml"]

end PlantUml

namespace Yuml

def memberText : Member → String
  | .constructor s => s.render none
  | .method s => s.render none
  | .field f => f.render

def blockLine (b : Block) : String :=
  if b.members.isEmpty then "[" ++ b.name ++ "]"
  else "[" ++ b.name ++ "|" ++ ";".intercalate (b.members.map memberText) ++ "]"

def arrow : RelationKind → String
  | .inheritance => "^-"
  | .realization => "^.-"
  | .composition => "->"

def relationLine (r : Relation) : String :=
  "[" ++ r.owner ++ "]" ++ arrow r.kind ++ "[" ++ r.target ++ "]"

def draw : Drawing := fun es rs =>
  (Block.ofEvents es).map blockLine ++ rs.map relationLine

end Yuml

structure Renderer where
  name : String
  version : String
  layout : String
  render : List String → Except Failure Rendering

namespace Renderer

def plantUml : Renderer :=
  ⟨"plantuml", Program.version, "block", fun lines => .ok (PlantUml.draw.render lines)⟩

def yuml : Renderer :=
  ⟨"yuml", Program.version, "bracket", fun lines => .ok (Yuml.draw.render lines)⟩

end Renderer

end ClassDiagram
