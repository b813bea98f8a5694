import ClassDiagram.Record

/-! # Ignoring entities

Before a stream is drawn, entities can be taken out of it by their simple names. An ignored entity
goes with all its lines, the separator that ends it included.
-/

namespace ClassDiagram

namespace Ignoring

/-- Whether the lines after this one belong to an ignored entity. -/
def skips (ignored : List String) (skipping : Bool) (line : String) : Bool :=
  match Record.ofLine line with
  | .header _ name => ignored.contains (simpleName name)
  | .separator => false
  | _ => skipping

/-- Whether the line itself is kept. -/
def keeps (ignored : List String) (skipping : Bool) (line : String) : Bool :=
  match Record.ofLine line with
  | .header _ name => !ignored.contains (simpleName name)
  | _ => !skipping

def filterFrom (ignored : List String) (skipping : Bool) : List String → List String
  | [] => []
  | l :: ls =>
    (if keeps ignored skipping l then [l] else []) ++
      filterFrom ignored (skips ignored skipping l) ls

end Ignoring

/-- The lines that are left when the named entities are taken out. -/
def withoutEntities (ignored : List String) (lines : List String) : List String :=
  Ignoring.filterFrom ignored false lines

end ClassDiagram
