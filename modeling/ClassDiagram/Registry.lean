import Std.Data.TreeMap
import ClassDiagram.Drawing.Renderer
import ClassDiagram.Ignoring
import ClassDiagram.Text.Lowercase

/-! # The registry of notations

Renderers are kept by their names in lower case, so that the case of a key never matters. A later
renderer takes the place of an earlier one with the same key.
-/

namespace ClassDiagram

structure Registry where
  renderers : Std.TreeMap String Renderer

namespace Registry

def empty : Registry :=
  ⟨∅⟩

def register (g : Registry) (r : Renderer) : Registry :=
  ⟨g.renderers.insert (Text.lower r.name) r⟩

def standard : Registry :=
  (empty.register .plantUml).register .yuml

/-- The keys in use, in increasing order. -/
def keys (g : Registry) : List String :=
  g.renderers.keys

def contains (g : Registry) (key : String) : Bool :=
  g.renderers.contains (Text.lower key)

def find (g : Registry) (key : String) : Except Failure Renderer :=
  match g.renderers[Text.lower key]? with
  | some r => .ok r
  | none => .error (.unsupportedNotation key)

def render (g : Registry) (key : String) (lines : List String) : Except Failure Rendering :=
  (g.find key).bind fun r => r.render lines

/-- Draws what is left of the lines without the ignored entities. The renderer is looked up before
any line is read. -/
def renderWithout (g : Registry) (key : String) (ignored lines : List String) :
    Except Failure Rendering :=
  if ignored.isEmpty then g.render key lines else g.render key (withoutEntities ignored lines)

end Registry

end ClassDiagram
