import ClassDiagram.Scan.Finding

/-! # Blocks

An entity with its members in order. Blocks are put together from events one by one: at most one
block is pending, and it is done when its entity closes.
-/

namespace ClassDiagram

structure Block where
  kind : EntityKind
  name : String
  members : List Member
  deriving DecidableEq

def Block.push (b : Block) (m : Member) : Block :=
  { b with members := b.members ++ [m] }

structure Assembly where
  blocks : Array Block
  pending? : Option Block

namespace Assembly

def empty : Assembly :=
  ⟨#[], none⟩

/-- A member outside of a block is dropped, as is a block that another one opens in. -/
def step (a : Assembly) : Event → Assembly
  | .opened kind name => ⟨a.blocks, some ⟨kind, name, []⟩⟩
  | .member m => ⟨a.blocks, a.pending?.map (·.push m)⟩
  | .closed =>
    match a.pending? with
    | some b => ⟨a.blocks.push b, none⟩
    | none => a

def run (a : Assembly) (es : List Event) : Assembly :=
  es.foldl step a

end Assembly

def Block.ofEvents (es : List Event) : List Block :=
  (Assembly.empty.run es).blocks.toList

end ClassDiagram
