import ClassDiagram.Proofs.Scan.Blocks
import ClassDiagram.Proofs.Scan.Number

/-! # What findings say of a diagram

A diagram and its defects do not show the number of a line, nor which line it was that closed an
entity. Without them findings still tell the blocks, the relations and the defects.
-/

namespace ClassDiagram

def Defect.unnumbered (d : Defect) : Defect :=
  { d with number := 0 }

namespace Finding

def essence? : Finding → Option Finding
  | .event .closed => none
  | .defect d => some (.defect d.unnumbered)
  | x => some x

/-- The findings without the numbers of lines and without closings. -/
def essence (fs : List Finding) : List Finding :=
  fs.filterMap essence?

@[simp] theorem essence_append (fs gs : List Finding) :
    essence (fs ++ gs) = essence fs ++ essence gs :=
  List.filterMap_append

theorem essence_flatMap {α : Type} (f : α → List Finding) (xs : List α) :
    essence (xs.flatMap f) = xs.flatMap fun x => essence (f x) :=
  List.filterMap_flatMap

theorem essence_map_renumber (f : Nat → Nat) (fs : List Finding) :
    essence (fs.map (renumber f)) = essence fs := by
  rw [essence, List.filterMap_map]
  congr 1
  funext x
  cases x <;> rfl

theorem events_essence (fs : List Finding) :
    events (essence fs) = (events fs).filter (· ≠ .closed) := by
  rw [events, essence, List.filterMap_filterMap, events, List.filter_filterMap]
  congr 1
  funext x
  cases x with
  | event e => cases e <;> rfl
  | relation r => rfl
  | defect d => rfl

theorem relations_essence (fs : List Finding) : relations (essence fs) = relations fs := by
  rw [relations, essence, List.filterMap_filterMap]
  congr 1
  funext x
  cases x with
  | event e => cases e <;> rfl
  | relation r => rfl
  | defect d => rfl

theorem defects_essence (fs : List Finding) :
    defects (essence fs) = (defects fs).map Defect.unnumbered := by
  rw [defects, essence, List.filterMap_filterMap, defects, List.map_filterMap]
  congr 1
  funext x
  cases x with
  | event e => cases e <;> rfl
  | relation r => rfl
  | defect d => rfl

theorem gather_events_essence (fs : List Finding) :
    Block.gather (events (essence fs)) = Block.gather (events fs) := by
  rw [events_essence, Block.gather_filter_closed]

end Finding

namespace Cursor

@[simp] theorem essence_closing (c : Cursor) : Finding.essence c.closing = [] := by
  rcases c.closing_eq_nil_or with h | h <;> rw [h] <;> rfl

@[simp] theorem essence_ending (c : Cursor) (line : String) :
    Finding.essence (c.ending line) = [] := by
  rcases c.ending_eq_nil_or line with h | h <;> rw [h] <;> rfl

theorem essence_findings (c : Cursor) (n m : Nat) (line : String) :
    Finding.essence (c.findings (n, line)) = Finding.essence (c.findings (m, line)) := by
  rw [← c.map_renumber_findings (m, line) fun _ => n, Finding.essence_map_renumber]

end Cursor

theorem essence_scan (lines : List String) :
    Finding.essence (Cursor.start.scan (numbered lines)) =
      (occurrences lines).flatMap fun o => Finding.essence o.findings := by
  simp [scan_numbered, Finding.essence_flatMap]

end ClassDiagram
