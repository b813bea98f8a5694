import Mathlib.Data.List.Flatten
import ClassDiagram.Proofs.Scan.Occurrence

/-! # Numbers of lines

The number of a line goes into the defect that reports the line and nowhere else. A line is
reported at most once, so the defects of a stream come in the order of their numbers.
-/

namespace ClassDiagram

/-- The finding with the number of its line changed. -/
def Finding.renumber (f : Nat → Nat) : Finding → Finding
  | .defect d => .defect { d with number := f d.number }
  | x => x

theorem Effect.map_renumber_findings (f : Nat → Nat) (l : NumberedLine) (o : Effect) :
    (o.findings l).map (Finding.renumber f) = o.findings (f l.1, l.2) := by
  cases o with
  | filled m relation? => cases relation? <;> rfl
  | _ => rfl

namespace Cursor

variable (c : Cursor) (l : NumberedLine)

theorem map_renumber_findings (f : Nat → Nat) :
    (c.findings l).map (Finding.renumber f) = c.findings (f l.1, l.2) := by
  have hending : (c.ending l.2).map (Finding.renumber f) = c.ending l.2 := by
    rcases c.ending_eq_nil_or l.2 with h | h <;> rw [h] <;> rfl
  rw [findings_eq, findings_eq, List.map_append, Effect.map_renumber_findings, hending]

end Cursor

namespace Occurrence

def defects (o : Occurrence) : List Defect :=
  Finding.defects o.findings

theorem defects_eq (o : Occurrence) :
    o.defects = o.effect.report?.toList.map fun r => ⟨o.number, Text.trim o.line, r.1, r.2⟩ :=
  o.cursor.defects_findings o.numbered

theorem eq_of_mem_defects {o : Occurrence} {d : Defect} (h : d ∈ o.defects) :
    d.number = o.number ∧ d.line = Text.trim o.line := by
  rw [defects_eq, List.mem_map] at h
  obtain ⟨r, -, rfl⟩ := h
  exact ⟨rfl, rfl⟩

theorem numbers_defects_sublist (o : Occurrence) :
    (o.defects.map Defect.number).Sublist [o.number] := by
  rw [defects_eq, List.map_map]
  cases o.effect.report? with
  | none => exact List.nil_sublist _
  | some r => exact List.Sublist.refl _

end Occurrence

theorem map_number_occurrencesFrom (before ls : List String) :
    (occurrencesFrom before ls).map Occurrence.number =
      List.range' (before.length + 1) ls.length := by
  induction ls generalizing before with
  | nil => rfl
  | cons l ls ih =>
    rw [occurrencesFrom, List.map_cons, ih, List.length_append]
    rfl

namespace Survey

theorem defects_eq_flatMap (lines : List String) :
    (ofLines lines).defects = (occurrences lines).flatMap Occurrence.defects := by
  have hscan : Finding.defects (Cursor.start.scan (numbered lines)) =
      Finding.defects ((occurrences lines).flatMap Occurrence.findings) := by
    simp [scan_numbered]
  rw [defects_ofLines, hscan]
  exact List.filterMap_flatMap

theorem numbers_sublist (lines : List String) :
    ((ofLines lines).defects.map Defect.number).Sublist (List.range' 1 lines.length) := by
  have hn : (occurrences lines).map Occurrence.number = List.range' 1 lines.length :=
    map_number_occurrencesFrom [] lines
  rw [defects_eq_flatMap, ← hn, List.map_flatMap]
  induction occurrences lines with
  | nil => exact List.nil_sublist _
  | cons o os ih => exact (o.numbers_defects_sublist).append ih

end Survey

end ClassDiagram
