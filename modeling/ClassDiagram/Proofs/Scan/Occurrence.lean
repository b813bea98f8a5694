import Mathlib.Data.List.Basic
import Mathlib.Data.List.Induction
import ClassDiagram.Drawing.Rendering
import ClassDiagram.Proofs.Scan.Effect

/-! # Lines and what comes before them

The entity and the member section that are open at a line can be read off the lines before it: the
last line of a certain class decides. A scan keeps no more in its cursor than that, so what it
finds is found line by line, and any drawing of a stream is the drawing of what the lines contribute
put in a row.
-/

namespace ClassDiagram

/-- A member section begins or ends here. -/
def Record.isMark : Record → Bool
  | opener _ => true
  | r => r.isBoundary

namespace LookBack

/-- The last of the records with the property. -/
def last? (p : Record → Bool) (before : List String) : Option Record :=
  ((before.map Record.ofLine).filter p).getLast?

/-- The entity of the last header or separator, if that is a header with a name. -/
def entity? (before : List String) : Option String :=
  match last? Record.isBoundary before with
  | some (.header _ name) => if (simpleName name).isEmpty then none else some (simpleName name)
  | _ => none

/-- The section of the last header, separator or section label, if that is a label. -/
def members? (before : List String) : Option MemberSection :=
  match last? Record.isMark before with
  | some (.opener members) => some members
  | _ => none

def cursor (before : List String) : Cursor :=
  ⟨entity? before, members? before⟩

@[simp] theorem last?_append_singleton (p : Record → Bool) (before : List String)
    (line : String) :
    last? p (before ++ [line]) =
      if p (Record.ofLine line) then some (Record.ofLine line) else last? p before := by
  by_cases h : p (Record.ofLine line) = true
  · simp [last?, h]
  · simp [last?, h]

@[simp] theorem cursor_append_singleton (before : List String) (line : String) :
    cursor (before ++ [line]) = (cursor before).advance line := by
  unfold cursor entity? members? Cursor.advance
  rw [last?_append_singleton, last?_append_singleton]
  cases Record.ofLine line <;> rfl

/-- The cursor never knows more than the lines before it tell. -/
theorem run_start (before : List String) : Cursor.start.run before = cursor before := by
  induction before using List.reverseRecOn with
  | nil => rfl
  | append_singleton before line ih =>
    rw [Cursor.run_append, ih, cursor_append_singleton]
    rfl

end LookBack

/-- A line together with the lines before it. -/
structure Occurrence where
  before : List String
  line : String

namespace Occurrence

def number (o : Occurrence) : Nat :=
  o.before.length + 1

def numbered (o : Occurrence) : NumberedLine :=
  (o.number, o.line)

def cursor (o : Occurrence) : Cursor :=
  LookBack.cursor o.before

def findings (o : Occurrence) : List Finding :=
  o.cursor.findings o.numbered

def effect (o : Occurrence) : Effect :=
  o.cursor.effect o.line

end Occurrence

def occurrencesFrom (before : List String) : List String → List Occurrence
  | [] => []
  | l :: ls => ⟨before, l⟩ :: occurrencesFrom (before ++ [l]) ls

/-- The lines of a stream in order, each with the lines before it. -/
def occurrences (lines : List String) : List Occurrence :=
  occurrencesFrom [] lines

theorem mem_occurrencesFrom {before ls : List String} {o : Occurrence} :
    o ∈ occurrencesFrom before ls ↔
      ∃ xs ys, ls = xs ++ o.line :: ys ∧ o.before = before ++ xs := by
  induction ls generalizing before with
  | nil => simp [occurrencesFrom]
  | cons l ls ih =>
    rw [occurrencesFrom, List.mem_cons, ih]
    constructor
    · rintro (rfl | ⟨xs, ys, rfl, hb⟩)
      · exact ⟨[], ls, rfl, (List.append_nil _).symm⟩
      · exact ⟨l :: xs, ys, rfl, by rw [hb, List.append_assoc]; rfl⟩
    · rintro ⟨xs, ys, hl, hb⟩
      cases xs with
      | nil =>
        obtain ⟨rfl, rfl⟩ := List.cons.inj hl
        rw [List.append_nil] at hb
        exact .inl (by cases o; cases hb; rfl)
      | cons x xs =>
        obtain ⟨rfl, rfl⟩ := List.cons.inj hl
        exact .inr ⟨xs, ys, rfl, by rw [hb, List.append_assoc]; rfl⟩

theorem mem_occurrences {lines : List String} {o : Occurrence} :
    o ∈ occurrences lines ↔ ∃ after, lines = o.before ++ o.line :: after := by
  rw [occurrences, mem_occurrencesFrom]
  constructor
  · rintro ⟨xs, ys, rfl, hb⟩
    exact ⟨ys, by rw [hb]; rfl⟩
  · rintro ⟨after, rfl⟩
    exact ⟨o.before, after, rfl, rfl⟩

theorem mem_occurrences_iff_getElem? {lines : List String} {o : Occurrence} :
    o ∈ occurrences lines ↔ ∃ i, lines[i]? = some o.line ∧ o.before = lines.take i := by
  rw [mem_occurrences]
  constructor
  · rintro ⟨after, rfl⟩
    exact ⟨o.before.length, by simp⟩
  · rintro ⟨i, hline, hbefore⟩
    refine ⟨lines.drop (i + 1), ?_⟩
    obtain ⟨hi, hline⟩ := List.getElem?_eq_some_iff.mp hline
    rw [hbefore, ← hline, ← List.drop_eq_getElem_cons hi, List.take_append_drop]

theorem occurrencesFrom_append (before xs ys : List String) :
    occurrencesFrom before (xs ++ ys) =
      occurrencesFrom before xs ++ occurrencesFrom (before ++ xs) ys := by
  induction xs generalizing before with
  | nil => rw [List.append_nil]; rfl
  | cons x xs ih =>
    rw [List.cons_append, occurrencesFrom, ih, List.append_assoc]
    rfl

@[simp] theorem occurrences_append_singleton (xs : List String) (x : String) :
    occurrences (xs ++ [x]) = occurrences xs ++ [⟨xs, x⟩] :=
  occurrencesFrom_append [] xs [x]

theorem map_line_occurrencesFrom (before ls : List String) :
    (occurrencesFrom before ls).map Occurrence.line = ls := by
  induction ls generalizing before with
  | nil => rfl
  | cons l ls ih => rw [occurrencesFrom, List.map_cons, ih]

@[simp] theorem map_line_occurrences (lines : List String) :
    (occurrences lines).map Occurrence.line = lines :=
  map_line_occurrencesFrom [] lines

theorem map_numbered_occurrencesFrom (before ls : List String) :
    (occurrencesFrom before ls).map Occurrence.numbered =
      (ls.zipIdx (before.length + 1)).map fun l => (l.2, l.1) := by
  induction ls generalizing before with
  | nil => rfl
  | cons l ls ih =>
    rw [occurrencesFrom, List.map_cons, ih, List.length_append, List.zipIdx_cons, List.map_cons]
    rfl

theorem numbered_eq_map (lines : List String) :
    ClassDiagram.numbered lines = (occurrences lines).map Occurrence.numbered :=
  (map_numbered_occurrencesFrom [] lines).symm

theorem scan_occurrencesFrom (before ls : List String) :
    (LookBack.cursor before).scan ((occurrencesFrom before ls).map Occurrence.numbered) =
      (occurrencesFrom before ls).flatMap Occurrence.findings ++
        (LookBack.cursor (before ++ ls)).closing := by
  induction ls generalizing before with
  | nil => rw [List.append_nil]; rfl
  | cons l ls ih =>
    have hc : (LookBack.cursor before).advance l = LookBack.cursor (before ++ [l]) :=
      (LookBack.cursor_append_singleton before l).symm
    rw [occurrencesFrom, List.map_cons, Cursor.scan, List.flatMap_cons, List.append_assoc]
    change _ ++ ((LookBack.cursor before).advance l).scan _ = _
    rw [hc, ih, List.append_assoc]
    rfl

/-- A scan finds what each line contributes on its own, and closes the entity that is left open. -/
theorem scan_numbered (lines : List String) :
    Cursor.start.scan (ClassDiagram.numbered lines) =
      (occurrences lines).flatMap Occurrence.findings ++ (LookBack.cursor lines).closing := by
  rw [numbered_eq_map]
  exact scan_occurrencesFrom [] lines

/-- What a line adds to the findings of a stream: it may end the entity that the lines before it
leave open, and it comes to what the rules say for that entity and section. -/
def Occurrence.contribution (o : Occurrence) : List Finding :=
  o.cursor.ending o.line ++ o.effect.findings o.numbered

/-- The findings of a stream, put together from what its lines contribute. An entity that they
leave open is closed in the end. -/
def LookBack.findings (lines : List String) : List Finding :=
  (occurrences lines).flatMap Occurrence.contribution ++ (LookBack.cursor lines).closing

end ClassDiagram
