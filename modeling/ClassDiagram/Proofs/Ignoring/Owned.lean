import ClassDiagram.Ignoring
import ClassDiagram.Proofs.Scan.Occurrence

/-! # Lines of ignored entities

An ignored entity owns its header and what follows it up to the next header, a separator that ends
it included. The lines that no ignored entity owns are the ones that are left, and each of them
comes after those of its former lines that are left.
-/

namespace ClassDiagram

namespace Ignoring

/-- The last header or separator is the header of an ignored entity. -/
def inside (ignored before : List String) : Bool :=
  match LookBack.last? Record.isBoundary before with
  | some (.header _ name) => ignored.contains (simpleName name)
  | _ => false

end Ignoring

namespace Occurrence

/-- The line is the header of an ignored entity, or it is no header and comes after one. -/
def owned (ignored : List String) (o : Occurrence) : Bool :=
  match Record.ofLine o.line with
  | .header _ name => ignored.contains (simpleName name)
  | _ => Ignoring.inside ignored o.before

def isBoundary (o : Occurrence) : Bool :=
  (Record.ofLine o.line).isBoundary

/-- The line where it is when the ignored entities are gone. -/
def without (ignored : List String) (o : Occurrence) : Occurrence :=
  ⟨withoutEntities ignored o.before, o.line⟩

end Occurrence

variable {ignored : List String}

/-- The lines that stay, each with all the lines before it. -/
def remaining (ignored lines : List String) : List Occurrence :=
  (occurrences lines).filter fun o => !o.owned ignored

namespace Ignoring

theorem keeps_inside (before : List String) (line : String) :
    keeps ignored (inside ignored before) line = !Occurrence.owned ignored ⟨before, line⟩ := by
  unfold keeps Occurrence.owned
  cases Record.ofLine line <;> rfl

@[simp] theorem inside_append_singleton (before : List String) (line : String) :
    inside ignored (before ++ [line]) = skips ignored (inside ignored before) line := by
  unfold skips inside
  rw [LookBack.last?_append_singleton]
  cases Record.ofLine line <;> rfl

theorem filterFrom_inside (before ls : List String) :
    filterFrom ignored (inside ignored before) ls =
      ((occurrencesFrom before ls).filter fun o => !o.owned ignored).map Occurrence.line := by
  induction ls generalizing before with
  | nil => rfl
  | cons l ls ih =>
    rw [filterFrom, ← inside_append_singleton, ih, keeps_inside, occurrencesFrom]
    cases h : Occurrence.owned ignored ⟨before, l⟩ with
    | true => rw [List.filter_cons_of_neg (by simp [h])]; rfl
    | false => rw [List.filter_cons_of_pos (by simp [h])]; rfl

end Ignoring

/-- What is left are the lines that no ignored entity owns. -/
theorem withoutEntities_eq_map (lines : List String) :
    withoutEntities ignored lines = (remaining ignored lines).map Occurrence.line :=
  Ignoring.filterFrom_inside [] lines

@[simp] theorem remaining_append_singleton (xs : List String) (x : String) :
    remaining ignored (xs ++ [x]) =
      remaining ignored xs ++
        if Occurrence.owned ignored ⟨xs, x⟩ then [] else [⟨xs, x⟩] := by
  cases h : Occurrence.owned ignored ⟨xs, x⟩ <;> simp [remaining, h]

@[simp] theorem withoutEntities_append_singleton (xs : List String) (x : String) :
    withoutEntities ignored (xs ++ [x]) =
      withoutEntities ignored xs ++ if Occurrence.owned ignored ⟨xs, x⟩ then [] else [x] := by
  rw [withoutEntities_eq_map, withoutEntities_eq_map, remaining_append_singleton,
    List.map_append]
  split_ifs <;> rfl

/-- The lines that are left occur as they did, with owned lines gone from before them. -/
theorem occurrences_withoutEntities (lines : List String) :
    occurrences (withoutEntities ignored lines) =
      (remaining ignored lines).map (Occurrence.without ignored) := by
  induction lines using List.reverseRecOn with
  | nil => rfl
  | append_singleton xs x ih =>
    have hkept : ⟨withoutEntities ignored xs, x⟩ = Occurrence.without ignored ⟨xs, x⟩ := rfl
    cases h : Occurrence.owned ignored ⟨xs, x⟩ with
    | true => simp [h, ih]
    | false => simp [h, ih, hkept]

namespace Ignoring

/-- The last header or separator goes with an ignored entity. -/
def cut (ignored before : List String) : Bool :=
  match ((occurrences before).filter Occurrence.isBoundary).getLast? with
  | some o => o.owned ignored
  | none => false

theorem cut_append_singleton (before : List String) (line : String) :
    cut ignored (before ++ [line]) =
      if Occurrence.isBoundary ⟨before, line⟩ then Occurrence.owned ignored ⟨before, line⟩
      else cut ignored before := by
  by_cases h : Occurrence.isBoundary ⟨before, line⟩ = true
  · simp [cut, h]
  · simp [cut, h]

theorem cut_of_inside {before : List String} (h : inside ignored before = true) :
    cut ignored before = true := by
  induction before using List.reverseRecOn with
  | nil => cases h
  | append_singleton xs x ih =>
    rw [inside_append_singleton, skips] at h
    rw [cut_append_singleton, Occurrence.owned, Occurrence.isBoundary]
    cases hr : Record.ofLine x with
    | header kind name =>
      rw [hr] at h
      exact h
    | separator =>
      rw [hr] at h
      cases h
    | _ =>
      rw [hr] at h
      exact ih h

theorem cursor_withoutEntities {before : List String} (h : cut ignored before = false) :
    LookBack.cursor (withoutEntities ignored before) = LookBack.cursor before := by
  induction before using List.reverseRecOn with
  | nil => rfl
  | append_singleton xs x ih =>
    rw [cut_append_singleton] at h
    rw [withoutEntities_append_singleton, LookBack.cursor_append_singleton]
    by_cases hb : Occurrence.isBoundary ⟨xs, x⟩ = true
    · rw [if_pos hb] at h
      rw [h, if_neg Bool.false_ne_true, LookBack.cursor_append_singleton]
      exact Cursor.advance_of_isBoundary hb _ _
    · rw [if_neg hb] at h
      have hout : Occurrence.owned ignored ⟨xs, x⟩ = false := by
        have hin : inside ignored xs = false :=
          Bool.eq_false_iff.mpr fun hi => Bool.false_ne_true (h.symm.trans (cut_of_inside hi))
        rw [Occurrence.owned]
        cases hr : Record.ofLine x with
        | header kind name =>
          rw [Occurrence.isBoundary, hr] at hb
          exact absurd rfl hb
        | _ => exact hin
      rw [hout, if_neg Bool.false_ne_true, LookBack.cursor_append_singleton, ih h]

end Ignoring

theorem mem_remaining {lines : List String} {o : Occurrence} :
    o ∈ remaining ignored lines ↔ o ∈ occurrences lines ∧ o.owned ignored = false := by
  rw [remaining, List.mem_filter, Bool.not_eq_true']

end ClassDiagram
