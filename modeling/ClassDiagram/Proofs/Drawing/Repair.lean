import ClassDiagram.Proofs.Drawing.Diagram
import ClassDiagram.Proofs.Scan.LineByLine

/-! # Repaired streams

A line that is reported can be taken out of its stream. Only a header has to leave a separator
behind, as it ends what was open before it. The repaired stream leads from line to line where the
stream has led, so it finds the same but for the defects.
-/

namespace ClassDiagram

/-- What is left of a line that is reported. -/
def remnant (line : String) : List String :=
  if (Record.ofLine line).isHeader then ["----"] else []

/-- The lines with those repaired that are reported by their numbers. -/
def repaired (defects : List Defect) (lines : List String) : List String :=
  (numbered lines).flatMap fun l =>
    if l.1 ∈ defects.map Defect.number then remnant l.2 else [l.2]

namespace Finding

def isSound : Finding → Bool
  | defect _ => false
  | _ => true

/-- The findings without the defects. -/
def sound (fs : List Finding) : List Finding :=
  fs.filter isSound

@[simp] theorem sound_append (fs gs : List Finding) : sound (fs ++ gs) = sound fs ++ sound gs :=
  List.filter_append ..

@[simp] theorem events_sound (fs : List Finding) : events (sound fs) = events fs := by
  rw [events, sound, List.filterMap_filter, events]
  congr 1
  funext x
  cases x <;> rfl

@[simp] theorem relations_sound (fs : List Finding) : relations (sound fs) = relations fs := by
  rw [relations, sound, List.filterMap_filter, relations]
  congr 1
  funext x
  cases x <;> rfl

@[simp] theorem defects_sound (fs : List Finding) : defects (sound fs) = [] := by
  rw [defects, sound, List.filterMap_filter, List.filterMap_eq_nil_iff]
  intro x _
  cases x <;> rfl

end Finding

theorem Effect.findings_of_report?_eq_none {e : Effect} (h : e.report? = none)
    (l m : NumberedLine) : Finding.sound (e.findings l) = e.findings m := by
  cases e with
  | filled member relation? => cases relation? <;> rfl
  | reported entity? reason => cases h
  | _ => rfl

theorem Effect.sound_findings_of_report? {e : Effect} {r : Option String × DefectReason}
    (h : e.report? = some r) (l : NumberedLine) : Finding.sound (e.findings l) = [] := by
  cases e with
  | reported entity? reason => rfl
  | _ => cases h

namespace Cursor

variable (c : Cursor) {line : String} {r : Option String × DefectReason}

/-- The line itself, or what is left of it if it is reported here. -/
def repair (line : String) : List String :=
  if (c.effect line).report? = none then [line] else remnant line

@[simp] theorem sound_closing : Finding.sound c.closing = c.closing := by
  rcases c.closing_eq_nil_or with h | h <;> rw [h] <;> rfl

@[simp] theorem sound_ending (line : String) : Finding.sound (c.ending line) = c.ending line := by
  rcases c.ending_eq_nil_or line with h | h <;> rw [h] <;> rfl

/-- A line that is reported is a header, which leaves nothing open, or it leaves all as it was. -/
theorem advance_of_reported (h : (c.effect line).report? = some r) :
    c.advance line = if (Record.ofLine line).isHeader then start else c := by
  unfold effect at h
  unfold advance
  cases hr : Record.ofLine line with
  | header kind name =>
    simp only [hr, headerEffect] at h
    split_ifs at h with hn
    · simp only [hn, if_true]
      rfl
    · cases h
  | separator =>
    rw [hr] at h
    cases h
  | opener members =>
    rw [hr] at h
    cases h
  | parent name => rfl
  | content text => rfl

theorem ending_of_reported (h : (c.effect line).report? = some r) :
    c.ending line = if (Record.ofLine line).isHeader then c.closing else [] := by
  unfold effect at h
  unfold ending
  cases hr : Record.ofLine line with
  | separator =>
    rw [hr] at h
    cases h
  | _ => rfl

theorem advance_separator : c.advance "----" = start := by
  have hr : Record.ofLine "----" = .separator := by decide
  rw [advance, hr]
  rfl

theorem findings_separator (n : Nat) : c.findings (n, "----") = c.closing := by
  have hr : Record.ofLine "----" = .separator := by decide
  have hb : Text.isBlank "----" = false := by decide
  simp only [findings, hr, hb, Bool.false_eq_true, if_false]

theorem run_repair (line : String) : c.run (c.repair line) = c.advance line := by
  unfold repair
  cases h : (c.effect line).report? with
  | none => rfl
  | some r =>
    rw [if_neg (Option.some_ne_none r), c.advance_of_reported h, remnant]
    split_ifs
    · exact c.advance_separator
    · rfl

/-- The repaired line finds what the line has found, but for the defect. -/
theorem findings_repair (n m : Nat) (line : String) :
    (c.repair line).flatMap (fun x => c.findings (n, x)) =
      Finding.sound (c.findings (m, line)) := by
  unfold repair
  rw [findings_eq, Finding.sound_append, sound_ending]
  cases h : (c.effect line).report? with
  | none =>
    rw [if_pos rfl, List.flatMap_singleton, findings_eq,
      Effect.findings_of_report?_eq_none h (m, line) (n, line)]
  | some r =>
    rw [if_neg (Option.some_ne_none r), Effect.sound_findings_of_report? h, List.append_nil,
      c.ending_of_reported h, remnant]
    split_ifs
    · rw [List.flatMap_singleton, findings_separator]
    · rfl

theorem repair_eq_nil_or (line : String) : c.repair line = [] ∨ ∃ x, c.repair line = [x] := by
  unfold repair remnant
  split_ifs
  · exact .inr ⟨line, rfl⟩
  · exact .inr ⟨"----", rfl⟩
  · exact .inl rfl

end Cursor

/-- The lines of a stream, each repaired if it is reported. -/
def mended (lines : List String) : List String :=
  (occurrences lines).flatMap fun o => o.cursor.repair o.line

@[simp] theorem mended_append_singleton (xs : List String) (x : String) :
    mended (xs ++ [x]) = mended xs ++ (LookBack.cursor xs).repair x := by
  rw [mended, occurrences_append_singleton, List.flatMap_append, List.flatMap_singleton]
  rfl

theorem cursor_mended (lines : List String) :
    LookBack.cursor (mended lines) = LookBack.cursor lines := by
  induction lines using List.reverseRecOn with
  | nil => rfl
  | append_singleton xs x ih =>
    rw [mended_append_singleton, ← LookBack.run_start, Cursor.run_append, LookBack.run_start, ih,
      Cursor.run_repair, LookBack.cursor_append_singleton]

theorem lineFindings_mended (lines : List String) :
    lineFindings (mended lines) = Finding.sound (lineFindings lines) := by
  induction lines using List.reverseRecOn with
  | nil => rfl
  | append_singleton xs x ih =>
    have hstep := (LookBack.cursor xs).findings_repair ((mended xs).length + 1) (xs.length + 1) x
    rw [lineFindings_append_singleton, Finding.sound_append, ← ih, mended_append_singleton]
    rcases (LookBack.cursor xs).repair_eq_nil_or x with h | ⟨y, h⟩
    · rw [h] at hstep ⊢
      rw [List.append_nil]
      exact (List.append_nil _).symm.trans (congrArg _ hstep)
    · rw [h, List.flatMap_singleton] at hstep
      rw [h, lineFindings_append_singleton]
      refine congrArg _ (Eq.trans ?_ hstep)
      rw [Occurrence.findings, Occurrence.cursor, cursor_mended]
      rfl

theorem scan_mended (lines : List String) :
    Cursor.start.scan (numbered (mended lines)) =
      Finding.sound (Cursor.start.scan (numbered lines)) := by
  rw [scan_numbered, scan_numbered, Finding.sound_append, Cursor.sound_closing, cursor_mended]
  exact congrArg (· ++ _) (lineFindings_mended lines)

theorem Occurrence.eq_of_number_eq {lines : List String} {o q : Occurrence}
    (ho : o ∈ occurrences lines) (hq : q ∈ occurrences lines) (h : o.number = q.number) :
    o = q := by
  obtain ⟨after, ho⟩ := mem_occurrences.mp ho
  obtain ⟨rest, hq⟩ := mem_occurrences.mp hq
  obtain ⟨hbefore, hline⟩ := List.append_inj (ho.symm.trans hq) (Nat.add_right_cancel h)
  cases o
  cases q
  cases hbefore
  cases hline
  rfl

theorem number_mem_defects_iff {lines : List String} {o : Occurrence}
    (ho : o ∈ occurrences lines) :
    o.number ∈ (Survey.ofLines lines).defects.map Defect.number ↔ o.effect.report? ≠ none := by
  rw [Survey.defects_eq_flatMap, List.mem_map]
  constructor
  · rintro ⟨d, hd, hn⟩ hnone
    obtain ⟨q, hq, hdq⟩ := List.mem_flatMap.mp hd
    obtain rfl : o = q :=
      Occurrence.eq_of_number_eq ho hq (hn.symm.trans (Occurrence.eq_of_mem_defects hdq).1)
    rw [Occurrence.defects_eq, hnone] at hdq
    cases hdq
  · intro h
    obtain ⟨r, hr⟩ := Option.ne_none_iff_exists'.mp h
    refine ⟨⟨o.number, Text.trim o.line, r.1, r.2⟩, List.mem_flatMap.mpr ⟨o, ho, ?_⟩, rfl⟩
    rw [Occurrence.defects_eq, hr]
    exact List.mem_singleton.mpr rfl

theorem repaired_eq_mended (lines : List String) :
    repaired (Survey.ofLines lines).defects lines = mended lines := by
  rw [repaired, numbered_eq_map, List.flatMap_map, mended]
  refine List.flatMap_congr fun o ho => ?_
  have hmem : o.numbered.1 ∈ (Survey.ofLines lines).defects.map Defect.number ↔
      (o.cursor.effect o.line).report? ≠ none := number_mem_defects_iff ho
  unfold Cursor.repair
  by_cases h : (o.cursor.effect o.line).report? = none
  · rw [if_pos h, if_neg fun hn => hmem.mp hn h]
    rfl
  · rw [if_neg h, if_pos (hmem.mpr h)]
    rfl

/-- The repaired stream has no defects, and apart from them the survey of the stream. -/
theorem Survey.ofLines_repaired (lines : List String) :
    ofLines (repaired (ofLines lines).defects lines) = { ofLines lines with defects := [] } := by
  have hofFindings (fs : List Finding) : ofFindings (Finding.sound fs) =
      { ofFindings fs with defects := [] } := by
    change Survey.mk (Finding.events _) (Finding.relations _) (Finding.defects _) = _
    rw [Finding.events_sound, Finding.relations_sound, Finding.defects_sound]
    rfl
  rw [repaired_eq_mended, ofLines, ofNumbered, scan_mended, hofFindings]
  rfl

/-- Either notation draws a stream that is repaired where it was reported just as it drew it
before, and has nothing left to report. -/
theorem repaired_drawn_alike (lines : List String) :
    ∃ (d : Diagram) (defects : List Defect),
      DrawnBy (Registry.standard.render · lines) d defects ∧
      DrawnBy (Registry.standard.render · (repaired defects lines)) d [] := by
  refine ⟨_, _, drawnBy_render lines, ?_⟩
  have hdrawn := drawnBy_render (repaired (Survey.ofLines lines).defects lines)
  rwa [Diagram.ofLines, Survey.ofLines_repaired] at hdrawn

/-- A superclass line without a name goes, and a header without a name leaves a separator. -/
example : repaired [⟨2, "Extends:", some "A", .missingParentName⟩,
    ⟨3, "Class: b.", none, .missingEntityName⟩] ["Class: A", "Extends:", "Class: b.", "- int x"] =
      ["Class: A", "----", "- int x"] := by
  decide

end ClassDiagram
