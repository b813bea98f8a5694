import ClassDiagram.Proofs.Scan.Essence

/-! # Streams in a row

A scan goes on in a second stream where the first has led. Behind a separator nothing is open, and
a header closes what is open just as the end of a stream does. With either of them between two
streams both are scanned as if each stood alone, but for the numbers of the lines.
-/

namespace ClassDiagram

/-- The lines that are not blank. -/
def written (lines : List String) : List String :=
  lines.filter fun l => !Text.isBlank l

/-- The first line that is not blank is a header, if there is one. -/
def beginsWithHeader (lines : List String) : Bool :=
  (written lines).head?.all fun l => (Record.ofLine l).isHeader

/-- The last line that is not blank is a separator, if there is one. -/
def endsWithSeparator (lines : List String) : Bool :=
  (written lines).getLast?.all fun l => Record.ofLine l = .separator

/-- Nothing that is open in the first stream is open in the second. -/
def severed (xs ys : List String) : Bool :=
  endsWithSeparator xs || beginsWithHeader ys

@[simp] theorem written_append (xs ys : List String) :
    written (xs ++ ys) = written xs ++ written ys :=
  List.filter_append ..

namespace Cursor

variable {lines : List String}

/-- The findings of lines one after another. What they leave open is not closed. -/
def along (c : Cursor) : List NumberedLine → List Finding
  | [] => []
  | l :: ls => c.findings l ++ (c.advance l.2).along ls

theorem scan_append (c : Cursor) (xs ys : List NumberedLine) :
    c.scan (xs ++ ys) = c.along xs ++ (c.run (xs.map (·.2))).scan ys := by
  induction xs generalizing c with
  | nil => rfl
  | cons x xs ih =>
    rw [List.cons_append, scan, ih, along, List.append_assoc]
    rfl

theorem scan_eq_along (c : Cursor) (ls : List NumberedLine) :
    c.scan ls = c.along ls ++ (c.run (ls.map (·.2))).closing := by
  have h := c.scan_append ls []
  rwa [List.append_nil] at h

theorem findings_of_isBlank {l : NumberedLine} (h : Text.isBlank l.2 = true) (c : Cursor) :
    c.findings l = [] :=
  if_pos h

theorem run_written (c : Cursor) (lines : List String) : c.run (written lines) = c.run lines := by
  induction lines generalizing c with
  | nil => rfl
  | cons line lines ih =>
    have hcons : c.run (line :: lines) = (c.advance line).run lines := rfl
    by_cases hb : Text.isBlank line = true
    · rw [written, List.filter_cons_of_neg (by simp [hb]), ← written, ih, hcons,
        advance_of_isBlank hb]
    · rw [written, List.filter_cons_of_pos (by simp [hb]), ← written, hcons, ← ih]
      rfl

theorem scan_filter_isBlank (c : Cursor) (ls : List NumberedLine) :
    c.scan (ls.filter fun l => !Text.isBlank l.2) = c.scan ls := by
  induction ls generalizing c with
  | nil => rfl
  | cons l ls ih =>
    by_cases hb : Text.isBlank l.2 = true
    · rw [List.filter_cons_of_neg (by simp [hb]), ih, scan, findings_of_isBlank hb,
        advance_of_isBlank hb, List.nil_append]
    · rw [List.filter_cons_of_pos (by simp [hb]), scan, scan, ih]

theorem run_of_endsWithSeparator (h : endsWithSeparator lines = true) :
    start.run lines = start := by
  rw [← run_written]
  unfold endsWithSeparator at h
  rcases List.eq_nil_or_concat (written lines) with hw | ⟨ls, l, hw⟩
  · rw [hw]
    rfl
  · rw [hw, List.concat_eq_append, List.getLast?_concat] at h
    have hr : Record.ofLine l = .separator := of_decide_eq_true h
    have hl : (start.run ls).run [l] = (start.run ls).advance l := rfl
    rw [hw, List.concat_eq_append, run_append, hl, advance, hr]
    rfl

theorem findings_of_isHeader {l : NumberedLine} (h : (Record.ofLine l.2).isHeader = true)
    (c : Cursor) : c.findings l = c.closing ++ start.findings l := by
  rw [findings_eq, findings_eq]
  unfold ending effect
  cases hr : Record.ofLine l.2 with
  | header kind name => rfl
  | _ =>
    rw [hr] at h
    cases h

/-- A scan passes over the blank lines in front. If the first line behind them is of some kind, then
the scan ends at once or goes on at a line of that kind. -/
theorem scan_eq_closing_or_cons {p : String → Bool} {ls : List NumberedLine}
    (h : (written (ls.map (·.2))).head?.all p = true) :
    (∀ c : Cursor, c.scan ls = c.closing) ∨
      ∃ l rest, p l.2 = true ∧ ∀ c : Cursor, c.scan ls = c.scan (l :: rest) := by
  have hw : written (ls.map (·.2)) = (ls.filter fun l => !Text.isBlank l.2).map (·.2) :=
    List.filter_map
  rw [hw] at h
  cases hf : ls.filter fun l => !Text.isBlank l.2 with
  | nil => exact .inl fun c => by rw [← scan_filter_isBlank, hf, scan]
  | cons l rest =>
    rw [hf] at h
    exact .inr ⟨l, rest, h, fun c => by rw [← scan_filter_isBlank, hf]⟩

theorem scan_of_beginsWithHeader {ls : List NumberedLine}
    (h : beginsWithHeader (ls.map (·.2)) = true) (c : Cursor) :
    c.scan ls = c.closing ++ start.scan ls := by
  rcases scan_eq_closing_or_cons h with hend | ⟨l, rest, hheader, hscan⟩
  · rw [hend, hend]
    exact (List.append_nil _).symm
  · have hboundary : (Record.ofLine l.2).isBoundary = true := by
      cases hr : Record.ofLine l.2 <;> simp_all [Record.isHeader, Record.isBoundary]
    rw [hscan, hscan, scan, scan, findings_of_isHeader hheader,
      advance_of_isBoundary hboundary c start, List.append_assoc]

/-- Two streams that are severed are scanned one after the other. -/
theorem scan_append_of_severed {ls ms : List NumberedLine}
    (h : severed (ls.map (·.2)) (ms.map (·.2)) = true) :
    start.scan (ls ++ ms) = start.scan ls ++ start.scan ms := by
  rw [scan_append, scan_eq_along start ls]
  rcases Bool.or_eq_true_iff.mp h with hend | hbegin
  · have hclosing : start.closing = [] := rfl
    rw [run_of_endsWithSeparator hend, hclosing, List.append_nil]
  · rw [scan_of_beginsWithHeader hbegin, List.append_assoc]

theorem map_renumber_along (f : Nat → Nat) (c : Cursor) (ls : List NumberedLine) :
    (c.along ls).map (Finding.renumber f) = c.along (ls.map fun l => (f l.1, l.2)) := by
  induction ls generalizing c with
  | nil => rfl
  | cons l ls ih => rw [along, List.map_append, map_renumber_findings, ih, List.map_cons, along]

theorem map_renumber_scan (f : Nat → Nat) (c : Cursor) (ls : List NumberedLine) :
    (c.scan ls).map (Finding.renumber f) = c.scan (ls.map fun l => (f l.1, l.2)) := by
  have hclosing (d : Cursor) : d.closing.map (Finding.renumber f) = d.closing := by
    rcases d.closing_eq_nil_or with h | h <;> rw [h] <;> rfl
  rw [scan_eq_along, List.map_append, map_renumber_along, hclosing, scan_eq_along, List.map_map]
  rfl

end Cursor

/-- The defect of a line that stands further down. -/
def Defect.moved (k : Nat) (d : Defect) : Defect :=
  { d with number := d.number + k }

theorem map_snd_numbered (lines : List String) : (numbered lines).map (·.2) = lines := by
  rw [numbered, List.map_map]
  exact List.zipIdx_map_fst 1 lines

/-- The lines of a stream, numbered behind as many others. -/
def numberedBehind (k : Nat) (lines : List String) : List NumberedLine :=
  (numbered lines).map fun l => (l.1 + k, l.2)

theorem numbered_append (xs ys : List String) :
    numbered (xs ++ ys) = numbered xs ++ numberedBehind xs.length ys := by
  rw [numbered, List.zipIdx_append, Nat.add_comm 1 xs.length,
    ← List.map_snd_add_zipIdx_eq_zipIdx, List.map_append, List.map_map, numberedBehind, numbered,
    numbered, List.map_map]
  rfl

theorem numberedBehind_append (k : Nat) (xs ys : List String) :
    numberedBehind k (xs ++ ys) =
      numberedBehind k xs ++ numberedBehind (k + xs.length) ys := by
  rw [numberedBehind, numbered_append, List.map_append, numberedBehind, numberedBehind,
    numberedBehind, List.map_map]
  congr 2
  funext l
  simp only [Function.comp_apply, Nat.add_assoc, Nat.add_comm k]

theorem map_snd_numberedBehind (k : Nat) (lines : List String) :
    (numberedBehind k lines).map (·.2) = lines := by
  rw [numberedBehind, List.map_map]
  exact map_snd_numbered lines

namespace Finding

@[simp] theorem events_map_renumber (f : Nat → Nat) (fs : List Finding) :
    events (fs.map (renumber f)) = events fs := by
  have hevent : event? ∘ renumber f = event? := by
    funext x
    cases x <;> rfl
  rw [events, List.filterMap_map, hevent, events]

@[simp] theorem relations_map_renumber (f : Nat → Nat) (fs : List Finding) :
    relations (fs.map (renumber f)) = relations fs := by
  have hrelation : relation? ∘ renumber f = relation? := by
    funext x
    cases x <;> rfl
  rw [relations, List.filterMap_map, hrelation, relations]

@[simp] theorem defects_map_renumber (k : Nat) (fs : List Finding) :
    defects (fs.map (renumber (· + k))) = (defects fs).map (.moved k) := by
  have hdefect : defect? ∘ renumber (· + k) = fun x => (defect? x).map (.moved k) := by
    funext x
    cases x <;> rfl
  rw [defects, List.filterMap_map, hdefect, defects, List.map_filterMap]

end Finding

namespace Survey

/-- The survey of a stream of the given length and of one behind it. -/
def followedBy (s : Survey) (length : Nat) (t : Survey) : Survey :=
  ⟨s.events ++ t.events, s.relations ++ t.relations, s.defects ++ t.defects.map (.moved length)⟩

theorem ofLines_append {xs ys : List String} (h : severed xs ys = true) :
    ofLines (xs ++ ys) = (ofLines xs).followedBy xs.length (ofLines ys) := by
  have hsevered : severed ((numbered xs).map (·.2))
      ((numberedBehind xs.length ys).map (·.2)) = true := by
    rw [map_snd_numbered, map_snd_numberedBehind, h]
  have hscan : Cursor.start.scan (numbered (xs ++ ys)) = Cursor.start.scan (numbered xs) ++
      (Cursor.start.scan (numbered ys)).map (Finding.renumber (· + xs.length)) := by
    rw [numbered_append, Cursor.scan_append_of_severed hsevered, Cursor.map_renumber_scan]
    rfl
  have hofFindings (fs : List Finding) : ofFindings fs =
      ⟨Finding.events fs, Finding.relations fs, Finding.defects fs⟩ := rfl
  simp [ofLines, ofNumbered, hscan, hofFindings, followedBy]

end Survey

end ClassDiagram
