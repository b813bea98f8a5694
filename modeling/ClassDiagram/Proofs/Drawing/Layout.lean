import ClassDiagram.Proofs.Drawing.Pieces
import ClassDiagram.Proofs.Ignoring.Survivors
import ClassDiagram.Proofs.Text.Lines

/-! # Layout

Blanks around a line do not show in its findings, and a blank line has none. Streams that differ in
such blanks alone are drawn alike, whatever is taken out of them, and so are a list of lines and
the text that they make.
-/

namespace ClassDiagram

theorem Effect.findings_trim (e : Effect) (n : Nat) (line : String) :
    e.findings (n, Text.trim line) = e.findings (n, line) := by
  cases e with
  | reported entity? reason => simp only [findings, Text.trim_trim]
  | _ => rfl

namespace Cursor

variable (c : Cursor)

theorem advance_trim (line : String) : c.advance (Text.trim line) = c.advance line := by
  simp only [advance, Record.ofLine_trim]

theorem findings_trim (n : Nat) (line : String) :
    c.findings (n, Text.trim line) = c.findings (n, line) := by
  have hending : c.ending (Text.trim line) = c.ending line := by
    simp only [ending, Record.ofLine_trim]
  have heffect : c.effect (Text.trim line) = c.effect line := by
    simp only [effect, Record.ofLine_trim, Text.isBlank_trim]
  simp only [findings_eq, hending, heffect, Effect.findings_trim]

theorem scan_map_trim (ls : List NumberedLine) :
    c.scan (ls.map fun l => (l.1, Text.trim l.2)) = c.scan ls := by
  induction ls generalizing c with
  | nil => rfl
  | cons l ls ih => rw [List.map_cons, scan, findings_trim, advance_trim, ih, scan]

end Cursor

theorem Survey.ofLines_map_trim (lines : List String) :
    ofLines (lines.map Text.trim) = ofLines lines := by
  have hnumbered : numbered (lines.map Text.trim) =
      (numbered lines).map fun l => (l.1, Text.trim l.2) := by
    simp [numbered, List.zipIdx_map]
  rw [ofLines, ofNumbered, hnumbered, Cursor.scan_map_trim, ofLines, ofNumbered]

theorem Survey.ofLines_append_of_isBlank (lines : List String) {ends : List String}
    (h : ∀ l ∈ ends, Text.isBlank l = true) : ofLines (lines ++ ends) = ofLines lines := by
  have hends : (numberedBehind lines.length ends).filter (fun l => !Text.isBlank l.2) = [] := by
    rw [List.filter_eq_nil_iff]
    intro l hl
    have hmem : l.2 ∈ ends := by
      rw [← map_snd_numberedBehind lines.length ends]
      exact List.mem_map_of_mem hl
    simp [h l.2 hmem]
  rw [ofLines, ofNumbered, numbered_append, ← Cursor.scan_filter_isBlank, List.filter_append,
    hends, List.append_nil, Cursor.scan_filter_isBlank, ofLines, ofNumbered]

/-- Without the numbers of lines a scan does not show that blank lines are gone. -/
theorem essence_scan_written (lines : List String) :
    Finding.essence (Cursor.start.scan (numbered (written lines))) =
      Finding.essence (Cursor.start.scan (numbered lines)) := by
  have hunnumbered (ls : List String) : Finding.essence (Cursor.start.scan (numbered ls)) =
      Finding.essence (Cursor.start.scan (ls.map (Prod.mk 0))) := by
    have hzero : (numbered ls).map (fun l => (0, l.2)) = ls.map (Prod.mk 0) := by
      conv => rhs; rw [← map_snd_numbered ls, List.map_map]
      rfl
    rw [← Finding.essence_map_renumber (fun _ => 0), Cursor.map_renumber_scan, hzero]
  have hwritten : (written lines).map (Prod.mk 0) =
      (lines.map (Prod.mk 0)).filter fun l => !Text.isBlank l.2 := by
    rw [List.filter_map]
    rfl
  rw [hunnumbered, hwritten, Cursor.scan_filter_isBlank, ← hunnumbered]

theorem ofLines_eq_essence (lines : List String) {fs : List Finding}
    (h : Finding.essence (Cursor.start.scan (numbered lines)) = fs) :
    Diagram.ofLines lines = ⟨Block.gather (Finding.events fs), Finding.relations fs⟩ ∧
      reports lines = Finding.defects fs := by
  subst h
  rw [Finding.gather_events_essence, Finding.relations_essence, Finding.defects_essence,
    Diagram.ofLines, Survey.ofEvents_eq_gather]
  exact ⟨rfl, rfl⟩

theorem ofLines_written (lines : List String) :
    Diagram.ofLines (written lines) = Diagram.ofLines lines ∧
      reports (written lines) = reports lines := by
  obtain ⟨hdiagram, hreports⟩ := ofLines_eq_essence (written lines) (essence_scan_written lines)
  obtain ⟨hdiagram', hreports'⟩ := ofLines_eq_essence lines rfl
  exact ⟨hdiagram.trans hdiagram'.symm, hreports.trans hreports'.symm⟩

namespace Ignoring

variable (ignored : List String) (skipping : Bool)

theorem filterFrom_map_trim (lines : List String) :
    filterFrom ignored skipping (lines.map Text.trim) =
      (filterFrom ignored skipping lines).map Text.trim := by
  induction lines generalizing skipping with
  | nil => rfl
  | cons l ls ih =>
    have hkeeps : keeps ignored skipping (Text.trim l) = keeps ignored skipping l := by
      simp only [keeps, Record.ofLine_trim]
    have hskips : skips ignored skipping (Text.trim l) = skips ignored skipping l := by
      simp only [skips, Record.ofLine_trim]
    rw [List.map_cons, filterFrom, hkeeps, hskips, ih, filterFrom, List.map_append]
    split_ifs <;> rfl

theorem filterFrom_written (lines : List String) :
    filterFrom ignored skipping (written lines) = written (filterFrom ignored skipping lines) := by
  induction lines generalizing skipping with
  | nil => rfl
  | cons l ls ih =>
    by_cases hb : Text.isBlank l = true
    · -- a blank line goes or stays with those around it, and nothing begins or ends at it
      have hskips : skips ignored skipping l = skipping := by
        simp only [skips, Record.ofLine_of_isBlank hb]
      have hkept : written (if keeps ignored skipping l then [l] else []) = [] := by
        split_ifs <;> simp [written, hb]
      have hcons : written (l :: ls) = written ls := by simp [written, hb]
      rw [hcons, ih, filterFrom, hskips, written_append, hkept, List.nil_append]
    · have hkept : written (if keeps ignored skipping l then [l] else []) =
          if keeps ignored skipping l then [l] else [] := by
        split_ifs <;> simp [written, hb]
      have hcons : written (l :: ls) = l :: written ls := by simp [written, hb]
      rw [hcons, filterFrom, ih, filterFrom, written_append, hkept]

end Ignoring

section Ignored

variable (ignored : List String) (lines : List String)

theorem withoutEntities_map_trim :
    withoutEntities ignored (lines.map Text.trim) = (withoutEntities ignored lines).map Text.trim :=
  Ignoring.filterFrom_map_trim ignored false lines

theorem withoutEntities_written :
    withoutEntities ignored (written lines) = written (withoutEntities ignored lines) :=
  Ignoring.filterFrom_written ignored false lines

end Ignored

/-- Both notations draw the same diagram with the same defects in one way and in the other. -/
def DrawnAlike (render other : String → Except Failure Rendering) : Prop :=
  ∃ (d : Diagram) (defects : List Defect), DrawnBy render d defects ∧ DrawnBy other d defects

section

variable {xs ys : List String}

theorem drawnAlike_of_ofLines_eq (h : Survey.ofLines xs = Survey.ofLines ys) :
    DrawnAlike (Registry.standard.render · xs) (Registry.standard.render · ys) := by
  refine ⟨_, _, drawnBy_render xs, ?_⟩
  have hys := drawnBy_render ys
  rwa [Diagram.ofLines, ← h] at hys

theorem drawnAlike_of_map_trim_eq (h : xs.map Text.trim = ys.map Text.trim)
    (ignored : List String) :
    DrawnAlike (Registry.standard.renderWithout · ignored xs)
      (Registry.standard.renderWithout · ignored ys) := by
  simp only [Registry.renderWithout_eq]
  apply drawnAlike_of_ofLines_eq
  rw [← Survey.ofLines_map_trim, ← withoutEntities_map_trim, h, withoutEntities_map_trim,
    Survey.ofLines_map_trim]

/-- Blank lines count for nothing but the numbers of the lines after them. -/
theorem drawn_of_written_eq (h : written xs = written ys) (ignored : List String) :
    ∃ (d : Diagram) (defects others : List Defect),
      DrawnBy (Registry.standard.renderWithout · ignored xs) d defects ∧
      DrawnBy (Registry.standard.renderWithout · ignored ys) d others ∧
      defects.map Defect.unnumbered = others.map Defect.unnumbered := by
  have hleft : written (withoutEntities ignored xs) = written (withoutEntities ignored ys) := by
    rw [← withoutEntities_written, h, withoutEntities_written]
  obtain ⟨hxs, hxsReports⟩ := ofLines_written (withoutEntities ignored xs)
  obtain ⟨hys, hysReports⟩ := ofLines_written (withoutEntities ignored ys)
  rw [hleft] at hxs hxsReports
  refine ⟨_, _, _, drawnBy_renderWithout ignored xs, ?_, hxsReports.symm.trans hysReports⟩
  rw [← hxs, hys]
  exact drawnBy_renderWithout ignored ys

theorem drawnAlike_lines_unlines (h : ∀ l ∈ xs, '\n' ∉ l.toList) :
    DrawnAlike (Registry.standard.render · (Text.lines (Text.unlines xs)))
      (Registry.standard.render · xs) := by
  obtain ⟨ends, hends, htrim⟩ := Text.map_trim_lines_unlines h
  have hblank : ∀ l ∈ ends, Text.isBlank l = true := by
    rcases hends with rfl | rfl <;> decide
  apply drawnAlike_of_ofLines_eq
  rw [← Survey.ofLines_append_of_isBlank _ hblank, ← Survey.ofLines_map_trim, htrim,
    Survey.ofLines_map_trim]

end

/-- Neither blanks around lines nor blank lines count for anything but the numbers of lines,
whatever is ignored. A text is drawn as the lines that it is made of, and either kind of line end
will do. -/
theorem layout_drawn_alike :
    (∀ ignored xs ys : List String, xs.map Text.trim = ys.map Text.trim →
      DrawnAlike (Registry.standard.renderWithout · ignored xs)
        (Registry.standard.renderWithout · ignored ys)) ∧
    (∀ ignored xs ys : List String, written xs = written ys →
      ∃ (d : Diagram) (defects others : List Defect),
        DrawnBy (Registry.standard.renderWithout · ignored xs) d defects ∧
        DrawnBy (Registry.standard.renderWithout · ignored ys) d others ∧
        defects.map Defect.unnumbered = others.map Defect.unnumbered) ∧
    (∀ lines : List String, (∀ l ∈ lines, '\n' ∉ l.toList) →
      DrawnAlike (Registry.standard.render · (Text.lines (Text.unlines lines)))
        (Registry.standard.render · lines)) ∧
    ∀ text : String,
      DrawnAlike (Registry.standard.render · (Text.lines (Text.withCarriageReturns text)))
        (Registry.standard.render · (Text.lines text)) ∧
      ∀ ignored : List String,
        DrawnAlike
          (Registry.standard.renderWithout · ignored (Text.lines (Text.withCarriageReturns text)))
          (Registry.standard.renderWithout · ignored (Text.lines text)) := by
  refine ⟨fun ignored _ _ h => drawnAlike_of_map_trim_eq h ignored,
    fun ignored _ _ h => drawn_of_written_eq h ignored, fun _ h => drawnAlike_lines_unlines h, ?_⟩
  intro text
  have htrim := Text.map_trim_lines_withCarriageReturns text
  -- with nothing ignored the lines are drawn as they are
  exact ⟨drawnAlike_of_map_trim_eq htrim [], drawnAlike_of_map_trim_eq htrim⟩

/-- An indented stream with an ignored class, the same without its blank line, and a text whose
last line is empty. -/
theorem indented_lines_drawn_alike :
    ([" Class: A", "Extends:\r", "Class: B "].map Text.trim =
      ["Class: A\t", "  Extends:", "Class: B"].map Text.trim ∧
    DrawnAlike (Registry.standard.renderWithout · ["B"] [" Class: A", "Extends:\r", "Class: B "])
      (Registry.standard.renderWithout · ["B"] ["Class: A\t", "  Extends:", "Class: B"])) ∧
    (written ["Class: B", "", "Class: A", " ", "Extends:"] =
      written ["Class: B", "Class: A", "Extends:"] ∧
    ∃ (d : Diagram) (defects others : List Defect),
      DrawnBy (Registry.standard.renderWithout · ["B"]
        ["Class: B", "", "Class: A", " ", "Extends:"]) d defects ∧
      DrawnBy (Registry.standard.renderWithout · ["B"]
        ["Class: B", "Class: A", "Extends:"]) d others ∧
      defects.map Defect.unnumbered = others.map Defect.unnumbered) ∧
    (∀ l ∈ ["Class: A", "Extends:\r", ""], '\n' ∉ l.toList) ∧
    DrawnAlike (Registry.standard.render · (Text.lines "Class: A\nExtends:\r\n"))
      (Registry.standard.render · ["Class: A", "Extends:\r", ""]) := by
  obtain ⟨htrimmed, hwritten, htext, -⟩ := layout_drawn_alike
  have hunlines : Text.unlines ["Class: A", "Extends:\r", ""] = "Class: A\nExtends:\r\n" := by
    decide
  have hfeeds : ∀ l ∈ ["Class: A", "Extends:\r", ""], '\n' ∉ l.toList := by decide
  refine ⟨⟨by decide, htrimmed ["B"] _ _ (by decide)⟩,
    ⟨by decide, hwritten ["B"] _ _ (by decide)⟩, hfeeds, ?_⟩
  rw [← hunlines]
  exact htext _ hfeeds

end ClassDiagram
