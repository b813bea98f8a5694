import ClassDiagram.Proofs.Drawing.Diagram
import ClassDiagram.Proofs.Ignoring.Rendering
import ClassDiagram.Proofs.Scan.EndPoints
import ClassDiagram.Proofs.Scan.Headings

/-! # Surviving entities

Whether a header stays when entities are taken out depends on its own name alone, not on what goes
or stays around it. So the blocks that are drawn are those of the other headers, and an ignored
name is nowhere to be seen.
-/

namespace ClassDiagram

variable {ignored : List String}

/-- The headers of named entities that are not ignored. -/
def survivors (ignored lines : List String) : List (EntityKind × String) :=
  (headings lines).filter fun h => h.2 ≠ "" ∧ h.2 ∉ ignored

theorem heading?_of_keeps (skipping : Bool) (line : String) :
    (if Ignoring.keeps ignored skipping line then [line] else []).filterMap heading? =
      (heading? line).toList.filter fun h => h.2 ∉ ignored := by
  unfold Ignoring.keeps heading?
  cases hr : Record.ofLine line with
  | header kind name =>
    by_cases hi : simpleName name ∈ ignored
    · simp [hi]
    · simp [hi, hr]
  | _ => cases skipping <;> simp [hr] -- no header, whether it is kept or not

theorem headings_filterFrom (skipping : Bool) (lines : List String) :
    headings (Ignoring.filterFrom ignored skipping lines) =
      (headings lines).filter fun h => h.2 ∉ ignored := by
  induction lines generalizing skipping with
  | nil => rfl
  | cons line lines ih =>
    rw [Ignoring.filterFrom, headings, List.filterMap_append, heading?_of_keeps, ← headings, ih,
      headings_cons, List.filter_append]

theorem headings_withoutEntities (ignored lines : List String) :
    headings (withoutEntities ignored lines) = (headings lines).filter fun h => h.2 ∉ ignored :=
  headings_filterFrom false lines

theorem map_heading_blocks_withoutEntities (ignored lines : List String) :
    (Diagram.ofLines (withoutEntities ignored lines)).blocks.map Block.heading =
      survivors ignored lines := by
  have h := Survey.map_heading_blocks (withoutEntities ignored lines)
  rw [headings_withoutEntities, List.filter_filter] at h
  rw [Diagram.ofLines, h, survivors]
  exact List.filter_congr fun _ _ => by simp

theorem countP_isNameless_withoutEntities (ignored lines : List String) :
    (Survey.ofLines (withoutEntities ignored lines)).defects.countP Defect.isNameless =
      if "" ∈ ignored then 0 else (headings lines).countP fun h => h.2 = "" := by
  rw [Survey.countP_isNameless, headings_withoutEntities, List.countP_filter]
  split_ifs with hi
  · -- a header without a name is one of the ignored ones
    rw [List.countP_eq_zero]
    rintro ⟨kind, name⟩ -
    simp only [decide_not, Bool.and_eq_true, decide_eq_true_eq, Bool.not_eq_true',
      decide_eq_false_iff_not, not_and, not_not]
    rintro rfl
    exact hi
  · refine List.countP_congr fun h _ => ?_
    simp only [decide_not, Bool.and_eq_true, decide_eq_true_eq, Bool.not_eq_true',
      decide_eq_false_iff_not, and_iff_left_iff_imp]
    intro hempty
    rwa [hempty]

/-- No entity that is open among the lines that are left is an ignored one. -/
theorem entity?_notMem {lines : List String} {o : Occurrence} {e : String}
    (ho : o ∈ occurrences (withoutEntities ignored lines))
    (he : LookBack.entity? o.before = some e) : e ∉ ignored := by
  obtain ⟨after, hlines⟩ := mem_occurrences.mp ho
  obtain ⟨kind, hmem⟩ := LookBack.exists_mem_headings he
  have hleft : (kind, e) ∈ headings (withoutEntities ignored lines) := by
    rw [hlines, headings, List.filterMap_append]
    exact List.mem_append_left _ hmem
  rw [headings_withoutEntities] at hleft
  simpa using (List.mem_filter.mp hleft).2

theorem drawnBy_renderWithout (ignored lines : List String) :
    DrawnBy (Registry.standard.renderWithout · ignored lines)
      (.ofLines (withoutEntities ignored lines))
      (Survey.ofLines (withoutEntities ignored lines)).defects := by
  simp only [Registry.renderWithout_eq]
  exact drawnBy_render _

/-- What either notation draws with entities ignored is one block for each header whose name is
there and not ignored, in the order of the headers. Headers without a name are reported, unless
the empty name is ignored. No block, no owner of a relation and no entity of a defect has an
ignored name. -/
theorem blocks_eq_survivors (ignored lines : List String) :
    ∃ (d : Diagram) (defects : List Defect),
      d = .ofLines (withoutEntities ignored lines) ∧
      DrawnBy (Registry.standard.renderWithout · ignored lines) d defects ∧
      d.blocks.map Block.heading = survivors ignored lines ∧
      d.blocks.length = (survivors ignored lines).length ∧
      (defects.countP Defect.isNameless =
        if "" ∈ ignored then 0 else (headings lines).countP fun h => h.2 = "") ∧
      (∀ b ∈ d.blocks, b.name ∉ ignored) ∧
      (∀ r ∈ d.relations, r.owner ∉ ignored) ∧
      ∀ f ∈ defects, ∀ e, f.entity? = some e → e ∉ ignored := by
  have hblocks := map_heading_blocks_withoutEntities ignored lines
  refine ⟨_, _, rfl, drawnBy_renderWithout ignored lines, hblocks, ?_,
    countP_isNameless_withoutEntities ignored lines, ?_, ?_, ?_⟩
  · rw [← hblocks, List.length_map]
  · intro b hb
    have hmem := List.mem_map_of_mem (f := Block.heading) hb
    rw [hblocks, survivors, List.mem_filter] at hmem
    exact (of_decide_eq_true hmem.2).2
  · intro r hr
    have hmem : r ∈ (Survey.ofLines (withoutEntities ignored lines)).relations := hr
    rw [Survey.relations_eq_flatMap, List.mem_flatMap] at hmem
    obtain ⟨o, ho, hro⟩ := hmem
    exact entity?_notMem ho (Occurrence.owner_of_mem hro).1
  · intro f hf e he
    rw [Survey.defects_eq_flatMap, List.mem_flatMap] at hf
    obtain ⟨o, ho, hfo⟩ := hf
    exact entity?_notMem ho (Occurrence.entity?_of_mem_defects hfo he)

end ClassDiagram
