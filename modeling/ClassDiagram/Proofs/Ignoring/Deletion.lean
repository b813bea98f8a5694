import ClassDiagram.Proofs.Ignoring.Blocks
import ClassDiagram.Proofs.Ignoring.Rendering
import ClassDiagram.Proofs.Ignoring.Weight

/-! # Deletion of ignored entities

Ignoring entities ought to take from a diagram what their lines contribute, and no more. It does so
exactly if the lines that are left see what they saw. They do not if the separator of an ignored
entity was all that kept them from an entity before it.
-/

namespace ClassDiagram

open Finding (totalWeight)

variable {ignored lines : List String}

/-- Where the header or separator that stood last before a line goes and the line stays, it sees
no other entity or section than it did. -/
def Undisturbed (ignored lines : List String) : Prop :=
  ∀ o ∈ remaining ignored lines, Ignoring.cut ignored o.before = true →
    (o.without ignored).sight = o.sight

/-- The diagram and the defects are those of all lines, less what the lines of ignored entities
contribute. Defects count without their numbers. -/
structure IsDeletion (ignored lines : List String) (d : Diagram) (defects : List Defect) :
    Prop where
  blocks : d.blocks = unignored ignored (Diagram.ofLines lines).blocks
  relations : d.relations = Finding.relations (remainingFindings ignored lines)
  defects : defects.map Defect.unnumbered =
    (Finding.defects (remainingFindings ignored lines)).map Defect.unnumbered

theorem lineFindings_withoutEntities (ignored lines : List String) :
    lineFindings (withoutEntities ignored lines) =
      (remaining ignored lines).flatMap fun o => (o.without ignored).findings := by
  rw [lineFindings, occurrences_withoutEntities, List.flatMap_map]

theorem gather_remaining_eq_blocks (ignored lines : List String) :
    Block.gather (Finding.events (remainingFindings ignored lines)) =
      unignored ignored (Diagram.ofLines lines).blocks := by
  have hblocks : (Diagram.ofLines lines).blocks = openBlocks lines := blocks_eq_openBlocks lines
  rw [hblocks, gather_remainingFindings]

theorem Undisturbed.sight_eq (h : Undisturbed ignored lines) {o : Occurrence}
    (ho : o ∈ remaining ignored lines) : (o.without ignored).sight = o.sight := by
  cases hcut : Ignoring.cut ignored o.before with
  | true => exact h o ho hcut
  | false => exact sight_without_of_not_cut hcut

theorem essence_eq_of_undisturbed (h : Undisturbed ignored lines) :
    Finding.essence (lineFindings (withoutEntities ignored lines)) =
      Finding.essence (remainingFindings ignored lines) := by
  rw [lineFindings_withoutEntities, remainingFindings, Finding.essence_flatMap,
    Finding.essence_flatMap]
  exact List.flatMap_congr fun o ho => Occurrence.essence_eq_of_sight_eq (h.sight_eq ho) rfl

/-- If the lines that are left see what they saw, they find what they found. -/
theorem isDeletion_of_undisturbed (h : Undisturbed ignored lines) :
    IsDeletion ignored lines (.ofLines (withoutEntities ignored lines))
      (Survey.ofLines (withoutEntities ignored lines)).defects := by
  have hess := essence_eq_of_undisturbed h
  constructor
  · rw [← gather_remaining_eq_blocks, ← Finding.gather_events_essence, ← hess,
      Finding.gather_events_essence]
    exact blocks_eq_openBlocks _
  · rw [← Finding.relations_essence, ← hess, Finding.relations_essence]
    exact relations_eq_lineFindings _
  · rw [← Finding.defects_essence, ← hess, Finding.defects_essence,
      defects_eq_lineFindings]

theorem totalWeight_without_lt {o : Occurrence} (ho : o ∈ remaining ignored lines)
    (h : (o.without ignored).sight ≠ o.sight) :
    totalWeight o.findings < totalWeight (o.without ignored).findings := by
  rcases sight_eq_or_within (mem_remaining.mp ho).2 with heq | hw
  · exact absurd heq h
  · rw [Occurrence.findings, Occurrence.findings, Cursor.totalWeight_findings,
      Cursor.totalWeight_findings]
    exact Cursor.weight_lt_of_sight_ne hw h.symm

theorem totalWeight_le_without {o : Occurrence} (ho : o ∈ remaining ignored lines) :
    totalWeight o.findings ≤ totalWeight (o.without ignored).findings := by
  by_cases h : (o.without ignored).sight = o.sight
  · have hess := Occurrence.essence_eq_of_sight_eq h rfl
    rw [← Finding.totalWeight_essence, ← hess, Finding.totalWeight_essence]
  · exact (totalWeight_without_lt ho h).le

/-- One line that sees more makes all findings weigh more, as no line comes to weigh less. -/
theorem totalWeight_lt_of_sight_ne {o : Occurrence} (ho : o ∈ remaining ignored lines)
    (h : (o.without ignored).sight ≠ o.sight) :
    totalWeight (remainingFindings ignored lines) <
      totalWeight (lineFindings (withoutEntities ignored lines)) := by
  rw [lineFindings_withoutEntities, remainingFindings, Finding.totalWeight_flatMap,
    Finding.totalWeight_flatMap]
  exact List.sum_lt_sum _ _ (fun q hq => totalWeight_le_without hq)
    ⟨o, ho, totalWeight_without_lt ho h⟩

theorem totalWeight_lineFindings (lines : List String) :
    totalWeight (lineFindings lines) = 2 * (Diagram.ofLines lines).memberCount +
      2 * (Diagram.ofLines lines).relations.length +
      (((Survey.ofLines lines).defects.map Defect.unnumbered).map Defect.weight).sum := by
  rw [← Finding.totalWeight_essence, essence_lineFindings, Finding.totalWeight_essence,
    Finding.totalWeight_eq, ← countP_isMember_events]
  rfl

theorem totalWeight_le_of_isDeletion
    (h : IsDeletion ignored lines (.ofLines (withoutEntities ignored lines))
      (Survey.ofLines (withoutEntities ignored lines)).defects) :
    totalWeight (lineFindings (withoutEntities ignored lines)) ≤
      totalWeight (remainingFindings ignored lines) := by
  have hmembers := Block.sum_members_gather_le
    (Finding.events (remainingFindings ignored lines))
  rw [totalWeight_lineFindings, Finding.totalWeight_eq (remainingFindings ignored lines),
    h.defects, h.relations, Diagram.memberCount, h.blocks, ← gather_remaining_eq_blocks]
  omega

/-- Either notation draws the lines that are left. Blocks, relations and defects are exactly those
of all lines, less what ignored entities contribute, if and only if the lines that are left are
undisturbed. -/
theorem ignoring_isDeletion_iff (ignored lines : List String) :
    ∃ p y : Rendering,
      Registry.standard.renderWithout "plantuml" ignored lines = .ok p ∧
      Registry.standard.renderWithout "yuml" ignored lines = .ok y ∧
      p.lines = PlantUml.diagramLines (.ofLines (withoutEntities ignored lines)) ∧
      y.lines = Yuml.diagramLines (.ofLines (withoutEntities ignored lines)) ∧
      y.defects = p.defects ∧
      (IsDeletion ignored lines (.ofLines (withoutEntities ignored lines)) p.defects ↔
        Undisturbed ignored lines) := by
  refine ⟨_, _, Registry.renderWithout_plantUml ignored lines,
    Registry.renderWithout_yuml ignored lines, ?_, ?_, rfl, ?_, isDeletion_of_undisturbed⟩
  · rw [PlantUml.render_eq]
  · rw [Yuml.render_eq]
  · intro h o ho _
    by_contra hne
    -- a line that sees more would make the diagram or its defects weigh more than they do
    have hlt := totalWeight_lt_of_sight_ne ho hne
    have hle := totalWeight_le_of_isDeletion h
    omega

/-- A field that follows the separator of an ignored entity goes to the entity before. -/
theorem not_forall_isDeletion :
    ¬ ∀ (ignored lines : List String) (y : Rendering),
      Registry.standard.renderWithout "yuml" ignored lines = .ok y →
      ∃ d, y.lines = Yuml.diagramLines d ∧ IsDeletion ignored lines d y.defects := by
  intro h
  obtain ⟨d, hlines, hblocks, hrelations, -⟩ := h ["B"]
    ["Class: A", "Fields:", "- int x", "Class: B", "- private int y", "----", "- int z"] _
    (Registry.renderWithout_yuml _ _)
  rw [Yuml.diagramLines, hblocks, hrelations] at hlines
  revert hlines
  decide

end ClassDiagram
