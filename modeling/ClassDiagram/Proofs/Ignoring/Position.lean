import ClassDiagram.Proofs.Ignoring.Rendering
import ClassDiagram.Proofs.Scan.Number

/-! # Where the defects of the remaining lines are

Lines are numbered after those of ignored entities are gone. The number of a defect is the position
of its line among the lines that were given, less the lines that were taken out before it.
-/

namespace ClassDiagram

variable {ignored lines : List String}

/-- How many lines before it go with ignored entities. -/
def Occurrence.ownedBefore (ignored : List String) (o : Occurrence) : Nat :=
  (occurrences o.before).countP (·.owned ignored)

/-- The number of the defect leads to a line with the text of the defect. -/
def Defect.LeadsInto (lines : List String) (d : Defect) : Prop :=
  lines[d.number - 1]?.map Text.trim = some d.line

@[simp] theorem length_occurrences (lines : List String) :
    (occurrences lines).length = lines.length := by
  have h := congrArg List.length (map_number_occurrencesFrom [] lines)
  rwa [List.length_map, List.length_range'] at h

theorem length_withoutEntities (ignored lines : List String) :
    (withoutEntities ignored lines).length + (occurrences lines).countP (·.owned ignored) =
      lines.length := by
  rw [withoutEntities_eq_map, List.length_map, remaining, ← List.countP_eq_length_filter,
    ← length_occurrences lines]
  have h := List.length_eq_countP_add_countP (fun o : Occurrence => o.owned ignored)
    (l := occurrences lines)
  simp only [Bool.not_eq_true, Bool.decide_eq_false] at h
  omega

namespace Occurrence

theorem number_without (ignored : List String) (o : Occurrence) :
    (o.without ignored).number + o.ownedBefore ignored = o.number := by
  have h := length_withoutEntities ignored o.before
  change (withoutEntities ignored o.before).length + 1 + _ = o.before.length + 1
  rw [ownedBefore]
  omega

theorem getElem?_number {o : Occurrence} (h : o ∈ occurrences lines) :
    lines[o.number - 1]? = some o.line := by
  obtain ⟨after, rfl⟩ := mem_occurrences.mp h
  simp [number]

end Occurrence

theorem defects_withoutEntities (ignored lines : List String) :
    (Survey.ofLines (withoutEntities ignored lines)).defects =
      (remaining ignored lines).flatMap fun o => (o.without ignored).defects := by
  rw [Survey.defects_eq_flatMap, occurrences_withoutEntities, List.flatMap_map]

theorem mem_defects_withoutEntities {d : Defect}
    (h : d ∈ (Survey.ofLines (withoutEntities ignored lines)).defects) :
    ∃ o ∈ remaining ignored lines, d ∈ (o.without ignored).defects ∧
      d.number + o.ownedBefore ignored = o.number ∧
      lines[o.number - 1]?.map Text.trim = some d.line := by
  rw [defects_withoutEntities, List.mem_flatMap] at h
  obtain ⟨o, ho, hd⟩ := h
  obtain ⟨hn, hl⟩ := Occurrence.eq_of_mem_defects hd
  refine ⟨o, ho, hd, ?_, ?_⟩
  · rw [hn, o.number_without]
  · rw [Occurrence.getElem?_number (mem_remaining.mp ho).1, hl]
    rfl

theorem leadsInto_iff {o : Occurrence} {d : Defect} (h : d ∈ (o.without ignored).defects) :
    d.LeadsInto lines ↔
      lines[o.number - o.ownedBefore ignored - 1]?.map Text.trim = some (Text.trim o.line) := by
  obtain ⟨hn, hl⟩ := Occurrence.eq_of_mem_defects h
  have hp := o.number_without ignored
  rw [← hn] at hp
  rw [Defect.LeadsInto, hl, show o.number - o.ownedBefore ignored = d.number by omega]
  rfl

theorem number_bounds {d : Defect}
    (h : d ∈ (Survey.ofLines (withoutEntities ignored lines)).defects) :
    1 ≤ d.number ∧ d.number ≤ lines.length := by
  have hm := (Survey.numbers_sublist _).subset (List.mem_map_of_mem h)
  have hlen := length_withoutEntities ignored lines
  rw [List.mem_range'_1] at hm
  omega

theorem defects_leadInto {d : Defect} (h : d ∈ (Survey.ofLines lines).defects) :
    d.LeadsInto lines := by
  rw [Survey.defects_eq_flatMap, List.mem_flatMap] at h
  obtain ⟨o, ho, hd⟩ := h
  obtain ⟨hn, hl⟩ := Occurrence.eq_of_mem_defects hd
  rw [Defect.LeadsInto, hn, hl, Occurrence.getElem?_number ho]
  rfl

/-- The numbers of the defects increase and stay within the stream. All of them lead to their
lines if nothing is taken out, and in general exactly if, for every reported line, the line that
stands as far above it as there are ignored lines before it has the same text. -/
theorem defects_leadInto_iff (ignored lines : List String) :
    ∃ p y : Rendering,
      Registry.standard.renderWithout "plantuml" ignored lines = .ok p ∧
      Registry.standard.renderWithout "yuml" ignored lines = .ok y ∧
      y.defects = p.defects ∧
      (p.defects.map Defect.number).Pairwise (· < ·) ∧
      (∀ d ∈ p.defects, 1 ≤ d.number ∧ d.number ≤ lines.length ∧
        ∃ o ∈ remaining ignored lines, d ∈ (o.without ignored).defects ∧
          d.number + o.ownedBefore ignored = o.number ∧
          lines[o.number - 1]?.map Text.trim = some d.line) ∧
      (withoutEntities ignored lines = lines → ∀ d ∈ p.defects, d.LeadsInto lines) ∧
      ((∀ d ∈ p.defects, d.LeadsInto lines) ↔
        ∀ o ∈ remaining ignored lines, (o.without ignored).defects ≠ [] →
          lines[o.number - o.ownedBefore ignored - 1]?.map Text.trim =
            some (Text.trim o.line)) := by
  refine ⟨_, _, Registry.renderWithout_plantUml ignored lines,
    Registry.renderWithout_yuml ignored lines, rfl, ?_, ?_, ?_, ?_⟩
  · exact List.Pairwise.sublist (Survey.numbers_sublist _) List.pairwise_lt_range'
  · intro d hd
    obtain ⟨hlow, hhigh⟩ := number_bounds hd
    exact ⟨hlow, hhigh, mem_defects_withoutEntities hd⟩
  · intro hsame d hd
    change d ∈ (Survey.ofLines (withoutEntities ignored lines)).defects at hd
    rw [hsame] at hd
    exact defects_leadInto hd
  · constructor
    · intro h o ho hne
      obtain ⟨d, hd⟩ := List.exists_mem_of_ne_nil _ hne
      refine (leadsInto_iff hd).mp (h d ?_)
      change d ∈ (Survey.ofLines (withoutEntities ignored lines)).defects
      rw [defects_withoutEntities]
      exact List.mem_flatMap.mpr ⟨o, ho, hd⟩
    · intro h d hd
      obtain ⟨o, ho, hdo, -, -⟩ := mem_defects_withoutEntities hd
      exact (leadsInto_iff hdo).mpr (h o ho (List.ne_nil_of_mem hdo))

/-- A superclass line that follows an ignored entity is reported as the line of its header. -/
theorem not_forall_defects_leadInto :
    ¬ ∀ (ignored lines : List String) (y : Rendering),
      Registry.standard.renderWithout "yuml" ignored lines = .ok y →
      ∀ d ∈ y.defects, d.LeadsInto lines := by
  intro h
  have hd := h ["A"] ["Class: A", "----", "Extends: B"] _ (Registry.renderWithout_yuml _ _)
    ⟨1, "Extends: B", none, .parentOutsideEntity⟩ (by decide)
  unfold Defect.LeadsInto at hd
  revert hd
  decide

end ClassDiagram
