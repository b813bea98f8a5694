import ClassDiagram.Proofs.Ignoring.Owned
import ClassDiagram.Registry

/-! # Drawing what is left

A registry draws a stream without its ignored entities as it draws the lines that are left, and
with nothing ignored those are all lines.
-/

namespace ClassDiagram

@[simp] theorem inside_nil (before : List String) : Ignoring.inside [] before = false := by
  unfold Ignoring.inside
  split <;> rfl

@[simp] theorem Occurrence.owned_nil (o : Occurrence) : o.owned [] = false := by
  unfold owned
  split
  · rfl
  · exact inside_nil o.before

@[simp] theorem withoutEntities_nil (lines : List String) : withoutEntities [] lines = lines := by
  induction lines using List.reverseRecOn with
  | nil => rfl
  | append_singleton xs x ih =>
    simp [ih]

namespace Registry

theorem renderWithout_eq (g : Registry) (key : String) (ignored lines : List String) :
    g.renderWithout key ignored lines = g.render key (withoutEntities ignored lines) := by
  unfold renderWithout
  split
  · rename_i h
    rw [List.isEmpty_iff.mp h, withoutEntities_nil]
  · rfl

theorem renderWithout_plantUml (ignored lines : List String) :
    standard.renderWithout "plantuml" ignored lines =
      .ok (PlantUml.draw.render (withoutEntities ignored lines)) := by
  have hfind : standard.find "plantuml" = .ok .plantUml := rfl
  rw [renderWithout_eq, render, hfind]
  rfl

theorem renderWithout_yuml (ignored lines : List String) :
    standard.renderWithout "yuml" ignored lines =
      .ok (Yuml.draw.render (withoutEntities ignored lines)) := by
  have hfind : standard.find "yuml" = .ok .yuml := rfl
  rw [renderWithout_eq, render, hfind]
  rfl

end Registry

end ClassDiagram
