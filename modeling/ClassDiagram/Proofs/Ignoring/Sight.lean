import ClassDiagram.Proofs.Ignoring.Owned
import ClassDiagram.Proofs.Scan.Essence

/-! # What a line sees

Only superclass lines and lines of a member section look at the lines before them. Where they see
the same they find the same. A line that is left when entities are taken out sees at least what it
saw: the separators that went with the entities may have kept more from it.
-/

namespace ClassDiagram

/-- What a line takes over from the lines before it. -/
inductive Sight
  | nothing
  | owner (entity? : Option String)
  | place (members : MemberSection) (entity? : Option String)
  deriving DecidableEq

namespace Cursor

/-- A superclass line sees the open entity, and a content line the open section and its entity. -/
def sight (c : Cursor) (line : String) : Sight :=
  match Record.ofLine line with
  | .parent _ => .owner c.entity?
  | .content _ =>
    if Text.isBlank line then .nothing
    else
      match c.members? with
      | some members => .place members c.entity?
      | none => .nothing
  | _ => .nothing

theorem effect_eq_of_sight_eq {c d : Cursor} {line : String} (h : c.sight line = d.sight line) :
    c.effect line = d.effect line := by
  unfold sight at h
  unfold effect
  cases hr : Record.ofLine line with
  | parent name =>
    simp only [hr, Sight.owner.injEq] at h
    simp only [parentEffect, h]
  | content text =>
    simp only [hr] at h
    simp only
    split_ifs at h ⊢
    · rfl
    · unfold contentEffect
      cases hc : c.members? with
      | none =>
        cases hd : d.members? with
        | none => rfl
        | some s => simp [hc, hd] at h
      | some s =>
        cases hd : d.members? with
        | none => simp [hc, hd] at h
        | some t =>
          simp only [hc, hd, Sight.place.injEq] at h
          rw [h.1, h.2]
  | _ => rfl

theorem essence_eq_of_sight_eq {c d : Cursor} {line : String}
    (h : c.sight line = d.sight line) (n m : Nat) :
    Finding.essence (c.findings (n, line)) = Finding.essence (d.findings (m, line)) := by
  rw [essence_findings c n m, findings_eq, findings_eq, Finding.essence_append,
    Finding.essence_append, essence_ending, essence_ending, effect_eq_of_sight_eq h]

/-- What is open here is open there. -/
structure Within (c d : Cursor) : Prop where
  entity : ∀ e, c.entity? = some e → d.entity? = some e
  members : ∀ s, c.members? = some s → d.members? = some s

theorem within_start (c : Cursor) : start.Within c :=
  ⟨nofun, nofun⟩

theorem Within.refl (c : Cursor) : c.Within c :=
  ⟨fun _ h => h, fun _ h => h⟩

theorem Within.advance {c d : Cursor} (h : c.Within d) (line : String) :
    (c.advance line).Within (d.advance line) := by
  unfold Cursor.advance
  cases Record.ofLine line with
  | header kind name => exact .refl _
  | separator => exact .refl _
  | opener members => exact ⟨h.entity, fun _ hs => hs⟩
  | parent name => exact h
  | content text => exact h

theorem Within.entity_of_ne {c d : Cursor} (h : c.Within d) (hne : c.entity? ≠ d.entity?) :
    c.entity? = none ∧ ∃ e, d.entity? = some e := by
  cases hc : c.entity? with
  | some e => exact absurd (hc.trans (h.entity e hc).symm) hne
  | none => exact ⟨rfl, Option.ne_none_iff_exists'.mp fun hd => hne (hc.trans hd.symm)⟩

end Cursor

namespace Occurrence

def sight (o : Occurrence) : Sight :=
  o.cursor.sight o.line

theorem essence_eq_of_sight_eq {o q : Occurrence} (h : o.sight = q.sight) (hl : o.line = q.line) :
    Finding.essence o.findings = Finding.essence q.findings := by
  rw [sight, sight, ← hl] at h
  rw [findings, findings, numbered, numbered, ← hl]
  exact Cursor.essence_eq_of_sight_eq h o.number q.number

end Occurrence

variable {ignored : List String}

/-- Outside of ignored entities, what is open stays open when they are gone. -/
theorem within_withoutEntities {before : List String} (h : Ignoring.inside ignored before = false) :
    (LookBack.cursor before).Within (LookBack.cursor (withoutEntities ignored before)) := by
  induction before using List.reverseRecOn with
  | nil => exact .refl _
  | append_singleton xs x ih =>
    rw [Ignoring.inside_append_singleton, Ignoring.skips] at h
    rw [withoutEntities_append_singleton, LookBack.cursor_append_singleton]
    unfold Occurrence.owned
    cases hr : Record.ofLine x with
    | header kind name =>
      rw [hr] at h
      rw [if_neg (by simpa using h), LookBack.cursor_append_singleton, Cursor.advance,
        Cursor.advance, hr]
      exact .refl _
    | separator =>
      rw [Cursor.advance, hr]
      exact Cursor.within_start _
    | _ =>
      rw [hr] at h
      rw [if_neg (by simpa using h), LookBack.cursor_append_singleton]
      exact (ih h).advance x

theorem sight_without_of_not_cut {o : Occurrence} (h : Ignoring.cut ignored o.before = false) :
    (o.without ignored).sight = o.sight := by
  have hcursor : (o.without ignored).cursor = o.cursor := Ignoring.cursor_withoutEntities h
  rw [Occurrence.sight, hcursor]
  rfl

/-- A line that is left sees what it saw, or at least what was open for it still is. -/
theorem sight_eq_or_within {o : Occurrence} (h : o.owned ignored = false) :
    (o.without ignored).sight = o.sight ∨ o.cursor.Within (o.without ignored).cursor := by
  unfold Occurrence.owned at h
  cases hr : Record.ofLine o.line with
  | header kind name =>
    have hnothing (q : Occurrence) (hq : q.line = o.line) : q.sight = .nothing := by
      rw [Occurrence.sight, Cursor.sight, hq, hr]
    exact .inl ((hnothing (o.without ignored) rfl).trans (hnothing o rfl).symm)
  | _ =>
    rw [hr] at h
    exact .inr (within_withoutEntities h)

end ClassDiagram
