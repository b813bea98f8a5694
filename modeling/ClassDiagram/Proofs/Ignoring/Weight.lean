import Mathlib.Algebra.Order.BigOperators.Group.List
import Mathlib.Algebra.Order.Ring.Int
import ClassDiagram.Proofs.Drawing.Diagram
import ClassDiagram.Proofs.Ignoring.Sight

/-! # The weight of findings

A line that comes to see an entity or a section weighs more than before, whatever it finds then.
How much the findings of a stream weigh can be told from its blocks, its relations and its defects,
so that one line that sees more is enough to change one of them.
-/

namespace ClassDiagram

def Event.isMember : Event → Bool
  | .member _ => true
  | _ => false

def Defect.weight (d : Defect) : Int :=
  match d.entity?, d.reason with
  | some _, _ => 2
  | none, .memberOutsideEntity => 1
  | none, .parentOutsideEntity => -1
  | none, _ => 0

namespace Finding

/-- Members, relations and the defects of an entity weigh most. A superclass line outside of any
entity weighs less than nothing, so that it gains even if it comes to draw nothing. -/
def weight : Finding → Int
  | .event e => if e.isMember then 2 else 0
  | .relation _ => 2
  | .defect d => d.weight

def totalWeight (fs : List Finding) : Int :=
  (fs.map weight).sum

@[simp] theorem totalWeight_append (fs gs : List Finding) :
    totalWeight (fs ++ gs) = totalWeight fs + totalWeight gs := by
  rw [totalWeight, List.map_append, List.sum_append]
  rfl

theorem totalWeight_flatMap {α : Type} (f : α → List Finding) (xs : List α) :
    totalWeight (xs.flatMap f) = (xs.map fun x => totalWeight (f x)).sum := by
  induction xs with
  | nil => rfl
  | cons x xs ih => simp [ih]

theorem totalWeight_eq (fs : List Finding) :
    totalWeight fs = 2 * (events fs).countP Event.isMember + 2 * (relations fs).length +
      (((defects fs).map Defect.unnumbered).map Defect.weight).sum := by
  induction fs with
  | nil => rfl
  | cons x fs ih =>
    have hx : totalWeight (x :: fs) = x.weight + totalWeight fs := List.sum_cons
    rw [hx, ih]
    cases x with
    | event e =>
      have he : (events (.event e :: fs)).countP Event.isMember =
          (events fs).countP Event.isMember + if e.isMember then 1 else 0 := List.countP_cons
      have hd : defects (.event e :: fs) = defects fs := rfl
      have hr : relations (.event e :: fs) = relations fs := rfl
      rw [he, hd, hr, weight]
      split_ifs <;> omega
    | relation r =>
      have hd : defects (.relation r :: fs) = defects fs := rfl
      have hr : relations (.relation r :: fs) = r :: relations fs := rfl
      have he : events (.relation r :: fs) = events fs := rfl
      rw [he, hd, hr, List.length_cons, weight]
      omega
    | defect d =>
      have hd : defects (.defect d :: fs) = d :: defects fs := rfl
      have hr : relations (.defect d :: fs) = relations fs := rfl
      have he : events (.defect d :: fs) = events fs := rfl
      have hw : d.unnumbered.weight = d.weight := rfl
      rw [he, hd, hr, List.map_cons, List.map_cons, List.sum_cons, hw, weight]
      omega

theorem totalWeight_essence (fs : List Finding) : totalWeight (essence fs) = totalWeight fs := by
  have hdefects : (defects (essence fs)).map Defect.unnumbered =
      (defects fs).map Defect.unnumbered := by
    rw [defects_essence, List.map_map]
    rfl
  have hmembers : (events (essence fs)).countP Event.isMember =
      (events fs).countP Event.isMember := by
    rw [events_essence, List.countP_filter]
    exact List.countP_congr fun e _ => by cases e <;> simp [Event.isMember]
  rw [totalWeight_eq, totalWeight_eq fs, hdefects, hmembers, relations_essence]

end Finding

namespace Effect

open Finding (totalWeight)

/-- A line weighs what it comes to, whatever its number. -/
def weight : Effect → Int
  | filled _ relation? => if relation?.isSome then 4 else 2
  | related _ => 2
  | reported entity? reason => Defect.weight ⟨0, "", entity?, reason⟩
  | _ => 0

theorem totalWeight_findings (o : Effect) (l : NumberedLine) :
    totalWeight (o.findings l) = o.weight := by
  cases o with
  | filled m relation? => cases relation? <;> rfl
  | reported entity? reason => exact add_zero _
  | _ => rfl

theorem weight_memberEffect (owner text : String) (members : MemberSection) :
    2 ≤ (Cursor.memberEffect owner text members).weight := by
  have ho := Cursor.memberOutcome owner text members
  generalize Cursor.memberEffect owner text members = e at ho ⊢
  cases ho with
  | field =>
    simp only [weight]
    split_ifs <;> decide
  | _ => exact le_refl 2

end Effect

namespace Cursor

open Finding (totalWeight)

theorem totalWeight_findings (c : Cursor) (l : NumberedLine) :
    totalWeight (c.findings l) = (c.effect l.2).weight := by
  have hending : totalWeight (c.ending l.2) = 0 := by
    rcases c.ending_eq_nil_or l.2 with h | h <;> rw [h] <;> rfl
  simp [findings_eq, hending, Effect.totalWeight_findings]

theorem weight_parentEffect_lt {c d : Cursor} (h : c.Within d) (hne : c.entity? ≠ d.entity?)
    (name : String) : (c.parentEffect name).weight < (d.parentEffect name).weight := by
  obtain ⟨hc, e, hd⟩ := h.entity_of_ne hne
  unfold parentEffect
  simp only [hc, hd]
  -- the superclass has no name, is the root class, or is drawn
  split_ifs
  · exact (by decide : (-1 : Int) < 2)
  · exact (by decide : (-1 : Int) < 0)
  · exact (by decide : (-1 : Int) < 2)

theorem weight_contentEffect_lt {c d : Cursor} (h : c.Within d) {s : MemberSection}
    (hs : d.members? = some s) (hne : c.members? = some s → c.entity? ≠ d.entity?)
    (text : String) : (c.contentEffect text).weight < (d.contentEffect text).weight := by
  unfold contentEffect
  cases hc : c.members? with
  | none =>
    -- the line was passed over and now is at least reported
    rw [hs]
    cases d.entity? with
    | none => exact (by decide : (0 : Int) < 1)
    | some owner =>
      have hlow : Effect.nothing.weight = 0 := rfl
      have hhigh := Effect.weight_memberEffect owner text s
      simp only [hlow]
      omega
  | some t =>
    -- the line was reported outside of any entity and now stands in one
    obtain rfl : t = s := Option.some.inj ((h.members t hc).symm.trans hs)
    obtain ⟨hn, owner, hd⟩ := h.entity_of_ne (hne hc)
    have hlow : (Effect.reported none .memberOutsideEntity).weight = 1 := rfl
    have hhigh := Effect.weight_memberEffect owner text t
    simp only [hs, hn, hd, hlow]
    omega

/-- A line that sees more than before comes to weigh more. -/
theorem weight_lt_of_sight_ne {c d : Cursor} (h : c.Within d) {line : String}
    (hs : c.sight line ≠ d.sight line) : (c.effect line).weight < (d.effect line).weight := by
  unfold sight at hs
  unfold effect
  cases hr : Record.ofLine line with
  | parent name =>
    simp only [hr, ne_eq, Sight.owner.injEq] at hs
    exact weight_parentEffect_lt h hs name
  | content text =>
    simp only [hr] at hs ⊢
    split_ifs at hs ⊢
    · exact absurd rfl hs
    · cases hd : d.members? with
      | none =>
        cases hc : c.members? with
        | none => simp [hc, hd] at hs
        | some s => exact absurd (h.members s hc) (by simp [hd])
      | some s =>
        refine weight_contentEffect_lt h hd (fun hc he => hs ?_) text
        rw [hc, hd, he]
  | _ => simp [hr] at hs

end Cursor

namespace Block

theorem countP_isMember_events (b : Block) : b.events.countP Event.isMember = b.members.length := by
  simp [events, opening, List.countP_map, Event.isMember]

theorem sum_members_gather_le (es : List Event) :
    ((gather es).map (·.members.length)).sum ≤ es.countP Event.isMember := by
  induction es using List.reverseRecOn with
  | nil => exact le_refl 0
  | append_singleton es e ih =>
    rw [gather_append_singleton, List.countP_append, List.countP_singleton]
    cases e with
    | opened kind name => simpa [extend, Event.isMember] using ih
    | closed => simpa [extend, Event.isMember] using ih
    | member m =>
      rcases List.eq_nil_or_concat (gather es) with hg | ⟨bs, b, hg⟩
      · rw [hg]
        exact Nat.zero_le _
      · rw [hg, extend, List.concat_eq_append, pushLast_append_singleton]
        rw [hg, List.concat_eq_append] at ih
        simp [push, Event.isMember] at ih ⊢
        omega

end Block

theorem countP_isMember_events (lines : List String) :
    (Survey.ofLines lines).events.countP Event.isMember = (Diagram.ofLines lines).memberCount := by
  rw [Survey.events_eq_flatMap, Diagram.memberCount, List.countP_flatMap]
  congr 1
  exact List.map_congr_left fun b _ => b.countP_isMember_events

end ClassDiagram
