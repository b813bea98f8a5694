import Mathlib.Data.List.Basic
import Mathlib.Data.List.Induction
import ClassDiagram.Proofs.Scan.Effect
import ClassDiagram.Scan.Block

/-! # The events of a scan

A scan opens an entity only when none is open, fills and closes one only when it is open, and
leaves none open. Its events are therefore those of its blocks in a row, and nothing is lost when
they are put together.
-/

namespace ClassDiagram

namespace Block

/-- The events that lead to a pending block. -/
def opening (b : Block) : List Event :=
  .opened b.kind b.name :: b.members.map .member

/-- The events of a block from its opening to its close. -/
def events (b : Block) : List Event :=
  b.opening ++ [.closed]

theorem opening_push (b : Block) (m : Member) : (b.push m).opening = b.opening ++ [.member m] := by
  rw [opening, opening, push, List.map_append]
  rfl

/-- A member goes to the last block. -/
def pushLast (m : Member) (bs : List Block) : List Block :=
  bs.dropLast ++ bs.getLast?.toList.map (·.push m)

/-- The blocks after an event. That a block is closed adds nothing to it. -/
def extend (bs : List Block) : Event → List Block
  | .opened kind name => bs ++ [⟨kind, name, []⟩]
  | .member m => pushLast m bs
  | .closed => bs

/-- The blocks that events open and fill, whether closed or not. -/
def gather (es : List Event) : List Block :=
  es.foldl extend []

@[simp] theorem pushLast_append_singleton (m : Member) (bs : List Block) (b : Block) :
    pushLast m (bs ++ [b]) = bs ++ [b.push m] := by
  rw [pushLast, List.dropLast_concat, List.getLast?_concat]
  rfl

theorem gather_append (es fs : List Event) :
    gather (es ++ fs) = fs.foldl extend (gather es) :=
  List.foldl_append

@[simp] theorem gather_append_singleton (es : List Event) (e : Event) :
    gather (es ++ [e]) = extend (gather es) e :=
  gather_append es [e]

theorem gather_filter_closed (es : List Event) :
    gather (es.filter (· ≠ .closed)) = gather es := by
  induction es using List.reverseRecOn with
  | nil => rfl
  | append_singleton es e ih =>
    by_cases he : e = .closed
    · simpa [he, extend] using ih
    · simpa [he] using congrArg (extend · e) ih

theorem foldl_extend_members (bs : List Block) (b : Block) (ms : List Member) :
    (ms.map Event.member).foldl extend (bs ++ [b]) =
      bs ++ [{ b with members := b.members ++ ms }] := by
  induction ms generalizing b with
  | nil => simp
  | cons m ms ih =>
    have hstep : extend (bs ++ [b]) (.member m) = bs ++ [b.push m] :=
      pushLast_append_singleton m bs b
    rw [List.map_cons, List.foldl_cons, hstep, ih]
    simp [push]

theorem foldl_extend_events (bs : List Block) (b : Block) :
    b.events.foldl extend bs = bs ++ [b] := by
  have hopening : b.opening.foldl extend bs = bs ++ [b] :=
    foldl_extend_members bs ⟨b.kind, b.name, []⟩ b.members
  rw [events, List.foldl_append, hopening]
  rfl

theorem foldl_extend_flatMap_events (bs cs : List Block) :
    (cs.flatMap events).foldl extend bs = bs ++ cs := by
  induction cs generalizing bs with
  | nil => exact (List.append_nil bs).symm
  | cons c cs ih =>
    rw [List.flatMap_cons, List.foldl_append, foldl_extend_events, ih, List.append_assoc]
    rfl

end Block

namespace Assembly

/-- An event that the assembly takes in, with nothing lost. -/
def Accepts (a : Assembly) : Event → Prop
  | .opened _ _ => a.pending? = none
  | .member _ => a.pending? ≠ none
  | .closed => a.pending? ≠ none

def AcceptsAll (a : Assembly) : List Event → Prop
  | [] => True
  | e :: es => a.Accepts e ∧ (a.step e).AcceptsAll es

/-- The events that lead to the assembly. -/
def history (a : Assembly) : List Event :=
  a.blocks.toList.flatMap Block.events ++ a.pending?.toList.flatMap Block.opening

/-- The pending block belongs to the open entity. -/
def Follows (a : Assembly) (c : Cursor) : Prop :=
  a.pending?.map Block.name = c.entity?

/-- The blocks so far, the pending one included. -/
def allBlocks (a : Assembly) : List Block :=
  a.blocks.toList ++ a.pending?.toList

@[simp] theorem acceptsAll_append {a : Assembly} {es fs : List Event} :
    a.AcceptsAll (es ++ fs) ↔ a.AcceptsAll es ∧ (a.run es).AcceptsAll fs := by
  induction es generalizing a with
  | nil => simp [AcceptsAll, run]
  | cons e es ih =>
    rw [List.cons_append, AcceptsAll, AcceptsAll, ih, and_assoc]
    rfl

theorem accepts_of_acceptsAll {a : Assembly} {es rest : List Event} {e : Event}
    (h : a.AcceptsAll (es ++ e :: rest)) : (a.run es).Accepts e :=
  (acceptsAll_append.mp h).2.1

@[simp] theorem run_append (a : Assembly) (es fs : List Event) :
    a.run (es ++ fs) = (a.run es).run fs :=
  List.foldl_append

theorem history_step {a : Assembly} {e : Event} (h : a.Accepts e) :
    (a.step e).history = a.history ++ [e] := by
  obtain ⟨blocks, pending?⟩ := a
  cases e with
  | opened kind name =>
    obtain rfl : pending? = none := h
    simp [step, history, Block.opening]
  | member m =>
    obtain ⟨b, rfl⟩ := Option.ne_none_iff_exists'.mp h
    simp [step, history, Block.opening_push]
  | closed =>
    obtain ⟨b, rfl⟩ := Option.ne_none_iff_exists'.mp h
    simp [step, history, Block.events]

theorem history_run {a : Assembly} {es : List Event} (h : a.AcceptsAll es) :
    (a.run es).history = a.history ++ es := by
  induction es generalizing a with
  | nil => exact (List.append_nil _).symm
  | cons e es ih =>
    change ((a.step e).run es).history = _
    rw [ih h.2, history_step h.1, List.append_assoc]
    rfl

theorem allBlocks_step {a : Assembly} {e : Event} (h : a.Accepts e) :
    (a.step e).allBlocks = Block.extend a.allBlocks e := by
  obtain ⟨blocks, pending?⟩ := a
  cases e with
  | opened kind name =>
    obtain rfl : pending? = none := h
    simp [step, allBlocks, Block.extend]
  | member m =>
    obtain ⟨b, rfl⟩ := Option.ne_none_iff_exists'.mp h
    exact (Block.pushLast_append_singleton m _ b).symm
  | closed =>
    obtain ⟨b, rfl⟩ := Option.ne_none_iff_exists'.mp h
    simp [step, allBlocks, Block.extend]

theorem allBlocks_run {a : Assembly} {es : List Event} (h : a.AcceptsAll es) :
    (a.run es).allBlocks = es.foldl Block.extend a.allBlocks := by
  induction es generalizing a with
  | nil => rfl
  | cons e es ih =>
    change ((a.step e).run es).allBlocks = _
    rw [ih h.2, allBlocks_step h.1]
    rfl

end Assembly

namespace Cursor

theorem event?_effect (c : Cursor) {line : String} (h : (Record.ofLine line).isHeader = false) :
    ∃ m? : Option Member, (c.effect line).event? = m?.map .member ∧
      (c.entity? = none → m? = none) := by
  have ho := c.outcome_effect line
  generalize c.effect line = e at ho ⊢
  cases ho with
  | nothing => exact ⟨none, rfl, fun _ => rfl⟩
  | opened record =>
    rw [record] at h
    cases h
  | nameless => exact ⟨none, rfl, fun _ => rfl⟩
  | parent => exact ⟨none, rfl, fun _ => rfl⟩
  | member entity inSection record inside =>
    have hopen (m? : Option Member) : c.entity? = none → m? = none := by simp [entity]
    cases inside with
    | interface => exact ⟨none, rfl, hopen none⟩
    | @constructor s => exact ⟨some (.constructor s), rfl, hopen _⟩
    | @method s => exact ⟨some (.method s), rfl, hopen _⟩
    | @field f => exact ⟨some (.field f), rfl, hopen _⟩
    | reported => exact ⟨none, rfl, hopen none⟩
  | reported => exact ⟨none, rfl, fun _ => rfl⟩

theorem entity?_advance {line : String} (h : (Record.ofLine line).isBoundary = false)
    (c : Cursor) : (c.advance line).entity? = c.entity? := by
  unfold advance
  cases hr : Record.ofLine line with
  | header kind name =>
    rw [hr] at h
    cases h
  | separator =>
    rw [hr] at h
    cases h
  | _ => rfl

theorem events_findings_of_isBoundary {l : NumberedLine}
    (h : (Record.ofLine l.2).isBoundary = false) (c : Cursor) :
    ∃ m? : Option Member, Finding.events (c.findings l) = m?.toList.map .member ∧
      (c.entity? = none → m? = none) := by
  have hheader : (Record.ofLine l.2).isHeader = false := by
    cases hr : Record.ofLine l.2 with
    | header kind name =>
      rw [hr] at h
      cases h
    | _ => rfl
  obtain ⟨m?, he, hm⟩ := c.event?_effect hheader
  refine ⟨m?, ?_, hm⟩
  rw [findings_eq, Finding.events_append, Effect.events_findings, he, ending, h]
  cases m? <;> rfl

/-- What a line does to the open entity: it may add a member to it, or it closes it and may open
another. -/
theorem events_findings (c : Cursor) (l : NumberedLine) :
    (∃ m? : Option Member, Finding.events (c.findings l) = m?.toList.map .member ∧
      (c.entity? = none → m? = none) ∧ (c.advance l.2).entity? = c.entity?) ∨
    (∃ opened? : Option (EntityKind × String),
      Finding.events (c.findings l) = Finding.events c.closing ++
        opened?.toList.map (fun o => .opened o.1 o.2) ∧
      (c.advance l.2).entity? = opened?.map (·.2)) := by
  cases hr : Record.ofLine l.2 with
  | header kind name =>
    refine .inr ⟨if (simpleName name).isEmpty then none else some (kind, simpleName name), ?_, ?_⟩
    · rw [findings_eq, Finding.events_append, Effect.events_findings]
      simp only [ending, effect, hr, Record.isBoundary, if_true, headerEffect]
      split_ifs <;> rfl
    · simp only [advance, hr]
      split_ifs <;> rfl
  | separator =>
    refine .inr ⟨none, ?_, ?_⟩
    · rw [findings_eq, Finding.events_append, Effect.events_findings]
      simp only [ending, effect, hr, Record.isBoundary, if_true]
      rfl
    · simp only [advance, hr]
      rfl
  | _ =>
    have hboundary : (Record.ofLine l.2).isBoundary = false := by rw [hr]; rfl
    obtain ⟨m?, he, hm⟩ := events_findings_of_isBoundary hboundary c
    exact .inl ⟨m?, he, hm, entity?_advance hboundary c⟩

end Cursor

namespace Assembly

theorem follows_closing {a : Assembly} {c : Cursor} (h : a.Follows c) :
    a.AcceptsAll (Finding.events c.closing) ∧
      (a.run (Finding.events c.closing)).pending? = none := by
  obtain ⟨blocks, pending?⟩ := a
  obtain ⟨entity?, members?⟩ := c
  cases pending? with
  | none =>
    obtain rfl : none = entity? := h
    exact ⟨trivial, rfl⟩
  | some b =>
    obtain rfl : some b.name = entity? := h
    exact ⟨⟨Option.some_ne_none b, trivial⟩, rfl⟩

theorem follows_findings {a : Assembly} {c : Cursor} (h : a.Follows c) (l : NumberedLine) :
    a.AcceptsAll (Finding.events (c.findings l)) ∧
      (a.run (Finding.events (c.findings l))).Follows (c.advance l.2) := by
  rcases c.events_findings l with ⟨m?, he, hm, hc⟩ | ⟨opened?, he, hc⟩
  · rw [he, Follows, hc]
    cases m? with
    | none => exact ⟨trivial, h⟩
    | some m =>
      obtain ⟨blocks, pending?⟩ := a
      cases pending? with
      | none => exact absurd (hm h.symm) (Option.some_ne_none m)
      | some b => exact ⟨⟨Option.some_ne_none b, trivial⟩, h⟩
  · obtain ⟨hacc, hnone⟩ := follows_closing h
    rw [he, acceptsAll_append, run_append, Follows, hc]
    cases opened? with
    | none =>
      refine ⟨⟨hacc, trivial⟩, ?_⟩
      change Option.map _ (a.run _).pending? = _
      rw [hnone]
      rfl
    | some o => exact ⟨⟨hacc, hnone, trivial⟩, rfl⟩

theorem follows_scan {a : Assembly} {c : Cursor} (h : a.Follows c) (ls : List NumberedLine) :
    a.AcceptsAll (Finding.events (c.scan ls)) ∧
      (a.run (Finding.events (c.scan ls))).pending? = none := by
  induction ls generalizing a c with
  | nil => exact follows_closing h
  | cons l ls ih =>
    obtain ⟨hacc, hf⟩ := follows_findings h l
    obtain ⟨hrest, hnone⟩ := ih hf
    rw [Cursor.scan, Finding.events, List.filterMap_append, acceptsAll_append, run_append]
    exact ⟨⟨hacc, hrest⟩, hnone⟩

theorem follows_start : empty.Follows .start :=
  rfl

end Assembly

namespace Cursor

variable {c : Cursor}

theorem pending?_events_scan (h : c.entity? = none) (ls : List NumberedLine) :
    (Assembly.empty.run (Finding.events (c.scan ls))).pending? = none :=
  (Assembly.follows_scan (a := .empty) h.symm ls).2

theorem events_scan_eq_flatMap (h : c.entity? = none) (ls : List NumberedLine) :
    Finding.events (c.scan ls) =
      (Block.ofEvents (Finding.events (c.scan ls))).flatMap Block.events := by
  have hhistory := Assembly.history_run (Assembly.follows_scan (a := .empty) h.symm ls).1
  rw [Assembly.history, pending?_events_scan h] at hhistory
  calc Finding.events (c.scan ls)
    _ = (Block.ofEvents (Finding.events (c.scan ls))).flatMap Block.events ++ [] :=
      hhistory.symm
    _ = _ := List.append_nil _

end Cursor

namespace Survey

theorem acceptsAll_events (lines : List String) :
    Assembly.empty.AcceptsAll (ofLines lines).events :=
  (Assembly.follows_scan Assembly.follows_start (numbered lines)).1

theorem pending?_events (lines : List String) :
    (Assembly.empty.run (ofLines lines).events).pending? = none :=
  Cursor.pending?_events_scan rfl (numbered lines)

theorem ofEvents_eq_gather (lines : List String) :
    Block.ofEvents (ofLines lines).events = Block.gather (ofLines lines).events := by
  have h := Assembly.allBlocks_run (acceptsAll_events lines)
  rw [Assembly.allBlocks, pending?_events] at h
  exact (List.append_nil _).symm.trans h

/-- The events of a stream are those of its blocks in a row. -/
theorem events_eq_flatMap (lines : List String) :
    (ofLines lines).events = (Block.ofEvents (ofLines lines).events).flatMap Block.events :=
  Cursor.events_scan_eq_flatMap rfl (numbered lines)

theorem entityCount_flatMap_events (bs : List Block) (rs : List Relation) (ds : List Defect) :
    (Survey.mk (bs.flatMap Block.events) rs ds).entityCount = bs.length := by
  induction bs with
  | nil => rfl
  | cons b bs ih =>
    have hb : (Survey.mk b.events rs ds).entityCount = 1 := by
      simp [entityCount, Block.events, Block.opening, List.countP_map]
    calc (Survey.mk ((b :: bs).flatMap Block.events) rs ds).entityCount
      _ = (Survey.mk b.events rs ds).entityCount +
          (Survey.mk (bs.flatMap Block.events) rs ds).entityCount := List.countP_append
      _ = (b :: bs).length := by rw [hb, ih, List.length_cons, Nat.add_comm]

theorem entityCount_eq (lines : List String) :
    (ofLines lines).entityCount = (Block.ofEvents (ofLines lines).events).length := by
  have h := entityCount_flatMap_events (Block.ofEvents (ofLines lines).events)
    (ofLines lines).relations (ofLines lines).defects
  rwa [← events_eq_flatMap] at h

end Survey

end ClassDiagram
