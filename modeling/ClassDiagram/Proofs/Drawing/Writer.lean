import ClassDiagram.Proofs.Drawing.Diagram
import ClassDiagram.Proofs.Scan.EndPoints
import ClassDiagram.Proofs.Scan.Headings

/-! # Writers

A notation can be written event by event: an entity opens, is given its members and closes, and
the relations come last. A scan keeps to this order for every writer. The writer of yUML has an
entity pending exactly while one is open, so that no member, no entity and no close is lost on it.
-/

namespace ClassDiagram

/-- A notation with a state between the events. The relations are handed over once, at the end. -/
structure Writer (σ : Type) where
  start : σ
  opened : σ → EntityKind → String → σ
  constructor : σ → Signature → σ
  method : σ → Signature → σ
  field : σ → Field → σ
  closed : σ → σ
  finish : σ → List Relation → List String

namespace Writer

variable {σ : Type} (w : Writer σ)

def member (s : σ) : Member → σ
  | .constructor m => w.constructor s m
  | .method m => w.method s m
  | .field f => w.field s f

def step (s : σ) : Event → σ
  | .opened kind name => w.opened s kind name
  | .member m => w.member s m
  | .closed => w.closed s

def run (es : List Event) : σ :=
  es.foldl w.step w.start

/-- The writer takes the events as they come, and is finished with the relations. -/
def draw : Drawing := fun es rs =>
  w.finish (w.run es) rs

/-- An entity is opened, takes its members and is closed. -/
def block (s : σ) (b : Block) : σ :=
  w.closed (b.members.foldl w.member (w.opened s b.kind b.name))

@[simp] theorem run_append_singleton (es : List Event) (e : Event) :
    w.run (es ++ [e]) = w.step (w.run es) e := by
  rw [run, run, List.foldl_append]
  rfl

theorem foldl_step_events (s : σ) (b : Block) : b.events.foldl w.step s = w.block s b := by
  have hmembers (t : σ) :
      (b.members.map Event.member).foldl w.step t = b.members.foldl w.member t :=
    List.foldl_map
  rw [block, ← hmembers, Block.events, Block.opening, List.foldl_append]
  rfl

theorem run_flatMap_events (bs : List Block) :
    w.run (bs.flatMap Block.events) = bs.foldl w.block w.start := by
  have hfold : ∀ s : σ, (bs.flatMap Block.events).foldl w.step s = bs.foldl w.block s := by
    induction bs with
    | nil => exact fun _ => rfl
    | cons b bs ih =>
      intro s
      rw [List.flatMap_cons, List.foldl_append, foldl_step_events, ih, List.foldl_cons]
  exact hfold w.start

end Writer

namespace PlantUml

/-- Every event is a line. -/
def writer : Writer (List String) where
  start := ["@startuml"]
  opened ls kind name := ls ++ [kind.keyword ++ " " ++ name ++ " \x7b"]
  constructor ls s := ls ++ [s.render none]
  method ls s := ls ++ [s.render (some abstractMarker)]
  field ls f := ls ++ [f.render]
  closed ls := ls ++ ["\x7d"]
  finish ls rs := ls ++ rs.map relationLine ++ ["@enduml"]

theorem step_writer (ls : List String) (e : Event) : writer.step ls e = ls ++ [eventLine e] := by
  cases e with
  | member m => cases m <;> rfl
  | _ => rfl

theorem run_writer (es : List Event) : writer.run es = ["@startuml"] ++ es.map eventLine := by
  induction es using List.reverseRecOn with
  | nil => rfl
  | append_singleton es e ih =>
    simp [ih, step_writer]

theorem draw_writer : writer.draw = draw := by
  funext es rs
  rw [Writer.draw, run_writer]
  rfl

end PlantUml

namespace Yuml

/-- An entity that is not closed yet, with the texts of its members. -/
structure Pending where
  name : String
  texts : List String
  deriving DecidableEq

namespace Pending

def line (p : Pending) : String :=
  if p.texts.isEmpty then "[" ++ p.name ++ "]"
  else "[" ++ p.name ++ "|" ++ ";".intercalate p.texts ++ "]"

def ofBlock (b : Block) : Pending :=
  ⟨b.name, b.members.map memberText⟩

theorem line_ofBlock (b : Block) : (ofBlock b).line = blockLine b := by
  simp [line, ofBlock, blockLine]

end Pending

/-- The lines so far, and the entity that makes the next line. -/
structure Page where
  lines : List String
  pending? : Option Pending
  deriving DecidableEq

namespace Page

/-- A text without a pending entity is dropped. -/
def push (p : Page) (text : String) : Page :=
  ⟨p.lines, p.pending?.map fun b => ⟨b.name, b.texts ++ [text]⟩⟩

/-- A pending entity that another one opens on is dropped. -/
def opened (p : Page) (name : String) : Page :=
  ⟨p.lines, some ⟨name, []⟩⟩

def closed (p : Page) : Page :=
  match p.pending? with
  | some b => ⟨p.lines ++ [b.line], none⟩
  | none => p

def ofAssembly (a : Assembly) : Page :=
  ⟨a.blocks.toList.map blockLine, a.pending?.map Pending.ofBlock⟩

end Page

/-- Every block is a line, written when the entity closes. -/
def writer : Writer Page where
  start := ⟨[], none⟩
  opened p _ name := p.opened name
  constructor p s := p.push (s.render none)
  method p s := p.push (s.render none)
  field p f := p.push f.render
  closed := Page.closed
  finish p rs := p.lines ++ rs.map relationLine

theorem member_writer (p : Page) (m : Member) : writer.member p m = p.push (memberText m) := by
  cases m <;> rfl

/-- The page shows what the assembly holds. -/
theorem step_ofAssembly (a : Assembly) (e : Event) :
    writer.step (Page.ofAssembly a) e = Page.ofAssembly (a.step e) := by
  obtain ⟨blocks, pending?⟩ := a
  cases e with
  | opened kind name => rfl
  | member m =>
    rw [Writer.step, member_writer]
    cases pending? with
    | none => rfl
    | some b => simp [Page.push, Page.ofAssembly, Assembly.step, Pending.ofBlock, Block.push]
  | closed =>
    cases pending? with
    | none => rfl
    | some b =>
      simp [Writer.step, writer, Page.closed, Page.ofAssembly, Assembly.step, Pending.line_ofBlock]

theorem run_writer (es : List Event) :
    writer.run es = Page.ofAssembly (Assembly.empty.run es) := by
  induction es using List.reverseRecOn with
  | nil => rfl
  | append_singleton es e ih =>
    rw [Writer.run_append_singleton, ih, step_ofAssembly, Assembly.run_append]
    rfl

theorem draw_writer : writer.draw = draw := by
  funext es rs
  rw [Writer.draw, run_writer]
  rfl

/-- The event has its full effect: nothing pending is written over, and there is an entity that
the member goes to or that is closed into a line. -/
def Page.Takes (p : Page) : Event → Prop
  | .opened _ _ => p.pending? = none
  | .member m => ∃ b, p.pending? = some b ∧
      writer.member p m = ⟨p.lines, some ⟨b.name, b.texts ++ [memberText m]⟩⟩
  | .closed => ∃ b, p.pending? = some b ∧ writer.closed p = ⟨p.lines ++ [b.line], none⟩

theorem takes_of_accepts {a : Assembly} {e : Event} (h : a.Accepts e) :
    (Page.ofAssembly a).Takes e := by
  obtain ⟨blocks, pending?⟩ := a
  cases e with
  | opened kind name =>
    obtain rfl : pending? = none := h
    rfl
  | member m =>
    obtain ⟨b, rfl⟩ := Option.ne_none_iff_exists'.mp h
    refine ⟨.ofBlock b, rfl, ?_⟩
    rw [member_writer]
    rfl
  | closed =>
    obtain ⟨b, rfl⟩ := Option.ne_none_iff_exists'.mp h
    exact ⟨.ofBlock b, rfl, rfl⟩

end Yuml

namespace Block

theorem count_closed_events (b : Block) : b.events.count .closed = 1 := by
  have hmembers : (b.members.map Event.member).count .closed = 0 := by
    simp [List.count_eq_zero]
  rw [events, opening, List.count_append, List.count_cons, hmembers]
  rfl

theorem count_closed_flatMap_events (bs : List Block) :
    (bs.flatMap events).count .closed = bs.length := by
  rw [List.count_flatMap]
  simp [Function.comp_def, count_closed_events]

end Block

theorem Yuml.pending?_run_lineFindings (before : List String) :
    (writer.run (Finding.events (lineFindings before))).pending?.map Pending.name =
      LookBack.entity? before := by
  obtain ⟨-, hfollows⟩ := follows_lineFindings before
  have hname : (Pending.name ∘ Pending.ofBlock) = Block.name := rfl
  rw [run_writer, Page.ofAssembly, Option.map_map, hname]
  exact hfollows

/-- The events of the lines are those of the blocks in a row, each opened, filled and closed. Any
writer takes them and is finished once, with all the relations that the lines lead to. -/
structure Diagram.IsWritten (lines : List String) (d : Diagram) : Prop where
  events : (Survey.ofLines lines).events = d.blocks.flatMap Block.events
  relations : d.relations = (occurrences lines).flatMap Occurrence.relations
  finished : ∀ {σ : Type} (w : Writer σ), w.draw.render lines =
    ⟨w.finish (d.blocks.foldl w.block w.start) d.relations, (Survey.ofLines lines).defects,
      d.blocks.length, d.relations.length⟩
  opened : ((Survey.ofLines lines).events.filterMap Event.heading?).length = d.blocks.length
  closed : (Survey.ofLines lines).events.count .closed = d.blocks.length

/-- After the events of any number of lines that entity is pending which the lines leave open, and
none in the end. Every event has its full effect. -/
structure Yuml.KeepsPace (lines : List String) : Prop where
  pending : ∀ n, Finding.events (lineFindings (lines.take n)) <+: (Survey.ofLines lines).events ∧
    (writer.run (Finding.events (lineFindings (lines.take n)))).pending?.map Pending.name =
      LookBack.entity? (lines.take n)
  settled : (writer.run (Survey.ofLines lines).events).pending? = none
  takes : ∀ es e rest, (Survey.ofLines lines).events = es ++ e :: rest → (writer.run es).Takes e

theorem Diagram.isWritten_ofLines (lines : List String) : (ofLines lines).IsWritten lines := by
  have hevents : (Survey.ofLines lines).events = (ofLines lines).blocks.flatMap Block.events :=
    Survey.events_eq_flatMap lines
  refine ⟨hevents, Survey.relations_eq_flatMap lines, ?_, ?_, ?_⟩
  · intro σ w
    have hrun : w.run (Survey.ofLines lines).events =
        (ofLines lines).blocks.foldl w.block w.start := by
      rw [hevents, w.run_flatMap_events]
    rw [Drawing.render, Drawing.ofSurvey, Survey.entityCount_eq, Writer.draw, hrun]
    rfl
  · rw [hevents, Block.headings_flatMap_events, List.length_map]
  · rw [hevents, Block.count_closed_flatMap_events]

theorem Yuml.keepsPace (lines : List String) : KeepsPace lines := by
  constructor
  · intro n
    refine ⟨?_, pending?_run_lineFindings (lines.take n)⟩
    -- the events so far are the first ones of the stream, as no line looks at those after it
    have hfindings := lineFindings_isPrefix (lines.take n) (lines.drop n)
    rw [List.take_append_drop] at hfindings
    rw [events_eq_lineFindings]
    exact (hfindings.filterMap _).trans (List.prefix_append _ _)
  · rw [run_writer, Page.ofAssembly, Survey.pending?_events]
    rfl
  · intro es e rest hsplit
    have haccepts := Survey.acceptsAll_events lines
    rw [hsplit] at haccepts
    rw [run_writer]
    exact takes_of_accepts (Assembly.accepts_of_acceptsAll haccepts)

/-- Every writer is taken from block to block and finished once. Both notations are written in this
way, and the writer of yUML never loses an event. -/
theorem scan_keeps_protocol (lines : List String) :
    (Diagram.ofLines lines).IsWritten lines ∧ PlantUml.writer.draw = PlantUml.draw ∧
      Yuml.writer.draw = Yuml.draw ∧ Yuml.KeepsPace lines :=
  ⟨Diagram.isWritten_ofLines lines, PlantUml.draw_writer, Yuml.draw_writer, Yuml.keepsPace lines⟩

end ClassDiagram
