import Mathlib.Data.List.Flatten
import ClassDiagram.Proofs.Scan.LineByLine

/-! # The headings of a stream

The headers of a stream tell which blocks there are: one for each header with a simple name, in
the order of the headers. The other headers are reported as nameless, and no other line is. A
report speaks of the open entity or of none.
-/

namespace ClassDiagram

/-- The kind and the simple name that a header gives. -/
def heading? (line : String) : Option (EntityKind × String) :=
  match Record.ofLine line with
  | .header kind name => some (kind, simpleName name)
  | _ => none

def headings (lines : List String) : List (EntityKind × String) :=
  lines.filterMap heading?

theorem heading?_eq_some {line name : String} {kind : EntityKind}
    (h : Record.ofLine line = .header kind name) :
    heading? line = some (kind, simpleName name) := by
  rw [heading?, h]

theorem heading?_eq_none {line : String} (h : (Record.ofLine line).isHeader = false) :
    heading? line = none := by
  unfold heading?
  cases hr : Record.ofLine line with
  | header kind name =>
    rw [hr] at h
    cases h
  | _ => rfl

@[simp] theorem headings_cons (line : String) (lines : List String) :
    headings (line :: lines) = (heading? line).toList ++ headings lines := by
  simp only [headings, List.filterMap_cons]
  cases heading? line <;> rfl

theorem LookBack.exists_mem_headings {before : List String} {e : String}
    (h : LookBack.entity? before = some e) : ∃ kind, (kind, e) ∈ headings before := by
  unfold LookBack.entity? at h
  split at h
  · rename_i kind name hlast
    split_ifs at h
    obtain ⟨hmem, -⟩ := List.mem_filter.mp (List.mem_of_getLast? hlast)
    obtain ⟨line, hline, hr⟩ := List.mem_map.mp hmem
    refine ⟨kind, List.mem_filterMap.mpr ⟨line, hline, ?_⟩⟩
    rw [heading?, hr, ← Option.some.inj h]
  · cases h

def Event.heading? : Event → Option (EntityKind × String)
  | opened kind name => some (kind, name)
  | _ => none

namespace Block

def heading (b : Block) : EntityKind × String :=
  (b.kind, b.name)

theorem headings_events (b : Block) : b.events.filterMap Event.heading? = [b.heading] := by
  have hmembers : (b.members.map Event.member).filterMap Event.heading? = [] := by
    simp [List.filterMap_map, Function.comp_def, Event.heading?]
  have hopened : Event.heading? (.opened b.kind b.name) = some b.heading := rfl
  rw [events, opening, List.filterMap_append, List.filterMap_cons_some hopened, hmembers]
  rfl

theorem headings_flatMap_events (bs : List Block) :
    (bs.flatMap events).filterMap Event.heading? = bs.map heading := by
  rw [List.filterMap_flatMap, List.map_eq_flatMap]
  exact List.flatMap_congr fun b _ => b.headings_events

end Block

namespace Cursor

variable {c : Cursor} {line : String} {r : Option String × DefectReason}

theorem heading?_effect (c : Cursor) (line : String) :
    (c.effect line).event?.bind Event.heading? =
      (ClassDiagram.heading? line).filter fun h => h.2 ≠ "" := by
  have ho := c.outcome_effect line
  generalize c.effect line = e at ho ⊢
  cases ho with
  | nothing other => simp [heading?_eq_none other, Effect.event?]
  | opened record named =>
    simp [heading?_eq_some record, Effect.event?, Event.heading?, named, Option.filter]
  | nameless record nameless =>
    simp [heading?_eq_some record, Effect.event?, nameless, Option.filter]
  | parent entity record => simp [heading?_eq_none, record, Effect.event?, Record.isHeader]
  | member entity inSection record inside =>
    have hnone : ClassDiagram.heading? line = none := heading?_eq_none (by rw [record]; rfl)
    rw [hnone]
    cases inside <;> rfl
  | reported other => simp [heading?_eq_none other, Effect.event?]

theorem headings_findings (c : Cursor) (l : NumberedLine) :
    (Finding.events (c.findings l)).filterMap Event.heading? =
      ((ClassDiagram.heading? l.2).filter fun h => h.2 ≠ "").toList := by
  have hending : (Finding.events (c.ending l.2)).filterMap Event.heading? = [] := by
    rcases c.ending_eq_nil_or l.2 with h | h <;> rw [h] <;> rfl
  rw [findings_eq, Finding.events_append, List.filterMap_append, hending, List.nil_append,
    Effect.events_findings, ← heading?_effect c l.2]
  cases (c.effect l.2).event? with
  | none => rfl
  | some e => cases he : Event.heading? e <;> simp [he]

/-- A header without a name is reported outside of any entity and for just that, and any other line
in the open entity and for something else. -/
theorem report?_effect (h : (c.effect line).report? = some r) :
    (∃ kind, ClassDiagram.heading? line = some (kind, "")) ∧ r = (none, .missingEntityName) ∨
      ClassDiagram.heading? line = none ∧ r.1 = c.entity? ∧
        r.2.message ≠ "missing entity name" := by
  have ho := c.outcome_effect line
  generalize c.effect line = e at ho h
  cases ho with
  | nothing => cases h
  | opened => cases h
  | @nameless kind name record nameless =>
    obtain rfl := Option.some.inj h
    exact .inl ⟨⟨kind, by rw [heading?_eq_some record, nameless]⟩, rfl⟩
  | parent => cases h
  | member entity inSection record inside =>
    refine .inr ⟨heading?_eq_none (by rw [record]; rfl), ?_⟩
    cases inside with
    | reported known =>
      obtain rfl := Option.some.inj h
      have hmessage : ∀ reason ∈ [DefectReason.missingInterfaceName, .missingConstructor,
          .missingMethod, .incompleteField], reason.message ≠ "missing entity name" := by
        decide
      exact ⟨entity.symm, hmessage _ known⟩
    | _ => cases h
  | reported other known =>
    obtain rfl := Option.some.inj h
    have hmessage : ∀ reason ∈ [DefectReason.parentOutsideEntity, .missingParentName,
        .memberOutsideEntity], reason.message ≠ "missing entity name" := by
      decide
    exact .inr ⟨heading?_eq_none other, rfl, hmessage _ known⟩

theorem report?_effect_of_nameless {kind : EntityKind}
    (h : ClassDiagram.heading? line = some (kind, "")) :
    (c.effect line).report? = some (none, .missingEntityName) := by
  unfold ClassDiagram.heading? at h
  unfold effect
  cases hr : Record.ofLine line with
  | header k name =>
    simp only [hr, Option.some.injEq, Prod.mk.injEq] at h
    simp [headerEffect, h.2, Effect.report?]
  | _ =>
    rw [hr] at h
    cases h

end Cursor

def Defect.isNameless (d : Defect) : Bool :=
  d.reason.message = "missing entity name"

namespace Occurrence

theorem countP_isNameless_defects (o : Occurrence) :
    o.defects.countP Defect.isNameless =
      (ClassDiagram.heading? o.line).toList.countP fun h => h.2 = "" := by
  rw [defects_eq, List.countP_map]
  cases hr : o.effect.report? with
  | none =>
    symm
    rw [Option.toList_none, List.countP_nil, List.countP_eq_zero]
    rintro ⟨kind, name⟩ hmem
    simp only [decide_eq_true_eq]
    rintro rfl
    have hreport := Cursor.report?_effect_of_nameless (c := o.cursor) (Option.mem_toList.mp hmem)
    rw [← Occurrence.effect, hr] at hreport
    cases hreport
  | some r =>
    rcases Cursor.report?_effect hr with ⟨⟨kind, hk⟩, rfl⟩ | ⟨hk, -, hm⟩
    · rw [hk]
      rfl
    · simp [hk, Defect.isNameless, hm]

theorem entity?_of_mem_defects {o : Occurrence} {d : Defect} {e : String} (h : d ∈ o.defects)
    (he : d.entity? = some e) : LookBack.entity? o.before = some e := by
  rw [defects_eq, List.mem_map] at h
  obtain ⟨r, hr, rfl⟩ := h
  rcases Cursor.report?_effect (Option.mem_toList.mp hr) with ⟨-, rfl⟩ | ⟨-, hentity, -⟩
  · cases he
  · exact hentity.symm.trans he

end Occurrence

theorem headings_eq_flatMap (lines : List String) :
    headings lines = (occurrences lines).flatMap fun o => (heading? o.line).toList := by
  conv_lhs => rw [← map_line_occurrences lines, headings, List.filterMap_map]
  exact List.filterMap_eq_flatMap_toList _ _

namespace Survey

/-- The blocks of a stream are those of the headers with a name. -/
theorem map_heading_blocks (lines : List String) :
    (Block.ofEvents (ofLines lines).events).map Block.heading =
      (headings lines).filter fun h => h.2 ≠ "" := by
  have hclosing :
      (Finding.events (LookBack.cursor lines).closing).filterMap Event.heading? = [] := by
    rcases (LookBack.cursor lines).closing_eq_nil_or with h | h <;> rw [h] <;> rfl
  calc (Block.ofEvents (ofLines lines).events).map Block.heading
    _ = (ofLines lines).events.filterMap Event.heading? := by
      rw [← Block.headings_flatMap_events, ← events_eq_flatMap]
    _ = (Finding.events (lineFindings lines)).filterMap Event.heading? := by
      rw [events_eq_lineFindings, List.filterMap_append, hclosing, List.append_nil]
    _ = (occurrences lines).flatMap fun o =>
          ((heading? o.line).filter fun h => h.2 ≠ "").toList := by
      rw [lineFindings, Finding.events, List.filterMap_flatMap, List.filterMap_flatMap]
      exact List.flatMap_congr fun o _ => o.cursor.headings_findings o.numbered
    _ = (headings lines).filter fun h => h.2 ≠ "" := by
      rw [headings_eq_flatMap, List.filter_flatMap]
      exact List.flatMap_congr fun o _ => Option.toList_filter

theorem countP_isNameless (lines : List String) :
    (ofLines lines).defects.countP Defect.isNameless =
      (headings lines).countP fun h => h.2 = "" := by
  rw [defects_eq_flatMap, headings_eq_flatMap, List.countP_flatMap, List.countP_flatMap]
  exact congrArg List.sum (List.map_congr_left fun o _ => o.countP_isNameless_defects)

end Survey

end ClassDiagram
