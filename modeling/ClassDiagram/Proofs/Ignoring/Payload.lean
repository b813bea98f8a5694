import Mathlib.Data.List.Forall2
import ClassDiagram.Proofs.Drawing.Diagram
import ClassDiagram.Proofs.Ignoring.Position
import ClassDiagram.Proofs.Scan.EndPoints
import ClassDiagram.Proofs.Scan.Headings
import ClassDiagram.Proofs.Text.Trim

/-! # Payloads

What stands behind the dash at the front of a line concerns the member section that is open there
and nothing else. Whatever it says, it begins and ends no entity and no section, so streams that
differ in payloads alone have one frame, and the same lines of them go with ignored entities.
-/

namespace ClassDiagram

/-- The line begins with a dash and is no separator. -/
def isBulleted (line : String) : Bool :=
  (Text.trim line).toList.head? = some '-' && !isSeparator line

/-- The same line, or two lines with a payload each. -/
def SameButPayload (x y : String) : Prop :=
  x = y ∨ isBulleted x = true ∧ isBulleted y = true

/-- A payload is content, even if it looks like the beginning of something. -/
theorem ofLine_of_isBulleted {line : String} (h : isBulleted line = true) :
    Record.ofLine line = .content (Text.trim line) := by
  simp only [isBulleted, Text.toList_trim, decide_eq_true_eq, Bool.and_eq_true,
    Bool.not_eq_true', isSeparator] at h
  obtain ⟨hhead, hdashes⟩ := h
  obtain ⟨rest, hrest⟩ := List.head?_eq_some_iff.mp hhead
  rw [hrest] at hdashes
  have hheader : Record.header? ('-' :: rest) = none := rfl
  have hparent : Record.parent? ('-' :: rest) = none := rfl
  have hopener : Record.opener? ('-' :: rest) = none := rfl
  have hseparator : Record.separator? ('-' :: rest) = none := if_neg (by simp [hdashes])
  rw [Record.ofLine, Text.trim, hrest, Record.ofTrimmed, hheader, hparent, hopener, hseparator]
  rfl

namespace SameButPayload

variable {x y : String}

theorem advance (h : SameButPayload x y) (c : Cursor) : c.advance x = c.advance y := by
  rcases h with rfl | ⟨hx, hy⟩
  · rfl
  · simp [Cursor.advance, ofLine_of_isBulleted hx, ofLine_of_isBulleted hy]

theorem heading? (h : SameButPayload x y) : heading? x = heading? y := by
  rcases h with rfl | ⟨hx, hy⟩
  · rfl
  · simp [ClassDiagram.heading?, ofLine_of_isBulleted hx, ofLine_of_isBulleted hy]

theorem keeps (h : SameButPayload x y) (ignored : List String) (skipping : Bool) :
    Ignoring.keeps ignored skipping x = Ignoring.keeps ignored skipping y := by
  rcases h with rfl | ⟨hx, hy⟩
  · rfl
  · simp [Ignoring.keeps, ofLine_of_isBulleted hx, ofLine_of_isBulleted hy]

theorem skips (h : SameButPayload x y) (ignored : List String) (skipping : Bool) :
    Ignoring.skips ignored skipping x = Ignoring.skips ignored skipping y := by
  rcases h with rfl | ⟨hx, hy⟩
  · rfl
  · simp [Ignoring.skips, ofLine_of_isBulleted hx, ofLine_of_isBulleted hy]

end SameButPayload

namespace Occurrence

/-- The same line after the same lines, payloads aside. -/
structure SameButPayload (o q : Occurrence) : Prop where
  before : List.Forall₂ ClassDiagram.SameButPayload o.before q.before
  line : ClassDiagram.SameButPayload o.line q.line

end Occurrence

variable {xs ys : List String}

theorem run_eq_of_forall₂ (h : List.Forall₂ SameButPayload xs ys) (c : Cursor) :
    c.run xs = c.run ys := by
  induction h generalizing c with
  | nil => rfl
  | @cons x y xs ys hline _ ih =>
    change (c.advance x).run xs = (c.advance y).run ys
    rw [hline.advance, ih]

theorem Ignoring.inside_eq_foldl (ignored before : List String) :
    inside ignored before = before.foldl (skips ignored) false := by
  induction before using List.reverseRecOn with
  | nil => rfl
  | append_singleton xs x ih => rw [inside_append_singleton, List.foldl_append, ih]; rfl

theorem inside_eq_of_forall₂ (h : List.Forall₂ SameButPayload xs ys) (ignored : List String) :
    Ignoring.inside ignored xs = Ignoring.inside ignored ys := by
  rw [Ignoring.inside_eq_foldl, Ignoring.inside_eq_foldl]
  apply List.rel_foldl (P := Eq) _ rfl h
  rintro s _ rfl x y hline
  exact hline.skips ignored s

theorem headings_eq_of_forall₂ (h : List.Forall₂ SameButPayload xs ys) :
    headings xs = headings ys := by
  induction h with
  | nil => rfl
  | cons hline _ ih =>
    unfold headings at ih ⊢
    rw [List.filterMap_cons, List.filterMap_cons, hline.heading?, ih]

theorem forall₂_occurrencesFrom {before before' : List String}
    (hbefore : List.Forall₂ SameButPayload before before')
    (h : List.Forall₂ SameButPayload xs ys) :
    List.Forall₂ Occurrence.SameButPayload (occurrencesFrom before xs)
      (occurrencesFrom before' ys) := by
  induction h generalizing before before' with
  | nil => exact .nil
  | cons hline _ ih =>
    exact .cons ⟨hbefore, hline⟩ (ih (List.rel_append hbefore (.cons hline .nil)))

theorem forall₂_occurrences (h : List.Forall₂ SameButPayload xs ys) :
    List.Forall₂ Occurrence.SameButPayload (occurrences xs) (occurrences ys) :=
  forall₂_occurrencesFrom .nil h

theorem flatMap_occurrences_eq {β : Type} {f : Occurrence → List β}
    (h : List.Forall₂ SameButPayload xs ys)
    (hf : ∀ o q, Occurrence.SameButPayload o q → f o = f q) :
    (occurrences xs).flatMap f = (occurrences ys).flatMap f := by
  rw [← List.forall₂_eq_eq_eq]
  apply List.rel_flatMap (forall₂_occurrences h)
  intro o q hoq
  rw [List.forall₂_eq_eq_eq, hf o q hoq]

/-- The line is a header or names a superclass. -/
def Record.isNaming : Record → Bool
  | header _ _ => true
  | parent _ => true
  | _ => false

/-- The defect of a header or of a superclass line. -/
def Defect.isNaming (d : Defect) : Bool :=
  (Record.ofLine d.line).isNaming

namespace Occurrence

variable {o q : Occurrence} {ignored : List String}

theorem SameButPayload.number (h : o.SameButPayload q) : o.number = q.number := by
  rw [Occurrence.number, h.before.length_eq, Occurrence.number]

theorem SameButPayload.cursor (h : o.SameButPayload q) : o.cursor = q.cursor := by
  rw [Occurrence.cursor, Occurrence.cursor, ← LookBack.run_start, ← LookBack.run_start,
    run_eq_of_forall₂ h.before]

theorem SameButPayload.findings (h : o.SameButPayload q) (hline : o.line = q.line) :
    o.findings = q.findings := by
  simp only [Occurrence.findings, Occurrence.numbered, h.cursor, h.number, hline]

theorem filter_relations_of_isBulleted (h : isBulleted o.line = true) :
    o.relations.filter (·.kind = .inheritance) = [] := by
  rw [List.filter_eq_nil_iff]
  intro r hr
  have hrelates := relates_of_mem hr
  cases hrelates with
  | parent entity record =>
    rw [ofLine_of_isBulleted h] at record
    cases record
  | interface => simp
  | field => simp

theorem filter_defects_of_isBulleted (h : isBulleted o.line = true) :
    o.defects.filter Defect.isNaming = [] := by
  rw [List.filter_eq_nil_iff]
  intro d hd
  rw [Defect.isNaming, (eq_of_mem_defects hd).2, Record.ofLine_trim, ofLine_of_isBulleted h]
  simp [Record.isNaming]

theorem SameButPayload.filter_relations (h : o.SameButPayload q) :
    o.relations.filter (·.kind = .inheritance) = q.relations.filter (·.kind = .inheritance) := by
  rcases h.line with hline | ⟨ho, hq⟩
  · rw [relations, h.findings hline, relations]
  · rw [filter_relations_of_isBulleted ho, filter_relations_of_isBulleted hq]

theorem SameButPayload.filter_defects (h : o.SameButPayload q) :
    o.defects.filter Defect.isNaming = q.defects.filter Defect.isNaming := by
  rcases h.line with hline | ⟨ho, hq⟩
  · rw [defects, h.findings hline, defects]
  · rw [filter_defects_of_isBulleted ho, filter_defects_of_isBulleted hq]

theorem SameButPayload.owned (h : o.SameButPayload q) : o.owned ignored = q.owned ignored := by
  rw [← Bool.not_inj_iff]
  refine (Ignoring.keeps_inside o.before o.line).symm.trans ?_
  rw [inside_eq_of_forall₂ h.before, h.line.keeps]
  exact Ignoring.keeps_inside q.before q.line

end Occurrence

section Ignored

variable (ignored : List String)

/-- The numbers of the lines that are left when entities are taken out. -/
def keptNumbers (lines : List String) : List Nat :=
  (remaining ignored lines).map Occurrence.number

theorem withoutEntities_eq_filterMap (lines : List String) :
    withoutEntities ignored lines = (keptNumbers ignored lines).filterMap (lines[· - 1]?) := by
  rw [withoutEntities_eq_map, keptNumbers, List.filterMap_map, ← List.filterMap_eq_map]
  refine List.filterMap_congr fun o ho => ?_
  exact (Occurrence.getElem?_number (mem_remaining.mp ho).1).symm

theorem forall₂_remaining (h : List.Forall₂ SameButPayload xs ys) :
    List.Forall₂ Occurrence.SameButPayload (remaining ignored xs) (remaining ignored ys) := by
  apply List.rel_filter _ (forall₂_occurrences h)
  intro o q hoq
  simp [hoq.owned]

theorem keptNumbers_eq_of_forall₂ (h : List.Forall₂ SameButPayload xs ys) :
    keptNumbers ignored xs = keptNumbers ignored ys := by
  rw [← List.forall₂_eq_eq_eq]
  exact List.rel_map (fun _ _ hoq => hoq.number) (forall₂_remaining ignored h)

theorem forall₂_withoutEntities (h : List.Forall₂ SameButPayload xs ys) :
    List.Forall₂ SameButPayload (withoutEntities ignored xs) (withoutEntities ignored ys) := by
  rw [withoutEntities_eq_map, withoutEntities_eq_map]
  exact List.rel_map (fun _ _ hoq => hoq.line) (forall₂_remaining ignored h)

end Ignored

/-- The blocks have the same headings, and before every line the same entity and section are open.
The same superclasses are drawn, and the same headers and superclass lines are reported. -/
structure SameFrame (xs ys : List String) : Prop where
  headings : (Diagram.ofLines xs).blocks.map Block.heading =
    (Diagram.ofLines ys).blocks.map Block.heading
  cursor : ∀ n, Cursor.start.run (xs.take n) = Cursor.start.run (ys.take n)
  superclasses : (Survey.ofLines xs).relations.filter (·.kind = .inheritance) =
    (Survey.ofLines ys).relations.filter (·.kind = .inheritance)
  defects : (Survey.ofLines xs).defects.filter Defect.isNaming =
    (Survey.ofLines ys).defects.filter Defect.isNaming

theorem sameFrame_of_forall₂ (h : List.Forall₂ SameButPayload xs ys) : SameFrame xs ys where
  headings := by
    rw [Diagram.ofLines, Diagram.ofLines, Survey.map_heading_blocks, Survey.map_heading_blocks,
      headings_eq_of_forall₂ h]
  cursor n := run_eq_of_forall₂ (List.forall₂_take n h) Cursor.start
  superclasses := by
    rw [Survey.relations_eq_flatMap, Survey.relations_eq_flatMap, List.filter_flatMap,
      List.filter_flatMap]
    exact flatMap_occurrences_eq h fun _ _ hoq => hoq.filter_relations
  defects := by
    rw [Survey.defects_eq_flatMap, Survey.defects_eq_flatMap, List.filter_flatMap,
      List.filter_flatMap]
    exact flatMap_occurrences_eq h fun _ _ hoq => hoq.filter_defects

/-- Streams that differ in payloads alone have the same frame. Taking entities out keeps lines of
the same numbers in both, and what is left has the same frame again. -/
theorem payloads_leave_frame (h : List.Forall₂ SameButPayload xs ys) (ignored : List String) :
    SameFrame xs ys ∧
      keptNumbers ignored xs = keptNumbers ignored ys ∧
      withoutEntities ignored xs = (keptNumbers ignored xs).filterMap (xs[· - 1]?) ∧
      withoutEntities ignored ys = (keptNumbers ignored ys).filterMap (ys[· - 1]?) ∧
      SameFrame (withoutEntities ignored xs) (withoutEntities ignored ys) :=
  ⟨sameFrame_of_forall₂ h, keptNumbers_eq_of_forall₂ ignored h,
    withoutEntities_eq_filterMap ignored xs, withoutEntities_eq_filterMap ignored ys,
    sameFrame_of_forall₂ (forall₂_withoutEntities ignored h)⟩

/-- A field gives way to the text of a header, and in an ignored entity to dashes. -/
theorem header_as_payload :
    List.Forall₂ SameButPayload
      ["Class: A", "Extends: b.B", "Fields:", "- C c", "----", "Class: D", "- int x"]
      ["Class: A", "Extends: b.B", "Fields:", "- Class: D", "----", "Class: D", "- ---"] ∧
    SameFrame ["Class: A", "Extends: b.B", "Fields:", "- C c", "----", "Class: D", "- int x"]
      ["Class: A", "Extends: b.B", "Fields:", "- Class: D", "----", "Class: D", "- ---"] ∧
    keptNumbers ["D"]
      ["Class: A", "Extends: b.B", "Fields:", "- Class: D", "----", "Class: D", "- ---"] =
        [1, 2, 3, 4, 5] := by
  have hfield : SameButPayload "- C c" "- Class: D" := .inr (by decide)
  have hignored : SameButPayload "- int x" "- ---" := .inr (by decide)
  have h : List.Forall₂ SameButPayload
      ["Class: A", "Extends: b.B", "Fields:", "- C c", "----", "Class: D", "- int x"]
      ["Class: A", "Extends: b.B", "Fields:", "- Class: D", "----", "Class: D", "- ---"] :=
    .cons (.inl rfl) (.cons (.inl rfl) (.cons (.inl rfl) (.cons hfield
      (.cons (.inl rfl) (.cons (.inl rfl) (.cons hignored .nil))))))
  obtain ⟨hframe, hnumbers, -⟩ := payloads_leave_frame h ["D"]
  exact ⟨h, hframe, hnumbers.symm.trans (by decide)⟩

end ClassDiagram
