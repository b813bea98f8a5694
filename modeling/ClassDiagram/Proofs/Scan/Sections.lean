import ClassDiagram.Proofs.Scan.Concatenation
import ClassDiagram.Proofs.Scan.LineByLine

/-! # Sections

A label opens its section whatever section was open before, and the lines under it leave both the
entity and the section open. What a section contributes is therefore a matter of its own lines and
of the open entity. The lines behind it, if a label, a header or a separator comes first among them,
find the same as without it.
-/

namespace ClassDiagram

def Record.isOpener : Record → Bool
  | opener _ => true
  | _ => false

/-- A section label, and under it lines at which no entity and no section begins or ends: content,
superclass lines and blank lines. -/
def isSection : List String → Bool
  | [] => false
  | label :: body =>
    (Record.ofLine label).isOpener && body.all fun l => !(Record.ofLine l).isMark

/-- The first line that is not blank is a header, a separator or a label, if there is one. -/
def beginsWithMark (lines : List String) : Bool :=
  (written lines).head?.all fun l => (Record.ofLine l).isMark

theorem Record.isMark_of_isOpener {r : Record} (h : r.isOpener = true) : r.isMark = true := by
  cases r <;> simp_all [isOpener, isMark]

theorem Record.isBoundary_of_isOpener {r : Record} (h : r.isOpener = true) :
    r.isBoundary = false := by
  cases r <;> simp_all [isOpener, isBoundary]

theorem Record.isBoundary_of_isMark {r : Record} (h : r.isMark = false) :
    r.isBoundary = false := by
  cases r <;> simp_all [isMark]

theorem isBoundary_of_mem_section {lines : List String} (h : isSection lines = true) :
    ∀ l ∈ lines, (Record.ofLine l).isBoundary = false := by
  cases lines with
  | nil => cases h
  | cons label body =>
    obtain ⟨hlabel, hbody⟩ := Bool.and_eq_true_iff.mp h
    intro l hl
    rcases List.mem_cons.mp hl with rfl | hl
    · exact Record.isBoundary_of_isOpener hlabel
    · exact Record.isBoundary_of_isMark (by simpa using List.all_eq_true.mp hbody l hl)

namespace Cursor

variable {c d : Cursor} {lines : List String}

/-! ## Where a section begins or ends -/

theorem advance_of_isMark {line : String} (h : (Record.ofLine line).isMark = true)
    (he : c.entity? = d.entity?) : c.advance line = d.advance line := by
  unfold advance
  cases hr : Record.ofLine line with
  | header kind name => rfl
  | separator => rfl
  | opener members => rw [he]
  | _ =>
    rw [hr] at h
    cases h

theorem findings_of_isMark {l : NumberedLine} (h : (Record.ofLine l.2).isMark = true)
    (he : c.entity? = d.entity?) : c.findings l = d.findings l := by
  have hclosing : c.closing = d.closing := by rw [closing, he, closing]
  unfold findings
  cases hr : Record.ofLine l.2 with
  | header kind name => rw [hclosing]
  | separator => rw [hclosing]
  | opener members => rfl
  | _ =>
    rw [hr] at h
    cases h

theorem along_of_isSection {ls : List NumberedLine} (h : isSection (ls.map (·.2)) = true)
    (he : c.entity? = d.entity?) : c.along ls = d.along ls := by
  cases ls with
  | nil => cases h
  | cons l ls =>
    have hmark := Record.isMark_of_isOpener (Bool.and_eq_true_iff.mp h).1
    rw [along, along, findings_of_isMark hmark he, advance_of_isMark hmark he]

theorem scan_of_beginsWithMark {ls : List NumberedLine}
    (h : beginsWithMark (ls.map (·.2)) = true) (he : c.entity? = d.entity?) :
    c.scan ls = d.scan ls := by
  rcases scan_eq_closing_or_cons h with hend | ⟨l, rest, hmark, hscan⟩
  · rw [hend, hend, closing, he, closing]
  · rw [hscan, hscan, scan, scan, findings_of_isMark hmark he, advance_of_isMark hmark he]

/-! ## Lines at which no entity begins or ends -/

theorem entity?_run (h : ∀ l ∈ lines, (Record.ofLine l).isBoundary = false) (c : Cursor) :
    (c.run lines).entity? = c.entity? := by
  induction lines generalizing c with
  | nil => rfl
  | cons l ls ih =>
    have hl := h l List.mem_cons_self
    calc (c.run (l :: ls)).entity?
      _ = ((c.advance l).run ls).entity? := rfl
      _ = (c.advance l).entity? := ih (fun m hm => h m (List.mem_cons_of_mem l hm)) _
      _ = c.entity? := entity?_advance hl c

theorem exists_events_along {ls : List NumberedLine}
    (h : ∀ l ∈ ls, (Record.ofLine l.2).isBoundary = false) (c : Cursor) :
    ∃ ms : List Member, Finding.events (c.along ls) = ms.map .member ∧
      (c.entity? = none → ms = []) := by
  induction ls generalizing c with
  | nil => exact ⟨[], rfl, fun _ => rfl⟩
  | cons l ls ih =>
    have hl := h l List.mem_cons_self
    obtain ⟨m?, hfirst, hm⟩ := events_findings_of_isBoundary hl c
    obtain ⟨ms, hrest, hms⟩ := ih (fun m hm => h m (List.mem_cons_of_mem l hm)) (c.advance l.2)
    rw [entity?_advance hl c] at hms
    refine ⟨m?.toList ++ ms, ?_, fun hnone => ?_⟩
    · rw [along, Finding.events_append, hfirst, hrest, List.map_append]
    · rw [hm hnone, hms hnone]
      rfl

end Cursor

/-! ## What a section contributes -/

def Event.member? : Event → Option Member
  | member m => some m
  | _ => none

/-- Members of the open entity, relations and defects. -/
structure Contribution where
  members : List Member
  relations : List Relation
  defects : List Defect
  deriving DecidableEq

/-- What a section finds, with an entity open in front of it or none. -/
def sectionFindings (entity? : Option String) (lines : List String) : List Finding :=
  (Cursor.mk entity? none).along (numbered lines)

/-- What lines find to the end of a stream, behind `k` others that leave an entity open or none. -/
def remainderFindings (entity? : Option String) (k : Nat) (lines : List String) : List Finding :=
  (Cursor.mk entity? none).scan (numberedBehind k lines)

/-- The contribution of a section to the entity it stands in, if it does. The lines of its defects
are counted from the label. -/
def Contribution.ofSection (entity? : Option String) (lines : List String) : Contribution :=
  ⟨(Finding.events (sectionFindings entity? lines)).filterMap Event.member?,
    Finding.relations (sectionFindings entity? lines),
    Finding.defects (sectionFindings entity? lines)⟩

theorem Contribution.events_sectionFindings {lines : List String} (h : isSection lines = true)
    (entity? : Option String) :
    Finding.events (sectionFindings entity? lines) =
        (ofSection entity? lines).members.map .member ∧
      (entity? = none → (ofSection entity? lines).members = []) := by
  have hboundary : ∀ l ∈ numbered lines, (Record.ofLine l.2).isBoundary = false := by
    intro l hl
    refine isBoundary_of_mem_section h l.2 ?_
    rw [← map_snd_numbered lines]
    exact List.mem_map_of_mem hl
  obtain ⟨ms, hms, hnone⟩ := Cursor.exists_events_along hboundary (Cursor.mk entity? none)
  rw [← sectionFindings] at hms
  have hmembers : (ofSection entity? lines).members = ms := by
    rw [ofSection, hms, List.filterMap_map]
    exact List.filterMap_some
  rw [hmembers]
  exact ⟨hms, hnone⟩

/-- A section contributes to the open entity, its lines counted on, and leads on to the rest with
the same entity open. -/
theorem Cursor.exists_scan_append_of_isSection {lines : List String}
    (h : isSection lines = true) (c : Cursor) (k : Nat) (rest : List String) :
    ∃ d : Cursor, d.entity? = c.entity? ∧
      c.scan (numberedBehind k (lines ++ rest)) =
        (sectionFindings c.entity? lines).map (Finding.renumber (· + k)) ++
          d.scan (numberedBehind (k + lines.length) rest) := by
  have halong : c.along (numberedBehind k lines) =
      (Cursor.mk c.entity? none).along (numberedBehind k lines) :=
    along_of_isSection (by rwa [map_snd_numberedBehind]) rfl
  refine ⟨c.run lines, entity?_run (isBoundary_of_mem_section h) c, ?_⟩
  rw [numberedBehind_append, scan_append, map_snd_numberedBehind, halong, sectionFindings,
    map_renumber_along]
  rfl

theorem lineFindings_eq_along (lines : List String) :
    lineFindings lines = Cursor.start.along (numbered lines) := by
  have hscan := scan_numbered lines
  rw [Cursor.scan_eq_along, map_snd_numbered, LookBack.run_start] at hscan
  exact (List.append_cancel_right hscan).symm

/-- Two sections in a row contribute to the entity that is open in front of them, one after the
other. What comes behind them finds the same whichever section it is that ends. -/
theorem scan_sections (before : List String) {first second after : List String}
    (hfirst : isSection first = true) (hsecond : isSection second = true)
    (hafter : beginsWithMark after = true) :
    Cursor.start.scan (numbered (before ++ first ++ second ++ after)) =
      lineFindings before ++
        (sectionFindings (LookBack.entity? before) first).map
          (Finding.renumber (· + before.length)) ++
        (sectionFindings (LookBack.entity? before) second).map
          (Finding.renumber (· + (before.length + first.length))) ++
        remainderFindings (LookBack.entity? before)
          (before.length + first.length + second.length) after := by
  have hbefore : (Cursor.start.run before).entity? = LookBack.entity? before := by
    rw [LookBack.run_start]
    rfl
  obtain ⟨c, hc, hscan⟩ := Cursor.exists_scan_append_of_isSection hfirst
    (Cursor.start.run before) before.length (second ++ after)
  obtain ⟨d, hd, hscan'⟩ := Cursor.exists_scan_append_of_isSection hsecond c
    (before.length + first.length) after
  have hrest : d.scan (numberedBehind (before.length + first.length + second.length) after) =
      remainderFindings (LookBack.entity? before)
        (before.length + first.length + second.length) after := by
    refine Cursor.scan_of_beginsWithMark ?_ (hd.trans (hc.trans hbefore))
    rwa [map_snd_numberedBehind]
  simp only [List.append_assoc]
  rw [numbered_append, Cursor.scan_append, map_snd_numbered, ← lineFindings_eq_along, hscan, hscan',
    hrest, hc, hbefore]

end ClassDiagram
