import ClassDiagram.Proofs.Text.Trim
import ClassDiagram.Scan.Survey

/-! # What a line comes to

Besides ending the open entity, a line comes to at most one thing: it opens an entity, fills or
relates the open one, or is reported. What it comes to depends on the cursor and on its text, and
its number only labels the report.
-/

namespace ClassDiagram

/-- An entity begins or ends here. -/
def Record.isBoundary : Record → Bool
  | header _ _ => true
  | separator => true
  | _ => false

namespace Finding

def events (fs : List Finding) : List Event :=
  fs.filterMap Finding.event?

def relations (fs : List Finding) : List Relation :=
  fs.filterMap Finding.relation?

def defects (fs : List Finding) : List Defect :=
  fs.filterMap Finding.defect?

@[simp] theorem events_append (fs gs : List Finding) :
    events (fs ++ gs) = events fs ++ events gs :=
  List.filterMap_append

@[simp] theorem relations_append (fs gs : List Finding) :
    relations (fs ++ gs) = relations fs ++ relations gs :=
  List.filterMap_append

@[simp] theorem defects_append (fs gs : List Finding) :
    defects (fs ++ gs) = defects fs ++ defects gs :=
  List.filterMap_append

end Finding

namespace Survey

theorem events_ofLines (lines : List String) :
    (ofLines lines).events = Finding.events (Cursor.start.scan (numbered lines)) :=
  rfl

theorem relations_ofLines (lines : List String) :
    (ofLines lines).relations = Finding.relations (Cursor.start.scan (numbered lines)) :=
  rfl

theorem defects_ofLines (lines : List String) :
    (ofLines lines).defects = Finding.defects (Cursor.start.scan (numbered lines)) :=
  rfl

end Survey

/-- What a line comes to. A field may bring a relation along. -/
inductive Effect
  | nothing
  | opened (kind : EntityKind) (name : String)
  | filled (member : Member) (relation? : Option Relation)
  | related (relation : Relation)
  | reported (entity? : Option String) (reason : DefectReason)
  deriving DecidableEq

namespace Effect

def findings (l : NumberedLine) : Effect → List Finding
  | nothing => []
  | opened kind name => [.event (.opened kind name)]
  | filled m relation? => relation?.toList.map .relation ++ [.event (.member m)]
  | related r => [.relation r]
  | reported entity? reason => [.defect ⟨l.1, Text.trim l.2, entity?, reason⟩]

def event? : Effect → Option Event
  | opened kind name => some (.opened kind name)
  | filled m _ => some (.member m)
  | _ => none

def relation? : Effect → Option Relation
  | filled _ relation? => relation?
  | related r => some r
  | _ => none

def report? : Effect → Option (Option String × DefectReason)
  | reported entity? reason => some (entity?, reason)
  | _ => none

theorem events_findings (l : NumberedLine) (o : Effect) :
    Finding.events (o.findings l) = o.event?.toList := by
  cases o with
  | filled m relation? => cases relation? <;> rfl
  | _ => rfl

theorem relations_findings (l : NumberedLine) (o : Effect) :
    Finding.relations (o.findings l) = o.relation?.toList := by
  cases o with
  | filled m relation? => cases relation? <;> rfl
  | _ => rfl

theorem defects_findings (l : NumberedLine) (o : Effect) :
    Finding.defects (o.findings l) =
      o.report?.toList.map fun r => ⟨l.1, Text.trim l.2, r.1, r.2⟩ := by
  cases o with
  | filled m relation? => cases relation? <;> rfl
  | _ => rfl

end Effect

namespace Cursor

/-- A header opens the entity of its simple name; without one it is reported outside of any
entity. -/
def headerEffect (kind : EntityKind) (name : String) : Effect :=
  if (simpleName name).isEmpty then .reported none .missingEntityName
  else .opened kind (simpleName name)

/-- A superclass line needs an open entity and a name. The root class draws nothing. -/
def parentEffect (c : Cursor) (name : String) : Effect :=
  match c.entity? with
  | none => .reported none .parentOutsideEntity
  | some owner =>
    if name.isEmpty then .reported (some owner) .missingParentName
    else if name = rootClass then .nothing
    else .related ⟨.inheritance, owner, simpleName name⟩

/-- A line of a member section in an entity. -/
def memberEffect (owner text : String) : MemberSection → Effect
  | .interfaces =>
    if (simpleName (stripBullet text)).isEmpty then
      .reported (some owner) .missingInterfaceName
    else .related ⟨.realization, owner, simpleName (stripBullet text)⟩
  | .constructors =>
    match Signature.ofLine? text with
    | some s => .filled (.constructor s) none
    | none => .reported (some owner) .missingConstructor
  | .methods =>
    match Signature.ofLine? text with
    | some s => .filled (.method s) none
    | none => .reported (some owner) .missingMethod
  | .fields =>
    match Field.ofLine? text with
    | some f => .filled (.field f) (f.target?.map fun target => ⟨.composition, owner, target⟩)
    | none => .reported (some owner) .incompleteField

/-- Outside of any section a line is passed over, outside of any entity it is reported. -/
def contentEffect (c : Cursor) (text : String) : Effect :=
  match c.members?, c.entity? with
  | none, _ => .nothing
  | some _, none => .reported none .memberOutsideEntity
  | some members, some owner => memberEffect owner text members

def effect (c : Cursor) (line : String) : Effect :=
  match Record.ofLine line with
  | .header kind name => headerEffect kind name
  | .separator => .nothing
  | .opener _ => .nothing
  | .parent name => c.parentEffect name
  | .content text => if Text.isBlank line then .nothing else c.contentEffect text

/-- What a line of a section may come to in an entity. -/
inductive MemberOutcome (owner text : String) : MemberSection → Effect → Prop
  | interface (named : simpleName (stripBullet text) ≠ "") :
      MemberOutcome owner text .interfaces
        (.related ⟨.realization, owner, simpleName (stripBullet text)⟩)
  | constructor {s : Signature} (accepted : Signature.ofLine? text = some s) :
      MemberOutcome owner text .constructors (.filled (.constructor s) none)
  | method {s : Signature} (accepted : Signature.ofLine? text = some s) :
      MemberOutcome owner text .methods (.filled (.method s) none)
  | field {f : Field} (accepted : Field.ofLine? text = some f) :
      MemberOutcome owner text .fields
        (.filled (.field f) (f.target?.map fun target => ⟨.composition, owner, target⟩))
  | reported {members : MemberSection} {reason : DefectReason}
      (known : reason ∈ [.missingInterfaceName, .missingConstructor, .missingMethod,
        .incompleteField]) :
      MemberOutcome owner text members (.reported (some owner) reason)

theorem memberOutcome (owner text : String) (members : MemberSection) :
    MemberOutcome owner text members (memberEffect owner text members) := by
  cases members with
  | interfaces =>
    unfold memberEffect
    split_ifs with h
    · exact .reported (by decide)
    · exact .interface (by simpa using h)
  | constructors =>
    unfold memberEffect
    cases hs : Signature.ofLine? text with
    | none => exact .reported (by decide)
    | some s => exact .constructor hs
  | methods =>
    unfold memberEffect
    cases hs : Signature.ofLine? text with
    | none => exact .reported (by decide)
    | some s => exact .method hs
  | fields =>
    unfold memberEffect
    cases hf : Field.ofLine? text with
    | none => exact .reported (by decide)
    | some f => exact .field hf

/-- What a line may come to. Unless it is a header, a report names the open entity. -/
inductive Outcome (c : Cursor) (line : String) : Effect → Prop
  | nothing (other : (Record.ofLine line).isHeader = false) : Outcome c line .nothing
  | opened {kind : EntityKind} {name : String} (record : Record.ofLine line = .header kind name)
      (named : simpleName name ≠ "") : Outcome c line (.opened kind (simpleName name))
  | nameless {kind : EntityKind} {name : String} (record : Record.ofLine line = .header kind name)
      (nameless : simpleName name = "") : Outcome c line (.reported none .missingEntityName)
  | parent {owner name : String} (entity : c.entity? = some owner)
      (record : Record.ofLine line = .parent name) (named : name ≠ "") (other : name ≠ rootClass) :
      Outcome c line (.related ⟨.inheritance, owner, simpleName name⟩)
  | member {owner text : String} {members : MemberSection} {e : Effect}
      (entity : c.entity? = some owner) (inSection : c.members? = some members)
      (record : Record.ofLine line = .content text) (inside : MemberOutcome owner text members e) :
      Outcome c line e
  | reported {reason : DefectReason} (other : (Record.ofLine line).isHeader = false)
      (known : reason ∈ [.parentOutsideEntity, .missingParentName, .memberOutsideEntity]) :
      Outcome c line (.reported c.entity? reason)

theorem outcome_parentEffect {c : Cursor} {line name : String}
    (hr : Record.ofLine line = .parent name) : c.Outcome line (c.parentEffect name) := by
  have hother : (Record.ofLine line).isHeader = false := by rw [hr]; rfl
  unfold parentEffect
  cases he : c.entity? with
  | none =>
    have h : c.Outcome line (.reported c.entity? .parentOutsideEntity) :=
      .reported hother (by decide)
    rwa [he] at h
  | some owner =>
    simp only
    split_ifs with hn hroot
    · have h : c.Outcome line (.reported c.entity? .missingParentName) :=
        .reported hother (by decide)
      rwa [he] at h
    · exact .nothing hother
    · exact .parent he hr (by simpa using hn) hroot

theorem outcome_contentEffect {c : Cursor} {line text : String}
    (hr : Record.ofLine line = .content text) : c.Outcome line (c.contentEffect text) := by
  have hother : (Record.ofLine line).isHeader = false := by rw [hr]; rfl
  unfold contentEffect
  cases hm : c.members? with
  | none => exact .nothing hother
  | some members =>
    cases he : c.entity? with
    | none =>
      have h : c.Outcome line (.reported c.entity? .memberOutsideEntity) :=
        .reported hother (by decide)
      rwa [he] at h
    | some owner => exact .member he hm hr (memberOutcome owner text members)

theorem outcome_effect (c : Cursor) (line : String) : c.Outcome line (c.effect line) := by
  unfold effect
  cases hr : Record.ofLine line with
  | header kind name =>
    simp only [headerEffect]
    split_ifs with hn
    · exact .nameless hr (by simpa using hn)
    · exact .opened hr (by simpa using hn)
  | separator => exact .nothing (by rw [hr]; rfl)
  | opener members => exact .nothing (by rw [hr]; rfl)
  | parent name => exact outcome_parentEffect hr
  | content text =>
    simp only
    split_ifs
    · exact .nothing (by rw [hr]; rfl)
    · exact outcome_contentEffect hr

/-- An entity that is open is closed by a header or a separator. -/
def ending (c : Cursor) (line : String) : List Finding :=
  if (Record.ofLine line).isBoundary then c.closing else []

theorem advance_of_isBoundary {line : String} (h : (Record.ofLine line).isBoundary = true)
    (c d : Cursor) : c.advance line = d.advance line := by
  unfold advance
  cases hr : Record.ofLine line with
  | header kind name => rfl
  | separator => rfl
  | _ =>
    rw [hr] at h
    cases h

variable (c : Cursor) (l : NumberedLine)

theorem closing_eq_nil_or : c.closing = [] ∨ c.closing = [.event .closed] := by
  unfold closing
  split
  · exact .inr rfl
  · exact .inl rfl

theorem ending_eq_nil_or (line : String) :
    c.ending line = [] ∨ c.ending line = [.event .closed] := by
  unfold ending
  split_ifs
  · exact c.closing_eq_nil_or
  · exact .inl rfl

@[simp] theorem defects_closing : Finding.defects c.closing = [] := by
  rcases c.closing_eq_nil_or with h | h <;> rw [h] <;> rfl

@[simp] theorem relations_ending (line : String) : Finding.relations (c.ending line) = [] := by
  rcases c.ending_eq_nil_or line with h | h <;> rw [h] <;> rfl

@[simp] theorem defects_ending (line : String) : Finding.defects (c.ending line) = [] := by
  rcases c.ending_eq_nil_or line with h | h <;> rw [h] <;> rfl

theorem parentFindings_eq (name : String) :
    c.parentFindings l name = (c.parentEffect name).findings l := by
  unfold parentFindings parentEffect report
  cases c.entity? with
  | none => rfl
  | some owner =>
    simp only
    split_ifs <;> rfl

theorem memberFindings_eq (owner text : String) (members : MemberSection) :
    contentFindings ⟨some owner, some members⟩ l text =
      (memberEffect owner text members).findings l := by
  cases members with
  | interfaces =>
    simp only [contentFindings, interfaceFindings, memberEffect]
    split_ifs <;> rfl
  | constructors =>
    simp only [contentFindings, memberEffect]
    cases Signature.ofLine? text <;> rfl
  | methods =>
    simp only [contentFindings, memberEffect]
    cases Signature.ofLine? text <;> rfl
  | fields =>
    simp only [contentFindings, fieldFindings, memberEffect]
    cases Field.ofLine? text with
    | none => rfl
    | some f =>
      simp only
      cases f.target? <;> rfl

theorem contentFindings_eq (text : String) :
    c.contentFindings l text = (c.contentEffect text).findings l := by
  obtain ⟨entity?, members?⟩ := c
  cases members? with
  | none => rfl
  | some members =>
    cases entity? with
    | none => cases members <;> rfl
    | some owner => exact memberFindings_eq l owner text members

/-- A line ends what it ends, and then comes to one thing. -/
theorem findings_eq : c.findings l = c.ending l.2 ++ (c.effect l.2).findings l := by
  unfold findings ending effect
  by_cases hb : Text.isBlank l.2 = true
  · simp only [Record.ofLine_of_isBlank hb, hb, if_true]
    rfl
  · rw [if_neg hb]
    cases Record.ofLine l.2 with
    | header kind name =>
      have hbd : (Record.header kind name).isBoundary = true := rfl
      simp only [hbd, if_true, headerEffect]
      split_ifs <;> rfl
    | separator => exact (List.append_nil _).symm
    | opener members => rfl
    | parent name => exact c.parentFindings_eq l name
    | content text =>
      simp only [if_neg hb]
      exact c.contentFindings_eq l text

theorem relations_findings :
    Finding.relations (c.findings l) = (c.effect l.2).relation?.toList := by
  simp [findings_eq, Effect.relations_findings]

theorem defects_findings :
    Finding.defects (c.findings l) =
      (c.effect l.2).report?.toList.map fun r => ⟨l.1, Text.trim l.2, r.1, r.2⟩ := by
  simp [findings_eq, Effect.defects_findings]

end Cursor

end ClassDiagram
