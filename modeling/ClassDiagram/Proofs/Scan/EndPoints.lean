import ClassDiagram.Proofs.Scan.LineByLine

/-! # The end points of relations

A relation is owned by the entity that is open at its line. Superclasses and interfaces go by their
simple names, in which there is no dot. An interface without a simple name is reported, as is an
entity without one. A superclass is reported only if it has no name at all, so that one whose name
ends in a dot leads to a relation without a target.
-/

namespace ClassDiagram

namespace Chars

theorem dot_notMem_simpleName (cs : List Char) : '.' ∉ simpleName cs := by
  intro h
  have hdot := List.all_eq_true.mp List.all_takeWhile '.' (List.mem_reverse.mp h)
  simp at hdot

theorem simpleName_eq_nil_iff {cs : List Char} :
    simpleName cs = [] ↔ cs = [] ∨ ∃ package, cs = package ++ ['.'] := by
  rcases List.eq_nil_or_concat cs with rfl | ⟨package, c, rfl⟩
  · simp [simpleName]
  · by_cases hc : c = '.'
    · simp [simpleName, hc]
    · simp [simpleName, hc]

end Chars

theorem dot_notMem_simpleName (name : String) : '.' ∉ (simpleName name).toList := by
  rw [simpleName, String.toList_ofList]
  exact Chars.dot_notMem_simpleName name.toList

theorem simpleName_eq_empty_iff {name : String} :
    simpleName name = "" ↔ name = "" ∨ ∃ package, name = package ++ "." := by
  rw [simpleName, ← String.toList_inj, String.toList_ofList, String.toList_empty,
    Chars.simpleName_eq_nil_iff, String.toList_eq_nil_iff]
  refine or_congr_right ⟨?_, ?_⟩
  · rintro ⟨package, h⟩
    exact ⟨String.ofList package, by simpa [← String.toList_inj] using h⟩
  · rintro ⟨package, rfl⟩
    exact ⟨package.toList, String.toList_append⟩

theorem LookBack.ne_empty_of_entity? {before : List String} {e : String}
    (h : LookBack.entity? before = some e) : e ≠ "" := by
  unfold LookBack.entity? at h
  split at h
  · split_ifs at h with hn
    rw [← Option.some.inj h]
    simpa using hn
  · cases h

namespace Cursor

/-- The relations that a line may lead to, each from what it looks at. -/
inductive Relates (c : Cursor) (line : String) : Relation → Prop
  | parent {owner name : String} (entity : c.entity? = some owner)
      (record : Record.ofLine line = .parent name) (named : name ≠ "") (other : name ≠ rootClass) :
      Relates c line ⟨.inheritance, owner, simpleName name⟩
  | interface {owner text : String} (entity : c.entity? = some owner)
      (members : c.members? = some .interfaces) (record : Record.ofLine line = .content text)
      (named : simpleName (stripBullet text) ≠ "") :
      Relates c line ⟨.realization, owner, simpleName (stripBullet text)⟩
  | field {owner text target : String} {f : Field} (entity : c.entity? = some owner)
      (members : c.members? = some .fields) (record : Record.ofLine line = .content text)
      (accepted : Field.ofLine? text = some f) (held : f.target? = some target) :
      Relates c line ⟨.composition, owner, target⟩

variable {c : Cursor} {line : String} {r : Relation}

theorem relates_of_effect (h : (c.effect line).relation? = some r) : c.Relates line r := by
  have ho := c.outcome_effect line
  generalize c.effect line = e at ho h
  cases ho with
  | nothing => cases h
  | opened => cases h
  | nameless => cases h
  | parent entity record named other =>
    cases h
    exact .parent entity record named other
  | member entity inSection record inside =>
    cases inside with
    | interface named =>
      cases h
      exact .interface entity inSection record named
    | constructor => cases h
    | method => cases h
    | field accepted =>
      obtain ⟨target, held, rfl⟩ := Option.map_eq_some_iff.mp h
      exact .field entity inSection record accepted held
    | reported => cases h
  | reported => cases h

theorem Relates.entity (h : c.Relates line r) : c.entity? = some r.owner := by
  cases h <;> assumption

theorem Relates.dot_notMem (h : c.Relates line r) (hk : r.kind ≠ .composition) :
    '.' ∉ r.target.toList := by
  cases h with
  | parent => exact dot_notMem_simpleName _
  | interface => exact dot_notMem_simpleName _
  | field => exact absurd rfl hk

end Cursor

namespace Occurrence

def relations (o : Occurrence) : List Relation :=
  Finding.relations o.findings

/-- The name that a line gives to an entity, to a superclass or to an interface. -/
def named? (o : Occurrence) : Option String :=
  match Record.ofLine o.line with
  | .header _ name => some name
  | .parent name => some name
  | .content text =>
    if o.cursor.members? = some .interfaces ∧ Text.isBlank o.line = false then
      some (stripBullet text)
    else none
  | _ => none

/-- A superclass line of an open entity that gives a package, a dot, and no class. -/
def ExtendsPackage (o : Occurrence) : Prop :=
  o.cursor.entity? ≠ none ∧ ∃ package, Record.ofLine o.line = .parent (package ++ ".")

/-- What the line relates is there at both ends: the owner is the open entity, and superclasses
and interfaces have simple names. A line that gives a name with no simple name is reported and
relates nothing. -/
structure HasEndPoints (o : Occurrence) : Prop where
  owner : ∀ r ∈ o.relations, LookBack.entity? o.before = some r.owner ∧ r.owner ≠ ""
  target : ∀ r ∈ o.relations, r.kind ≠ .composition → r.target ≠ "" ∧ '.' ∉ r.target.toList
  nameless : ∀ name, o.named? = some name → simpleName name = "" →
    o.relations = [] ∧ ∃ d, o.defects = [d]

variable {o : Occurrence}

theorem relations_eq (o : Occurrence) : o.relations = o.effect.relation?.toList :=
  o.cursor.relations_findings o.numbered

theorem relates_of_mem {r : Relation} (h : r ∈ o.relations) : o.cursor.Relates o.line r := by
  rw [relations_eq, Option.mem_toList] at h
  exact Cursor.relates_of_effect h

theorem owner_of_mem {r : Relation} (h : r ∈ o.relations) :
    LookBack.entity? o.before = some r.owner ∧ r.owner ≠ "" := by
  have he : LookBack.entity? o.before = some r.owner := (relates_of_mem h).entity
  exact ⟨he, LookBack.ne_empty_of_entity? he⟩

theorem target_ne_empty {r : Relation} (hp : ¬ o.ExtendsPackage) (h : r ∈ o.relations)
    (hk : r.kind ≠ .composition) : r.target ≠ "" := by
  have hr := relates_of_mem h
  cases hr with
  | parent entity record named =>
    intro hempty
    -- the name was seen not to be empty before its package was taken off
    rcases simpleName_eq_empty_iff.mp hempty with rfl | ⟨package, rfl⟩
    · exact named rfl
    · exact hp ⟨by simp [entity], package, record⟩
  | interface entity members record named => exact named
  | field => exact absurd rfl hk

theorem effect_of_extendsPackage (h : o.ExtendsPackage) :
    ∃ owner, o.effect = .related ⟨.inheritance, owner, ""⟩ := by
  obtain ⟨hentity, package, hrecord⟩ := h
  obtain ⟨owner, howner⟩ := Option.ne_none_iff_exists'.mp hentity
  have hempty : simpleName (package ++ ".") = "" :=
    simpleName_eq_empty_iff.mpr (.inr ⟨package, rfl⟩)
  have hother : package ++ "." ≠ rootClass := by
    intro hroot
    rw [hroot] at hempty
    revert hempty
    decide
  have hnamed : ¬ (package ++ ".").isEmpty = true := by simp
  refine ⟨owner, ?_⟩
  unfold effect Cursor.effect
  simp only [hrecord, Cursor.parentEffect, howner, if_neg hnamed, if_neg hother, hempty]

theorem effect_of_nameless {name : String} (hp : ¬ o.ExtendsPackage) (hn : o.named? = some name)
    (hs : simpleName name = "") : ∃ entity? reason, o.effect = .reported entity? reason := by
  unfold named? at hn
  unfold effect Cursor.effect
  cases hr : Record.ofLine o.line with
  | header kind n =>
    simp only [hr, Option.some.injEq] at hn
    exact ⟨none, .missingEntityName, by simp [Cursor.headerEffect, hn, hs]⟩
  | separator => simp [hr] at hn
  | opener members => simp [hr] at hn
  | parent n =>
    simp only [hr, Option.some.injEq] at hn
    cases he : o.cursor.entity? with
    | none => exact ⟨none, .parentOutsideEntity, by simp [Cursor.parentEffect, he]⟩
    | some owner =>
      rcases simpleName_eq_empty_iff.mp hs with rfl | ⟨package, rfl⟩
      · exact ⟨some owner, .missingParentName, by simp [Cursor.parentEffect, he, hn]⟩
      · exact absurd ⟨by simp [he], package, by rw [hr, hn]⟩ hp
  | content text =>
    simp only [hr] at hn
    split_ifs at hn with hi
    obtain rfl := Option.some.inj hn
    simp only [hi.2, Bool.false_eq_true, if_false, Cursor.contentEffect, hi.1]
    cases he : o.cursor.entity? with
    | none => exact ⟨none, .memberOutsideEntity, rfl⟩
    | some owner => exact ⟨some owner, .missingInterfaceName, by simp [Cursor.memberEffect, hs]⟩

theorem relations_of_reported {entity? : Option String} {reason : DefectReason}
    (h : o.effect = .reported entity? reason) : o.relations = [] ∧ ∃ d, o.defects = [d] := by
  rw [relations_eq, defects_eq, h]
  exact ⟨rfl, _, rfl⟩

/-- A superclass whose name ends in a dot is the one way to a relation without an end. -/
theorem hasEndPoints_iff : o.HasEndPoints ↔ ¬ o.ExtendsPackage := by
  constructor
  · intro h hp
    obtain ⟨owner, he⟩ := effect_of_extendsPackage hp
    have hrel : o.relations = [⟨.inheritance, owner, ""⟩] := by
      rw [relations_eq, he]
      rfl
    exact (h.target ⟨.inheritance, owner, ""⟩ (by simp [hrel]) (by simp)).1 rfl
  · intro hp
    refine ⟨fun r hr => owner_of_mem hr, fun r hr hk => ?_, fun name hn hs => ?_⟩
    · exact ⟨target_ne_empty hp hr hk, (relates_of_mem hr).dot_notMem hk⟩
    · obtain ⟨entity?, reason, he⟩ := effect_of_nameless hp hn hs
      exact relations_of_reported he

end Occurrence

theorem Survey.relations_eq_flatMap (lines : List String) :
    (ofLines lines).relations = (occurrences lines).flatMap Occurrence.relations := by
  rw [relations_eq_lineFindings, lineFindings]
  exact List.filterMap_flatMap

/-- Every relation comes from a line and is owned by the entity that is open there, and no
superclass or interface has a dot in its name. Both end points are there, and what has no name is
reported, exactly at the lines that do not extend a package. A line that does is not reported, and
relates its entity to nothing. -/
theorem relations_have_endPoints (lines : List String) :
    (Survey.ofLines lines).relations = (occurrences lines).flatMap Occurrence.relations ∧
      ∀ o ∈ occurrences lines,
        (∀ r ∈ o.relations, LookBack.entity? o.before = some r.owner ∧ r.owner ≠ "" ∧
          (r.kind ≠ .composition → '.' ∉ r.target.toList)) ∧
        (o.HasEndPoints ↔ ¬ o.ExtendsPackage) ∧
        (o.ExtendsPackage → o.defects = [] ∧
          ∃ owner, o.relations = [⟨.inheritance, owner, ""⟩]) := by
  refine ⟨Survey.relations_eq_flatMap lines, fun o _ => ⟨fun r hr => ?_, o.hasEndPoints_iff, ?_⟩⟩
  · obtain ⟨hentity, hne⟩ := Occurrence.owner_of_mem hr
    exact ⟨hentity, hne, (Occurrence.relates_of_mem hr).dot_notMem⟩
  · intro hp
    obtain ⟨owner, he⟩ := Occurrence.effect_of_extendsPackage hp
    rw [Occurrence.defects_eq, Occurrence.relations_eq, he]
    exact ⟨rfl, owner, rfl⟩

/-- A class that extends a package. -/
theorem not_forall_hasEndPoints :
    ¬ ∀ lines : List String, ∀ o ∈ occurrences lines, o.HasEndPoints := by
  intro h
  have hline := h ["Class: A", "Extends: b."] ⟨["Class: A"], "Extends: b."⟩
    (by simp [occurrences, occurrencesFrom])
  exact Occurrence.hasEndPoints_iff.mp hline ⟨by decide, "b", by decide⟩

end ClassDiagram
