import ClassDiagram.Scan.Finding

/-! # The cursor of a scan

Between two lines a scan knows the open entity and the open member section. `advance` says how a
line moves the cursor and `findings` what it contributes; neither looks at other lines.
-/

namespace ClassDiagram

/-- A line and its number. -/
abbrev NumberedLine := Nat × String

/-- Every class extends this one, so no relation is drawn for it. -/
def rootClass : String :=
  "java.lang.Object"

structure Cursor where
  entity? : Option String
  members? : Option MemberSection
  deriving DecidableEq

namespace Cursor

def start : Cursor :=
  ⟨none, none⟩

def advance (c : Cursor) (line : String) : Cursor :=
  match Record.ofLine line with
  | .header _ name => ⟨if (simpleName name).isEmpty then none else some (simpleName name), none⟩
  | .separator => ⟨none, none⟩
  | .opener members => ⟨c.entity?, some members⟩
  | .parent _ => c
  | .content _ => c

def closing (c : Cursor) : List Finding :=
  match c.entity? with
  | some _ => [.event .closed]
  | none => []

def report (c : Cursor) (l : NumberedLine) (reason : DefectReason) : Finding :=
  .defect ⟨l.1, Text.trim l.2, c.entity?, reason⟩

def parentFindings (c : Cursor) (l : NumberedLine) (name : String) : List Finding :=
  match c.entity? with
  | none => [c.report l .parentOutsideEntity]
  | some owner =>
    if name.isEmpty then [c.report l .missingParentName]
    else if name = rootClass then []
    else [.relation ⟨.inheritance, owner, simpleName name⟩]

def interfaceFindings (c : Cursor) (l : NumberedLine) (owner text : String) : List Finding :=
  if (simpleName (stripBullet text)).isEmpty then [c.report l .missingInterfaceName]
  else [.relation ⟨.realization, owner, simpleName (stripBullet text)⟩]

def fieldFindings (c : Cursor) (l : NumberedLine) (owner text : String) : List Finding :=
  match Field.ofLine? text with
  | none => [c.report l .incompleteField]
  | some f =>
    (f.target?.map fun target => Finding.relation ⟨.composition, owner, target⟩).toList ++
      [.event (.member (.field f))]

def contentFindings (c : Cursor) (l : NumberedLine) (text : String) : List Finding :=
  match c.members?, c.entity? with
  | none, _ => []
  | some _, none => [c.report l .memberOutsideEntity]
  | some .interfaces, some owner => c.interfaceFindings l owner text
  | some .constructors, some _ =>
    match Signature.ofLine? text with
    | none => [c.report l .missingConstructor]
    | some s => [.event (.member (.constructor s))]
  | some .methods, some _ =>
    match Signature.ofLine? text with
    | none => [c.report l .missingMethod]
    | some s => [.event (.member (.method s))]
  | some .fields, some owner => c.fieldFindings l owner text

/-- What a line contributes at this place. A header and a separator close the open entity first. -/
def findings (c : Cursor) (l : NumberedLine) : List Finding :=
  if Text.isBlank l.2 then []
  else
    match Record.ofLine l.2 with
    | .header kind name =>
      c.closing ++
        if (simpleName name).isEmpty then [start.report l .missingEntityName]
        else [.event (.opened kind (simpleName name))]
    | .separator => c.closing
    | .opener _ => []
    | .parent name => c.parentFindings l name
    | .content text => c.contentFindings l text

/-- The findings of the lines from here to the end, where an entity still open is closed. -/
def scan (c : Cursor) : List NumberedLine → List Finding
  | [] => c.closing
  | l :: ls => c.findings l ++ (c.advance l.2).scan ls

def run (c : Cursor) (lines : List String) : Cursor :=
  lines.foldl advance c

theorem advance_of_isBlank {line : String} (h : Text.isBlank line = true) (c : Cursor) :
    c.advance line = c := by
  rw [advance, Record.ofLine, Chars.trim_eq_nil_iff.mpr h]
  rfl

@[simp] theorem run_append (c : Cursor) (xs ys : List String) :
    c.run (xs ++ ys) = (c.run xs).run ys :=
  List.foldl_append

end Cursor

end ClassDiagram
