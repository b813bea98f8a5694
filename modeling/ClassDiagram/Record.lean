import ClassDiagram.Text.Blank

/-! # Records

A record stream describes classes line by line: a header names an entity, labels open its member
sections, and a line of dashes ends it. Every line is read on its own; blanks around it do not
count.
-/

namespace ClassDiagram

inductive EntityKind
  | classType
  | interfaceType
  | annotationType
  deriving DecidableEq

namespace EntityKind

def all : List EntityKind :=
  [classType, interfaceType, annotationType]

def keyword : EntityKind → String
  | classType => "class"
  | interfaceType => "interface"
  | annotationType => "annotation"

def label : EntityKind → String
  | classType => "Class:"
  | interfaceType => "Interface:"
  | annotationType => "Annotation:"

end EntityKind

inductive MemberSection
  | interfaces
  | constructors
  | methods
  | fields
  deriving DecidableEq

namespace MemberSection

def all : List MemberSection :=
  [interfaces, constructors, methods, fields]

def label : MemberSection → String
  | interfaces => "Implements:"
  | constructors => "Constructors:"
  | methods => "Methods:"
  | fields => "Fields:"

end MemberSection

def parentLabel : String :=
  "Extends:"

/-- What one line of a stream says. Names are qualified and may be empty. -/
inductive Record
  | header (kind : EntityKind) (name : String)
  | parent (name : String)
  | opener (members : MemberSection)
  | separator
  | content (text : String)
  deriving DecidableEq

namespace Chars

/-- The text after a label, if the line begins with it. -/
def after? (label : String) (cs : List Char) : Option (List Char) :=
  label.toList.isPrefixOf? cs

def isDashes (cs : List Char) : Bool :=
  4 ≤ cs.length && cs.all (· == '-')

def simpleName (cs : List Char) : List Char :=
  (cs.reverse.takeWhile (· != '.')).reverse

def stripBullet (cs : List Char) : List Char :=
  match trim cs with
  | '-' :: rest => trimStart rest
  | cs => cs

end Chars

/-- At least four dashes and nothing else. -/
def isSeparator (line : String) : Bool :=
  Chars.isDashes (Chars.trim line.toList)

/-- A name without its package: what follows the last dot. -/
def simpleName (name : String) : String :=
  String.ofList (Chars.simpleName name.toList)

/-- A content line without the dash in front of it. -/
def stripBullet (line : String) : String :=
  String.ofList (Chars.stripBullet line.toList)

namespace Record

def header? (cs : List Char) : Option Record :=
  EntityKind.all.findSome? fun k =>
    (Chars.after? k.label cs).map fun rest => header k (String.ofList (Chars.trim rest))

def parent? (cs : List Char) : Option Record :=
  (Chars.after? parentLabel cs).map fun rest => parent (String.ofList (Chars.trim rest))

def opener? (cs : List Char) : Option Record :=
  MemberSection.all.findSome? fun s => (Chars.after? s.label cs).map fun _ => opener s

def separator? (cs : List Char) : Option Record :=
  if Chars.isDashes cs then some separator else none

def ofTrimmed (cs : List Char) : Record :=
  (header? cs <|> parent? cs <|> opener? cs <|> separator? cs).getD (content (String.ofList cs))

def ofLine (line : String) : Record :=
  ofTrimmed (Chars.trim line.toList)

def isHeader : Record → Bool
  | header _ _ => true
  | _ => false

end Record

end ClassDiagram
