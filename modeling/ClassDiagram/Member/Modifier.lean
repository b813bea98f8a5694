import ClassDiagram.Text.Blank

/-! # Modifiers

The words that may stand in front of a member. The first access keyword among them says who sees
the member; the others are kept as they come.
-/

namespace ClassDiagram

inductive Visibility
  | pub
  | priv
  | prot
  | package
  deriving DecidableEq

namespace Visibility

/-- The visibility that a keyword grants; a package-wide one has no keyword. -/
def ofKeyword? : String → Option Visibility
  | "public" => some pub
  | "private" => some priv
  | "protected" => some prot
  | _ => none

def glyph : Visibility → Char
  | pub => '+'
  | priv => '-'
  | prot => '#'
  | package => '~'

end Visibility

inductive Modifier
  | pub
  | priv
  | prot
  | static
  | final
  | abstract
  | synchronized
  | native
  | transient
  | volatile
  | strictfp
  | default
  | sealed
  | nonSealed
  deriving DecidableEq

namespace Modifier

def all : List Modifier :=
  [pub, priv, prot, static, final, abstract, synchronized, native, transient, volatile, strictfp,
    default, sealed, nonSealed]

def keyword : Modifier → String
  | pub => "public"
  | priv => "private"
  | prot => "protected"
  | static => "static"
  | final => "final"
  | abstract => "abstract"
  | synchronized => "synchronized"
  | native => "native"
  | transient => "transient"
  | volatile => "volatile"
  | strictfp => "strictfp"
  | default => "default"
  | sealed => "sealed"
  | nonSealed => "non-sealed"

def ofKeyword? (w : String) : Option Modifier :=
  all.find? (·.keyword == w)

def visibility? (m : Modifier) : Option Visibility :=
  Visibility.ofKeyword? m.keyword

theorem ofKeyword?_keyword (m : Modifier) : ofKeyword? m.keyword = some m := by
  cases m <;> decide

theorem keyword_of_ofKeyword? {w : String} {m : Modifier} (h : ofKeyword? w = some m) :
    m.keyword = w := by
  simpa using List.find?_some h

/-- The modifiers at the front of a list of words, and the words after them. -/
def leading : List String → List Modifier × List String
  | [] => ([], [])
  | w :: ws =>
    match ofKeyword? w with
    | some m => (m :: (leading ws).1, (leading ws).2)
    | none => ([], w :: ws)

end Modifier

/-- Visibility of a member and its modifiers besides. -/
structure Qualifiers where
  visibility : Visibility
  modifiers : List Modifier
  deriving DecidableEq

namespace Qualifiers

def ofModifiers : List Modifier → Qualifiers
  | [] => ⟨.package, []⟩
  | m :: ms =>
    match m.visibility? with
    | some v => ⟨v, ms⟩
    | none => ⟨(ofModifiers ms).visibility, m :: (ofModifiers ms).modifiers⟩

/-- The words a diagram shows for the qualifiers. A marker stands in for `abstract`, if the
notation has one. -/
def words (marker? : Option String) (q : Qualifiers) : List String :=
  String.singleton q.visibility.glyph :: q.modifiers.map fun
    | .abstract => marker?.getD Modifier.abstract.keyword
    | m => m.keyword

end Qualifiers

end ClassDiagram
