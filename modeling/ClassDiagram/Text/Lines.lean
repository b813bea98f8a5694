import ClassDiagram.Text.Blank

/-! # Lines of a text

A line ends at a line feed, and one carriage return just before it belongs to the end of the line.
What follows the last line feed is a line unless it is empty.
-/

namespace ClassDiagram

namespace Chars

def dropCarriageReturn (cs : List Char) : List Char :=
  if cs.getLast? = some '\r' then cs.dropLast else cs

/-- Lines from the pieces between line feeds: all pieces but the last have been ended by one. -/
def closeLines (pieces : List (List Char)) : List (List Char) :=
  pieces.dropLast.map dropCarriageReturn ++ pieces.getLast?.toList.filter fun l => !l.isEmpty

def lines (cs : List Char) : List (List Char) :=
  closeLines (splitWhere (· == '\n') cs)

end Chars

namespace Text

def lines (s : String) : List String :=
  (Chars.lines s.toList).map String.ofList

def unlines (ls : List String) : String :=
  "\n".intercalate ls

def endsInLineFeed (s : String) : Bool :=
  s.toList.getLast? == some '\n'

/-- The text as a file holds it: every line ended, and nothing for the empty text. -/
def terminated (s : String) : String :=
  if s.isEmpty || endsInLineFeed s then s else s ++ "\n"

end Text

end ClassDiagram
