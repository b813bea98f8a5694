import ClassDiagram.Text.GraphemeExtend
import ClassDiagram.Text.Unprintable

/-! # Quoted text

A text between double quotes in which every character can be seen. The quote, the backslash and
four controls have short escapes; other characters without a mark of their own are written by
their code point in hexadecimal.
-/

namespace ClassDiagram

/-- Characters that a quoted text shows by their code point. The half-width voicing marks have a
width of their own and stay, while the four Hangul fillers are letters that cannot be seen. -/
def isHidden (c : Char) : Bool :=
  isUnprintable c || (isGraphemeExtend c && c != '\uFF9E' && c != '\uFF9F') ||
    c ∈ ['\u115F', '\u1160', '\u3164', '\uFFA0']

namespace Chars

def hexadecimal (n : Nat) : List Char :=
  Nat.toDigits 16 n

def escape (c : Char) : List Char :=
  match c with
  | '\x00' => ['\\', '0']
  | '\t' => ['\\', 't']
  | '\n' => ['\\', 'n']
  | '\r' => ['\\', 'r']
  | '"' => ['\\', '"']
  | '\\' => ['\\', '\\']
  | c => if isHidden c then ['\\', 'u', '\x7b'] ++ hexadecimal c.toNat ++ ['\x7d'] else [c]

def quote (cs : List Char) : List Char :=
  '"' :: cs.flatMap escape ++ ['"']

end Chars

namespace Text

def quote (s : String) : String :=
  String.ofList (Chars.quote s.toList)

end Text

end ClassDiagram
