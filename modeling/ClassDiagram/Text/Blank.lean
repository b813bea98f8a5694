/-! # Character classes and blank characters

A character class of the Unicode standard is a list of intervals of code points.
An alternating interval holds every second code point, as letters do that come in pairs of an
upper and a lower case form.

The first such class is white space. A text without it is trimmed at either end, or cut into its
words.
-/

namespace ClassDiagram

namespace CodePoint

/-- The code points from the first number to the second, both included. -/
abbrev Interval := Nat × Nat

def within (is : List Interval) (n : Nat) : Bool :=
  is.any fun i => i.1 ≤ n && n ≤ i.2

/-- Some interval holds the code point, with an even number of others before it. -/
def alternates (is : List Interval) (n : Nat) : Bool :=
  is.any fun i => i.1 ≤ n && n ≤ i.2 && (n - i.1) % 2 == 0

def isAscii (c : Char) : Bool :=
  c.toNat < 128

theorem within_iff {is : List Interval} {n : Nat} :
    within is n = true ↔ ∃ i ∈ is, i.1 ≤ n ∧ n ≤ i.2 := by
  simp [within]

end CodePoint

/-- A character with the Unicode property `White_Space`. -/
def isBlank (c : Char) : Bool :=
  CodePoint.within [(0x09, 0x0D), (0x20, 0x20), (0x85, 0x85), (0xA0, 0xA0), (0x1680, 0x1680),
    (0x2000, 0x200A), (0x2028, 0x2029), (0x202F, 0x202F), (0x205F, 0x205F),
    (0x3000, 0x3000)] c.toNat

namespace Chars

def trimStart (cs : List Char) : List Char :=
  cs.dropWhile isBlank

def trimEnd (cs : List Char) : List Char :=
  cs.foldr (fun c rest => if rest.isEmpty && isBlank c then [] else c :: rest) []

def trim (cs : List Char) : List Char :=
  trimEnd (trimStart cs)

/-- Puts a character in front of the first piece. -/
def extendFirst (c : Char) : List (List Char) → List (List Char)
  | [] => [[c]]
  | w :: ws => (c :: w) :: ws

/-- The pieces between the characters of the class, empty ones included. -/
def splitWhere (p : Char → Bool) (cs : List Char) : List (List Char) :=
  cs.foldr (fun c pieces => if p c then [] :: pieces else extendFirst c pieces) [[]]

def words (cs : List Char) : List (List Char) :=
  (splitWhere isBlank cs).filter fun w => !w.isEmpty

theorem trimEnd_cons (c : Char) (cs : List Char) :
    trimEnd (c :: cs) = if (trimEnd cs).isEmpty && isBlank c then [] else c :: trimEnd cs :=
  rfl

theorem splitWhere_cons (p : Char → Bool) (c : Char) (cs : List Char) :
    splitWhere p (c :: cs) =
      if p c then [] :: splitWhere p cs else extendFirst c (splitWhere p cs) :=
  rfl

theorem trimEnd_eq_nil_iff {cs : List Char} : trimEnd cs = [] ↔ cs.all isBlank = true := by
  induction cs with
  | nil => simp [trimEnd]
  | cons c cs ih =>
    rw [trimEnd_cons]
    split
    · rename_i h
      rw [Bool.and_eq_true, List.isEmpty_iff] at h
      simp [ih.mp h.1, h.2]
    · rename_i h
      rw [Bool.and_eq_true, List.isEmpty_iff, ih] at h
      rw [List.all_cons, Bool.and_eq_true]
      exact ⟨fun hn => absurd hn (List.cons_ne_nil _ _), fun hb => absurd ⟨hb.2, hb.1⟩ h⟩

theorem trimStart_eq_nil_iff {cs : List Char} : trimStart cs = [] ↔ cs.all isBlank = true := by
  induction cs with
  | nil => simp [trimStart]
  | cons c cs ih =>
    rw [trimStart] at ih ⊢
    by_cases h : isBlank c = true
    · rw [List.dropWhile_cons_of_pos h, ih, List.all_cons, h, Bool.true_and]
    · rw [List.dropWhile_cons_of_neg h, List.all_cons, Bool.and_eq_true]
      exact ⟨fun hn => absurd hn (List.cons_ne_nil _ _), fun hb => absurd hb.1 h⟩

theorem trim_eq_nil_iff {cs : List Char} : trim cs = [] ↔ cs.all isBlank = true := by
  rw [trim, trimEnd_eq_nil_iff]
  constructor
  · intro h
    have := List.takeWhile_append_dropWhile (p := isBlank) (l := cs)
    rw [← this, List.all_append, Bool.and_eq_true]
    exact ⟨List.all_takeWhile, h⟩
  · intro h
    rw [trimStart_eq_nil_iff.mpr h]
    rfl

end Chars

namespace Text

def trim (s : String) : String :=
  String.ofList (Chars.trim s.toList)

def isBlank (s : String) : Bool :=
  s.toList.all ClassDiagram.isBlank

/-- The longest runs of characters that are not blank, in order. -/
def words (s : String) : List String :=
  (Chars.words s.toList).map String.ofList

def unwords (ws : List String) : String :=
  " ".intercalate ws

end Text

end ClassDiagram
