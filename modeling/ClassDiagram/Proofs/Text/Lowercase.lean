import Mathlib.Tactic.SplitIfs
import ClassDiagram.Text.Lowercase

/-! # Lower case of lower case

The lower case form of a character is made of characters that are no capitals, and those stay as
they are wherever they stand. So lower-casing a second time changes nothing. Capitals and lower
case forms fill intervals, and those of the one kind keep clear of those of the other.
-/

namespace ClassDiagram

namespace CodePoint

/-- The capitals that the tables leave out: those of ASCII, and the two with rules of their own. -/
def otherCapitals : List Interval :=
  [(0x41, 0x5A), (0x130, 0x130), (0x3A3, 0x3A3)]

/-- Intervals of capitals without a gap. -/
def capitalIntervals : List Interval :=
  otherCapitals ++ lowercaseShifts.map fun s => (s.1, s.2.1)

/-- Intervals that lower case forms fall into. The mark says that they take up no more than every
second code point from the first one on. -/
def lowercaseImages : List (Bool × Interval) :=
  lowercaseShifts.map (fun s => (s.1 == s.2.1, s.2.2, s.2.2 + (s.2.1 - s.1))) ++
    lowercaseAlternating.map fun i => (true, i.1 + 1, i.2 + 1)

/-- No capital of either kind. -/
structure IsLowercase (n : Nat) : Prop where
  clear : within capitalIntervals n = false
  still : alternates lowercaseAlternating n = false

instance (n : Nat) : Decidable (IsLowercase n) :=
  decidable_of_iff (within capitalIntervals n = false ∧ alternates lowercaseAlternating n = false)
    ⟨fun h => ⟨h.1, h.2⟩, fun h => ⟨h.clear, h.still⟩⟩

@[simp] theorem within_append (is js : List Interval) (n : Nat) :
    within (is ++ js) n = (within is n || within js n) :=
  List.any_append

theorem alternates_iff {is : List Interval} {n : Nat} :
    alternates is n = true ↔ ∃ i ∈ is, (i.1 ≤ n ∧ n ≤ i.2) ∧ (n - i.1) % 2 = 0 := by
  simp [alternates]

def apart (i j : Interval) : Bool :=
  Nat.blt i.2 j.1 || Nat.blt j.2 i.1

/-- No lower case form is a capital: the intervals are apart, or the one takes up just the code
points that the other leaves out. -/
theorem lowercaseImages_apart :
    lowercaseImages.all (fun i => capitalIntervals.all (apart i.2) &&
      lowercaseAlternating.all fun j => apart i.2 j || i.1 && (i.2.1 + j.1) % 2 == 1) = true := by
  decide +kernel

theorem apart_iff {i j : Interval} : apart i j = true ↔ i.2 < j.1 ∨ j.2 < i.1 := by
  simp [apart]

variable {n : Nat}

theorem isLowercase_of_mem {i : Bool × Interval} (hi : i ∈ lowercaseImages)
    (hn : i.2.1 ≤ n ∧ n ≤ i.2.2) (hsecond : i.1 = true → (n - i.2.1) % 2 = 0) :
    IsLowercase n := by
  have happart := List.all_eq_true.mp lowercaseImages_apart i hi
  simp only [Bool.and_eq_true, List.all_eq_true, Bool.or_eq_true, apart_iff, beq_iff_eq] at happart
  obtain ⟨hcapitals, halternating⟩ := happart
  constructor
  · rw [Bool.eq_false_iff, Ne, within_iff]
    rintro ⟨j, hj, hjn⟩
    have hapart := hcapitals j hj
    omega
  · rw [Bool.eq_false_iff, Ne, alternates_iff]
    rintro ⟨j, hj, hjn, heven⟩
    rcases halternating j hj with hapart | ⟨hmark, hodd⟩
    · omega
    · have hin := hsecond hmark
      omega

theorem find?_lowercaseShifts_eq_none_iff :
    lowercaseShifts.find? (fun s => s.1 ≤ n && n ≤ s.2.1) = none ↔
      within (lowercaseShifts.map fun s => (s.1, s.2.1)) n = false := by
  rw [List.find?_eq_none, Bool.eq_false_iff, Ne, within_iff]
  simp

theorem IsLowercase.lowercase_eq (h : IsLowercase n) : lowercase n = n := by
  have hclear := h.clear
  rw [capitalIntervals, within_append, Bool.or_eq_false_iff] at hclear
  rw [lowercase, find?_lowercaseShifts_eq_none_iff.mpr hclear.2]
  simp [h.still]

theorem isLowercase_lowercase (h : within otherCapitals n = false) :
    IsLowercase (lowercase n) := by
  unfold lowercase
  split
  · rename_i s hs
    have hn := List.find?_some hs
    rw [Bool.and_eq_true, decide_eq_true_eq, decide_eq_true_eq] at hn
    refine isLowercase_of_mem
      (List.mem_append_left _ (List.mem_map_of_mem (List.mem_of_find?_eq_some hs))) ?_ ?_
    · simp only
      omega
    · simp only [beq_iff_eq]
      omega
  · rename_i hs
    split_ifs with ha
    · obtain ⟨i, hi, hn, heven⟩ := alternates_iff.mp ha
      refine isLowercase_of_mem (List.mem_append_right _ (List.mem_map_of_mem hi)) ?_ ?_
      · simp only
        omega
      · simp only
        omega
    · have hclear : within capitalIntervals n = false := by
        rw [capitalIntervals, within_append, h, find?_lowercaseShifts_eq_none_iff.mp hs]
        rfl
      exact ⟨hclear, Bool.eq_false_iff.mpr ha⟩

theorem isLowercase_of_lt (hn : n < 128) (h : within otherCapitals n = false) :
    IsLowercase n := by
  have hbehind : (lowercaseShifts.map (fun s => (s.1, s.2.1)) ++ lowercaseAlternating).all
      (fun i => Nat.ble 128 i.1) = true := by
    decide +kernel
  simp only [List.all_eq_true, Nat.ble_eq] at hbehind
  constructor
  · rw [capitalIntervals, within_append, h, Bool.false_or, Bool.eq_false_iff, Ne, within_iff]
    rintro ⟨i, hi, hin⟩
    have := hbehind i (List.mem_append_left _ hi)
    omega
  · rw [Bool.eq_false_iff, Ne, alternates_iff]
    rintro ⟨i, hi, hin, -⟩
    have := hbehind i (List.mem_append_right _ hi)
    omega

theorem toLower_ascii : ∀ n < 128, (Char.ofNat n).toLower.toNat < 128 ∧
    within otherCapitals (Char.ofNat n).toLower.toNat = false ∧
    (within otherCapitals n = false → (Char.ofNat n).toLower = Char.ofNat n) := by
  decide +kernel

theorem isLowercase_of_other : ∀ n ∈ [0x69, 0x307, 0x3C2, 0x3C3], IsLowercase n := by
  decide +kernel

end CodePoint

open CodePoint

namespace Chars

variable {c d : Char}

theorem lowerChar_of_isLowercase (h : IsLowercase c.toNat) : lowerChar c = c := by
  unfold lowerChar
  split_ifs with hascii
  · have hclear := h.clear
    rw [capitalIntervals, within_append, Bool.or_eq_false_iff] at hclear
    obtain ⟨-, -, hsame⟩ := toLower_ascii c.toNat (of_decide_eq_true hascii)
    rw [Char.ofNat_toNat] at hsame
    exact hsame hclear.1
  · rw [h.lowercase_eq, Char.ofNat_toNat]

theorem lowerAt_of_isLowercase (h : IsLowercase c.toNat) (before after : List Char) :
    lowerAt before c after = [c] := by
  have hdotted : c ≠ 'İ' := by
    rintro rfl
    revert h
    decide +kernel
  have hsigma : c ≠ 'Σ' := by
    rintro rfl
    revert h
    decide +kernel
  rw [lowerAt, if_neg hdotted, if_neg hsigma, lowerChar_of_isLowercase h]

theorem isLowercase_lowerChar (hdotted : c ≠ 'İ') (hsigma : c ≠ 'Σ') :
    IsLowercase (lowerChar c).toNat := by
  unfold lowerChar
  split_ifs with hascii
  · obtain ⟨hlt, hclear, -⟩ := toLower_ascii c.toNat (of_decide_eq_true hascii)
    rw [Char.ofNat_toNat] at hlt hclear
    exact isLowercase_of_lt hlt hclear
  · have hother : within otherCapitals c.toNat = false := by
      have hdot : c.toNat ≠ 0x130 := fun h => hdotted (Char.toNat_inj.mp h)
      have hsig : c.toNat ≠ 0x3A3 := fun h => hsigma (Char.toNat_inj.mp h)
      have hlarge : 128 ≤ c.toNat := by simpa [isAscii] using hascii
      rw [Bool.eq_false_iff, Ne, within_iff]
      simp only [otherCapitals, List.mem_cons, List.not_mem_nil, or_false]
      rintro ⟨i, rfl | rfl | rfl, hi⟩ <;> simp only at hi <;> omega
    have hform := isLowercase_lowercase hother
    by_cases hvalid : (lowercase c.toNat).isValidChar
    · rwa [Char.ofNat, dif_pos hvalid]
    · rw [Char.ofNat, dif_neg hvalid]
      exact isLowercase_of_lt (n := 0) (by decide) rfl

theorem isLowercase_of_mem_lowerAt {before after : List Char} (h : d ∈ lowerAt before c after) :
    IsLowercase d.toNat := by
  unfold lowerAt at h
  split_ifs at h with hdotted hsigma hfinal
  · obtain rfl | rfl : d = 'i' ∨ d = '\u0307' := by simpa using h
    · exact isLowercase_of_other 0x69 (by decide)
    · exact isLowercase_of_other 0x307 (by decide)
  · obtain rfl := List.mem_singleton.mp h
    exact isLowercase_of_other 0x3C2 (by decide)
  · obtain rfl := List.mem_singleton.mp h
    exact isLowercase_of_other 0x3C3 (by decide)
  · rw [List.mem_singleton.mp h]
    exact isLowercase_lowerChar hdotted hsigma

theorem isLowercase_of_mem_lowerFrom {before cs : List Char} (h : d ∈ lowerFrom before cs) :
    IsLowercase d.toNat := by
  induction cs generalizing before with
  | nil => cases h
  | cons c cs ih =>
    rcases List.mem_append.mp h with hc | hcs
    · exact isLowercase_of_mem_lowerAt hc
    · exact ih hcs

theorem lowerFrom_of_isLowercase {cs : List Char} (h : ∀ c ∈ cs, IsLowercase c.toNat)
    (before : List Char) : lowerFrom before cs = cs := by
  induction cs generalizing before with
  | nil => rfl
  | cons c cs ih =>
    rw [List.forall_mem_cons] at h
    rw [lowerFrom, lowerAt_of_isLowercase h.1, ih h.2]
    rfl

@[simp] theorem lower_lower (cs : List Char) : lower (lower cs) = lower cs :=
  lowerFrom_of_isLowercase (fun _ h => isLowercase_of_mem_lowerFrom h) []

end Chars

/-- A text in lower case is its own lower case. -/
@[simp] theorem Text.lower_lower (s : String) : lower (lower s) = lower s := by
  rw [lower, lower, String.toList_ofList, Chars.lower_lower]

end ClassDiagram
