import Mathlib.Data.List.DropRight
import Mathlib.Tactic.SplitIfs
import ClassDiagram.Record
import ClassDiagram.Text.Lines

/-! # Trimmed texts

Trimming drops the blanks at either end, so that trimming again changes nothing and a blank at the
end, such as a carriage return, makes no difference. A record is read off its trimmed line.
-/

namespace ClassDiagram

namespace Chars

theorem trimEnd_append_singleton (cs : List Char) (c : Char) :
    trimEnd (cs ++ [c]) = if isBlank c then trimEnd cs else cs ++ [c] := by
  induction cs with
  | nil =>
    rw [List.nil_append, trimEnd_cons]
    split_ifs <;> simp_all [trimEnd]
  | cons d ds ih =>
    rw [List.cons_append, trimEnd_cons, ih, trimEnd_cons]
    by_cases h : isBlank c = true
    · rw [if_pos h, if_pos h]
    · rw [if_neg h, if_neg h]
      simp

theorem trimEnd_eq_rdropWhile (cs : List Char) : trimEnd cs = cs.rdropWhile isBlank := by
  induction cs using List.reverseRecOn with
  | nil => rfl
  | append_singleton cs c ih => rw [trimEnd_append_singleton, List.rdropWhile_concat, ih]

theorem trim_eq (cs : List Char) : trim cs = (cs.dropWhile isBlank).rdropWhile isBlank :=
  trimEnd_eq_rdropWhile _

theorem dropWhile_trim (cs : List Char) : (trim cs).dropWhile isBlank = trim cs := by
  rw [trim_eq, List.dropWhile_eq_self_iff]
  intro hl
  have hfront := List.dropWhile_eq_self_iff.mp (List.dropWhile_idempotent isBlank cs)
  have hfirst := List.rdropWhile_prefix isBlank (cs.dropWhile isBlank)
  rw [hfirst.getElem hl]
  exact hfront (hl.trans_le hfirst.length_le)

@[simp] theorem trim_trim (cs : List Char) : trim (trim cs) = trim cs := by
  rw [trim_eq (trim cs), dropWhile_trim, trim_eq, List.rdropWhile_idempotent]

theorem trim_isInfix (cs : List Char) : trim cs <:+: cs := by
  rw [trim_eq]
  exact (List.rdropWhile_prefix _ _).isInfix.trans (List.dropWhile_suffix _).isInfix

theorem isBlank_of_getLast?_trim {cs : List Char} {c : Char} (h : (trim cs).getLast? = some c) :
    isBlank c = false := by
  rw [trim_eq] at h
  have hne : (cs.dropWhile isBlank).rdropWhile isBlank ≠ [] := by
    intro hnil
    rw [hnil] at h
    cases h
  rw [List.getLast?_eq_some_getLast hne] at h
  rw [← Option.some.inj h]
  exact Bool.eq_false_iff.mpr (List.rdropWhile_last_not isBlank _ hne)

theorem trim_append_singleton {c : Char} (h : isBlank c = true) (cs : List Char) :
    trim (cs ++ [c]) = trim cs := by
  rw [trim_eq, trim_eq, List.dropWhile_append]
  split_ifs with hempty
  · rw [List.isEmpty_iff.mp hempty, List.dropWhile_cons_of_pos h]
    rfl
  · exact List.rdropWhile_concat_pos isBlank _ c h

theorem stripBullet_isInfix (cs : List Char) : stripBullet cs <:+: cs := by
  unfold stripBullet
  split
  · rename_i rest h
    have hrest : rest <:+: trim cs := by
      rw [h]
      exact (List.suffix_cons _ rest).isInfix
    exact ((List.dropWhile_suffix _).isInfix.trans hrest).trans (trim_isInfix cs)
  · exact trim_isInfix cs

theorem simpleName_isSuffix (cs : List Char) : simpleName cs <:+ cs := by
  have h := (List.takeWhile_prefix (l := cs.reverse) (· != '.')).reverse
  rwa [List.reverse_reverse] at h

theorem trim_dropCarriageReturn (cs : List Char) : trim (dropCarriageReturn cs) = trim cs := by
  unfold dropCarriageReturn
  split_ifs with h
  · obtain ⟨rest, rfl⟩ := List.getLast?_eq_some_iff.mp h
    rw [List.dropLast_concat, trim_append_singleton (by decide)]
  · rfl

end Chars

namespace Text

theorem toList_trim (s : String) : (trim s).toList = Chars.trim s.toList :=
  String.toList_ofList

@[simp] theorem trim_trim (s : String) : trim (trim s) = trim s := by
  rw [trim, toList_trim, Chars.trim_trim, trim]

@[simp] theorem isBlank_trim (s : String) : isBlank (trim s) = isBlank s := by
  rw [Bool.eq_iff_iff, isBlank, isBlank, ← Chars.trim_eq_nil_iff, ← Chars.trim_eq_nil_iff,
    toList_trim, Chars.trim_trim]

end Text

@[simp] theorem Record.ofLine_trim (line : String) : ofLine (Text.trim line) = ofLine line := by
  rw [ofLine, Text.toList_trim, Chars.trim_trim, ofLine]

theorem Record.ofLine_of_isBlank {line : String} (h : Text.isBlank line = true) :
    ofLine line = .content "" := by
  rw [ofLine, Chars.trim_eq_nil_iff.mpr h]
  rfl

end ClassDiagram
