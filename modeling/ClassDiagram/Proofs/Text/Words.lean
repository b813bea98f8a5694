import Mathlib.Data.List.Basic
import ClassDiagram.Text.Blank

/-! # Words

A text is cut into pieces that keep none of the characters it is cut at. The words of a line are
the pieces between its blanks, so what is put together of words has spaces for its only blanks,
and every other character of it stands in the line.
-/

namespace ClassDiagram

namespace Chars

variable {p : Char → Bool} {c : Char} {cs w : List Char}

theorem of_mem_splitWhere (hw : w ∈ splitWhere p cs) (hc : c ∈ w) : c ∈ cs ∧ p c = false := by
  induction cs generalizing w with
  | nil =>
    obtain rfl : w = [] := List.mem_singleton.mp hw
    cases hc
  | cons d cs ih =>
    have hrest {v : List Char} (hv : v ∈ splitWhere p cs) (h : c ∈ v) :
        c ∈ d :: cs ∧ p c = false :=
      ⟨List.mem_cons_of_mem d (ih hv h).1, (ih hv h).2⟩
    rw [splitWhere_cons] at hw
    split at hw
    · rcases List.mem_cons.mp hw with rfl | hw
      · cases hc
      · exact hrest hw hc
    · rename_i hd
      have hfirst : d ∈ d :: cs ∧ p d = false := ⟨List.mem_cons_self, Bool.eq_false_iff.mpr hd⟩
      -- the first piece has the character in front
      cases hps : splitWhere p cs with
      | nil =>
        rw [hps] at hw
        obtain rfl : w = [d] := List.mem_singleton.mp hw
        rwa [List.mem_singleton.mp hc]
      | cons v vs =>
        rw [hps] at hw
        rcases List.mem_cons.mp hw with rfl | hw
        · rcases List.mem_cons.mp hc with rfl | hc
          · exact hfirst
          · exact hrest (by simp [hps]) hc
        · exact hrest (by simp [hps, hw]) hc

theorem of_mem_words (hw : w ∈ words cs) (hc : c ∈ w) : c ∈ cs ∧ isBlank c = false :=
  of_mem_splitWhere (List.mem_filter.mp hw).1 hc

end Chars

namespace Text

/-- The text has no blanks but spaces. -/
def IsSpaced (s : String) : Prop :=
  ∀ c ∈ s.toList, c = ' ' ∨ ClassDiagram.isBlank c = false

instance (s : String) : Decidable (IsSpaced s) :=
  List.decidableBAll (fun c => c = ' ' ∨ ClassDiagram.isBlank c = false) s.toList

/-- The text has no characters but spaces and those of the words of the line. -/
def IsOfWords (line s : String) : Prop :=
  ∀ c ∈ s.toList, c = ' ' ∨ c ∈ line.toList ∧ ClassDiagram.isBlank c = false

variable {line s t w : String} {ws : List String} {c : Char}

theorem IsOfWords.isSpaced (h : IsOfWords line s) : IsSpaced s :=
  fun c hc => (h c hc).imp_right And.right

theorem isOfWords_of_mem_words (h : w ∈ words line) : IsOfWords line w := by
  intro c hc
  obtain ⟨v, hv, rfl⟩ := List.mem_map.mp h
  rw [String.toList_ofList] at hc
  exact .inr (Chars.of_mem_words hv hc)

theorem unwords_cons_cons (v w : String) (ws : List String) :
    unwords (v :: w :: ws) = v ++ " " ++ unwords (w :: ws) :=
  String.intercalate_cons_cons

theorem mem_intercalate {sep : String} (h : c ∈ (sep.intercalate ws).toList) :
    c ∈ sep.toList ∨ ∃ w ∈ ws, c ∈ w.toList := by
  induction ws with
  | nil => cases h
  | cons w ws ih =>
    cases ws with
    | nil =>
      rw [String.intercalate_singleton] at h
      exact .inr ⟨w, List.mem_singleton_self w, h⟩
    | cons v vs =>
      rw [String.intercalate_cons_cons, String.toList_append, String.toList_append,
        List.mem_append, List.mem_append] at h
      rcases h with (hw | hsep) | hrest
      · exact .inr ⟨w, List.mem_cons_self, hw⟩
      · exact .inl hsep
      · rcases ih hrest with hsep | ⟨u, hu, hc⟩
        · exact .inl hsep
        · exact .inr ⟨u, List.mem_cons_of_mem w hu, hc⟩

theorem mem_unwords (h : c ∈ (unwords ws).toList) : c = ' ' ∨ ∃ w ∈ ws, c ∈ w.toList :=
  (mem_intercalate h).imp_left List.mem_singleton.mp

theorem forall_mem_unwords {P : Char → Prop} (hspace : P ' ')
    (h : ∀ w ∈ ws, ∀ c ∈ w.toList, P c) : ∀ c ∈ (unwords ws).toList, P c := by
  intro c hc
  rcases mem_unwords hc with rfl | ⟨w, hw, hcw⟩
  · exact hspace
  · exact h w hw c hcw

theorem isOfWords_unwords (h : ∀ w ∈ ws, w ∈ words line) : IsOfWords line (unwords ws) :=
  forall_mem_unwords (.inl rfl) fun w hw => isOfWords_of_mem_words (h w hw)

theorem exists_unwords_eq_append (w : String) (ws : List String) :
    ∃ rest, unwords (w :: ws) = w ++ rest := by
  cases ws with
  | nil => exact ⟨"", by rw [unwords, String.intercalate_singleton, String.append_empty]⟩
  | cons v vs => exact ⟨" " ++ unwords (v :: vs), by rw [unwords_cons_cons, String.append_assoc]⟩

end Text

end ClassDiagram
