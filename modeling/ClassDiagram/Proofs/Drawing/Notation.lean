import Mathlib.Data.List.Basic
import Mathlib.Tactic.SplitIfs
import ClassDiagram.Registry

/-! # The notations of a registry

A registry finds a key in any case, as long as the lower case of it is among its own. The standard
one knows two notations, and no text that either of them draws ends in a line feed.
-/

namespace ClassDiagram

namespace Registry

section

variable (g : Registry) (r : Renderer) (key : String)

theorem find_register : (g.register r).find key =
    if Text.lower key = Text.lower r.name then .ok r else g.find key := by
  unfold find register
  simp only [Std.TreeMap.getElem?_insert, Std.LawfulEqCmp.compare_eq_iff_eq]
  split_ifs <;> simp_all

theorem find_empty : empty.find key = .error (.unsupportedNotation key) := by
  simp [find, empty]

theorem mem_keys_register :
    key ∈ (g.register r).keys ↔ key = Text.lower r.name ∨ key ∈ g.keys := by
  simp only [keys, register, Std.TreeMap.mem_keys, Std.TreeMap.mem_insert,
    Std.LawfulEqCmp.compare_eq_iff_eq]
  rw [eq_comm]

end

variable {key : String}

/-- A key of the standard registry stands for one of the two notations, which draw any lines. -/
theorem render_standard_of_mem (h : Text.lower key ∈ standard.keys) :
    ∃ draw, (draw = PlantUml.draw ∨ draw = Yuml.draw) ∧
      ∀ lines, standard.render key lines = .ok (draw.render lines) := by
  rw [standard, mem_keys_register, mem_keys_register] at h
  rcases h with hkey | hkey | hempty
  · refine ⟨Yuml.draw, .inr rfl, fun lines => ?_⟩
    rw [render, standard, find_register, if_pos hkey]
    rfl
  · have hother : Text.lower key ≠ Text.lower Renderer.yuml.name := by
      rw [hkey]
      decide
    refine ⟨PlantUml.draw, .inl rfl, fun lines => ?_⟩
    rw [render, standard, find_register, if_neg hother, find_register, if_pos hkey]
    rfl
  · simp [keys, empty] at hempty

theorem render_standard_of_notMem (h : Text.lower key ∉ standard.keys) (lines : List String) :
    standard.render key lines = .error (.unsupportedNotation key) := by
  rw [standard, mem_keys_register, mem_keys_register, not_or, not_or] at h
  rw [render, standard, find_register, if_neg h.1, find_register, if_neg h.2.1, find_empty]
  rfl

end Registry

namespace Text

/-- The line ends in a character that is no line feed. -/
def IsClosed (line : String) : Prop :=
  ∃ c ≠ '\n', line.toList.getLast? = some c

theorem isClosed_append {line : String} (h : IsClosed line) (s : String) :
    IsClosed (s ++ line) := by
  obtain ⟨c, hc, hlast⟩ := h
  refine ⟨c, hc, ?_⟩
  rw [String.toList_append, List.getLast?_append, hlast, Option.some_or]

theorem endsInLineFeed_of_isClosed {line : String} (h : IsClosed line) :
    endsInLineFeed line = false := by
  obtain ⟨c, hc, hlast⟩ := h
  simp [endsInLineFeed, hlast, hc]

theorem ne_empty_of_isClosed {line : String} (h : IsClosed line) : line ≠ "" := by
  rintro rfl
  obtain ⟨c, -, hlast⟩ := h
  cases hlast

theorem isClosed_unlines {last : String} (h : IsClosed last) (ls : List String) :
    IsClosed (unlines (ls ++ [last])) := by
  unfold unlines
  by_cases hls : ls = []
  · rwa [hls, List.nil_append, String.intercalate_singleton]
  · rw [String.intercalate_append_of_ne_nil hls (List.cons_ne_nil _ _),
      String.intercalate_singleton]
    exact isClosed_append h _

end Text

theorem PlantUml.isClosed_text (lines : List String) : Text.IsClosed (draw.render lines).text := by
  have hlast : Text.IsClosed "@enduml" := ⟨'l', by decide, by decide⟩
  exact Text.isClosed_unlines hlast _

namespace Yuml

theorem isClosed_blockLine (b : Block) : Text.IsClosed (blockLine b) := by
  have hbracket : Text.IsClosed "]" := ⟨']', by decide, rfl⟩
  unfold blockLine
  split_ifs
  · exact Text.isClosed_append hbracket _
  · exact Text.isClosed_append hbracket _

theorem isClosed_relationLine (r : Relation) : Text.IsClosed (relationLine r) :=
  Text.isClosed_append ⟨']', by decide, rfl⟩ _

theorem text_eq_or_isClosed (lines : List String) :
    (draw.render lines).text = "" ∨ Text.IsClosed (draw.render lines).text := by
  have hclosed : ∀ l ∈ (draw.render lines).lines, Text.IsClosed l := by
    intro l hl
    rcases List.mem_append.mp hl with hblock | hrelation
    · obtain ⟨b, -, rfl⟩ := List.mem_map.mp hblock
      exact isClosed_blockLine b
    · obtain ⟨r, -, rfl⟩ := List.mem_map.mp hrelation
      exact isClosed_relationLine r
  unfold Rendering.text
  rcases List.eq_nil_or_concat' (draw.render lines).lines with hlines | ⟨ls, last, hlines⟩
  · left
    rw [hlines]
    rfl
  · right
    rw [hlines] at hclosed ⊢
    exact Text.isClosed_unlines (hclosed last (by simp)) ls

end Yuml

theorem Registry.text_eq_or_isClosed {key : String} {lines : List String} {r : Rendering}
    (h : standard.render key lines = .ok r) : r.text = "" ∨ Text.IsClosed r.text := by
  by_cases hkey : Text.lower key ∈ standard.keys
  · obtain ⟨draw, hdraw, hrender⟩ := render_standard_of_mem hkey
    rw [hrender] at h
    cases h
    rcases hdraw with rfl | rfl
    · exact .inr (PlantUml.isClosed_text lines)
    · exact Yuml.text_eq_or_isClosed lines
  · rw [render_standard_of_notMem hkey] at h
    cases h

end ClassDiagram
