import Mathlib.Data.List.Induction
import ClassDiagram.Proofs.Drawing.Notation
import ClassDiagram.Proofs.Ignoring.Rendering
import ClassDiagram.Proofs.Text.Lowercase

/-! # Histories of a registry

Renderers are registered one after another. Whatever their names and the cases of these, a registry
lists each key once and in order, and gives for it the renderer that came last under that key. A
listed key is in lower case already, so that it is found when it is lower-cased again.
-/

namespace ClassDiagram

namespace Renderer

/-- The last of the renderers that go by the key, case aside. -/
def lastNamed? (rs : List Renderer) (key : String) : Option Renderer :=
  (rs.filter fun r => Text.lower r.name = Text.lower key).getLast?

@[simp] theorem lastNamed?_append_singleton (rs : List Renderer) (r : Renderer) (key : String) :
    lastNamed? (rs ++ [r]) key =
      if Text.lower key = Text.lower r.name then some r else lastNamed? rs key := by
  by_cases h : Text.lower key = Text.lower r.name
  · simp [lastNamed?, h]
  · simp [lastNamed?, h, Ne.symm h]

end Renderer

namespace Registry

/-- The registry after the renderers have been registered in their order. -/
def registerAll (g : Registry) (rs : List Renderer) : Registry :=
  rs.foldl register g

variable {g : Registry} {rs : List Renderer} {r : Renderer} {key : String}

@[simp] theorem registerAll_append_singleton (g : Registry) (rs : List Renderer) (r : Renderer) :
    g.registerAll (rs ++ [r]) = (g.registerAll rs).register r :=
  List.foldl_append

theorem registerAll_append (g : Registry) (rs ss : List Renderer) :
    g.registerAll (rs ++ ss) = (g.registerAll rs).registerAll ss :=
  List.foldl_append

/-- The renderer that came last under a key is the one that is found. -/
theorem find_registerAll (rs : List Renderer) (key : String) :
    (empty.registerAll rs).find key =
      match Renderer.lastNamed? rs key with
      | some r => .ok r
      | none => .error (.unsupportedNotation key) := by
  induction rs using List.reverseRecOn with
  | nil => exact find_empty key
  | append_singleton rs r ih =>
    rw [registerAll_append_singleton, find_register, ih, Renderer.lastNamed?_append_singleton]
    split_ifs <;> rfl

theorem mem_keys_registerAll (rs : List Renderer) (key : String) :
    key ∈ (empty.registerAll rs).keys ↔ ∃ r ∈ rs, Text.lower r.name = key := by
  induction rs using List.reverseRecOn with
  | nil => simp [registerAll, keys, empty]
  | append_singleton rs r ih =>
    rw [registerAll_append_singleton, mem_keys_register, ih]
    simp only [List.mem_append, List.mem_singleton]
    constructor
    · rintro (rfl | ⟨s, hs, hkey⟩)
      · exact ⟨r, .inr rfl, rfl⟩
      · exact ⟨s, .inl hs, hkey⟩
    · rintro ⟨s, hs | rfl, hkey⟩
      · exact .inr ⟨s, hs, hkey⟩
      · exact .inl hkey.symm

theorem pairwise_keys (g : Registry) : g.keys.Pairwise (· < ·) := by
  have hordered : g.keys.Pairwise fun a b => compare a b = .lt := Std.TreeMap.ordered_keys
  exact hordered.imp fun h => compareOfLessAndEq_eq_lt.mp h

theorem contains_iff : g.contains key = true ↔ Text.lower key ∈ g.keys := by
  rw [contains, keys, Std.TreeMap.mem_keys, Std.TreeMap.contains_iff_mem]

theorem mem_keys_iff_find : Text.lower key ∈ g.keys ↔ ∃ r, g.find key = .ok r := by
  rw [keys, Std.TreeMap.mem_keys, Std.TreeMap.mem_iff_isSome_getElem?, Option.isSome_iff_exists,
    find]
  cases g.renderers[Text.lower key]? <;> simp

theorem render_of_find_error {e : Failure} (h : g.find key = .error e)
    (ignored lines : List String) :
    g.render key lines = .error e ∧ g.renderWithout key ignored lines = .error e := by
  rw [renderWithout_eq, render, render, h]
  exact ⟨rfl, rfl⟩

theorem render_of_find_ok (h : g.find key = .ok r) (ignored lines : List String) :
    g.render key lines = r.render lines ∧
      g.renderWithout key ignored lines = r.render (withoutEntities ignored lines) := by
  rw [renderWithout_eq, render, render, h]
  exact ⟨rfl, rfl⟩

/-- What a registry makes of the renderers that were registered. -/
structure Remembers (g : Registry) (rs : List Renderer) : Prop where
  sorted : g.keys.Pairwise (· < ·)
  listed : ∀ key, key ∈ g.keys ↔ ∃ r ∈ rs, Text.lower r.name = key
  found : ∀ key r, g.find key = .ok r ↔ Renderer.lastNamed? rs key = some r
  missed : ∀ key e, g.find key = .error e ↔
    Renderer.lastNamed? rs key = none ∧ e = .unsupportedNotation key
  contains : ∀ key, g.contains key = true ↔ ∃ r, g.find key = .ok r
  accepted : ∀ key ∈ g.keys, ∃ r, g.find key = .ok r
  refuses : ∀ key e, g.find key = .error e → ∀ ignored lines,
    g.render key lines = .error e ∧ g.renderWithout key ignored lines = .error e
  renders : ∀ key r, g.find key = .ok r → ∀ ignored lines,
    g.render key lines = r.render lines ∧
      g.renderWithout key ignored lines = r.render (withoutEntities ignored lines)

theorem remembers_registerAll (rs : List Renderer) : (empty.registerAll rs).Remembers rs where
  sorted := pairwise_keys _
  listed := mem_keys_registerAll rs
  found key r := by
    rw [find_registerAll]
    cases Renderer.lastNamed? rs key <;> simp
  missed key e := by
    rw [find_registerAll]
    cases Renderer.lastNamed? rs key <;> simp [eq_comm]
  contains _ := contains_iff.trans mem_keys_iff_find
  accepted key hkey := by
    obtain ⟨r, -, rfl⟩ := (mem_keys_registerAll rs key).mp hkey
    rw [← mem_keys_iff_find, Text.lower_lower]
    exact hkey
  refuses _ _ := render_of_find_error
  renders _ _ := render_of_find_ok

/-- A registry that started empty, or with the two notations, remembers all that was registered
since, and the two notations as if they had been registered first. -/
theorem last_registered_is_found (rs : List Renderer) :
    (empty.registerAll rs).Remembers rs ∧
      (standard.registerAll rs).Remembers ([.plantUml, .yuml] ++ rs) := by
  have hstandard : standard = empty.registerAll [.plantUml, .yuml] := rfl
  rw [hstandard, ← registerAll_append]
  exact ⟨remembers_registerAll rs, remembers_registerAll _⟩

end Registry

end ClassDiagram
