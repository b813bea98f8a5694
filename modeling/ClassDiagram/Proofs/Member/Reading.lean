import ClassDiagram.Member.Field
import ClassDiagram.Member.Signature
import ClassDiagram.Proofs.Text.Joined

/-! # What members are read off

The words of a member line fall into modifiers and a rest, and there is only one way to part them:
the rest begins with the first word that is no modifier. A line is accepted if its words can be
parted in this way, and visibility, modifiers and texts are what the parts say.
-/

namespace ClassDiagram

namespace Modifier

/-- Words that come after modifiers: there are some, and the first is no modifier. -/
def IsRest (ws : List String) : Prop :=
  ∃ w ∈ ws.head?, ofKeyword? w = none

theorem IsRest.ne_nil {ws : List String} (h : IsRest ws) : ws ≠ [] := by
  rintro rfl
  obtain ⟨w, hw, -⟩ := h
  cases hw

theorem IsRest.append {ws : List String} (h : IsRest ws) (vs : List String) :
    IsRest (ws ++ vs) := by
  obtain ⟨w, hw, hk⟩ := h
  exact ⟨w, by rw [List.head?_append, hw]; rfl, hk⟩

theorem IsRest.of_append {ws vs : List String} (h : IsRest (ws ++ vs)) (hne : ws ≠ []) :
    IsRest ws := by
  obtain ⟨v, hv, hk⟩ := h
  obtain ⟨w, ws, rfl⟩ := List.exists_cons_of_ne_nil hne
  exact ⟨v, hv, hk⟩

theorem leading_append (ms : List Modifier) {rest : List String} (h : IsRest rest) :
    leading (ms.map keyword ++ rest) = (ms, rest) := by
  induction ms with
  | nil =>
    obtain ⟨w, hw, hk⟩ := h
    obtain ⟨ws, rfl⟩ := List.head?_eq_some_iff.mp hw
    simp only [List.map_nil, List.nil_append, leading, hk]
  | cons m ms ih => simp only [List.map_cons, List.cons_append, leading, ofKeyword?_keyword, ih]

theorem map_keyword_leading_append (ws : List String) :
    (leading ws).1.map keyword ++ (leading ws).2 = ws := by
  induction ws with
  | nil => rfl
  | cons w ws ih =>
    cases hk : ofKeyword? w with
    | none => simp only [leading, hk, List.map_nil, List.nil_append]
    | some m =>
      simp only [leading, hk]
      rw [List.map_cons, List.cons_append, ih, keyword_of_ofKeyword? hk]

theorem isRest_leading {ws : List String} (h : (leading ws).2 ≠ []) : IsRest (leading ws).2 := by
  induction ws with
  | nil => exact absurd rfl h
  | cons w ws ih =>
    unfold leading at h ⊢
    cases hk : ofKeyword? w with
    | none => exact ⟨w, rfl, hk⟩
    | some m =>
      simp only [hk] at h
      exact ih h

/-- The words can be parted in one way at most. -/
theorem leading_eq_iff {ws rest : List String} {ms : List Modifier} (hne : rest ≠ []) :
    leading ws = (ms, rest) ↔ ws = ms.map keyword ++ rest ∧ IsRest rest := by
  constructor
  · intro h
    have hws := map_keyword_leading_append ws
    rw [h] at hws
    have hrest : IsRest (leading ws).2 := isRest_leading (by rwa [h])
    rw [h] at hrest
    exact ⟨hws.symm, hrest⟩
  · rintro ⟨rfl, hrest⟩
    exact leading_append ms hrest

end Modifier

theorem Signature.ofWords?_eq_some_iff {ws : List String} {s : Signature} :
    ofWords? ws = some s ↔ ∃ ms rest, ws = ms.map Modifier.keyword ++ rest ∧
      Modifier.IsRest rest ∧ s = ⟨.ofModifiers ms, Text.unwords rest⟩ := by
  constructor
  · intro h
    unfold ofWords? at h
    split at h
    · cases h
    · rename_i ms rest hne hleading
      obtain ⟨hws, hrest⟩ := (Modifier.leading_eq_iff hne).mp hleading
      exact ⟨ms, rest, hws, hrest, (Option.some.inj h).symm⟩
  · rintro ⟨ms, rest, rfl, hrest, rfl⟩
    obtain ⟨w, ws, rfl⟩ := List.exists_cons_of_ne_nil hrest.ne_nil
    rw [ofWords?, Modifier.leading_append ms hrest]

theorem Field.ofWords?_eq_some_iff {ws : List String} {f : Field} :
    ofWords? ws = some f ↔ ∃ ms type name, ws = ms.map Modifier.keyword ++ (type ++ [name]) ∧
      Modifier.IsRest type ∧ f = ⟨.ofModifiers ms, Text.unwords type, name⟩ := by
  constructor
  · intro h
    unfold ofWords? at h
    split at h
    rename_i ms rest hleading
    split at h
    · cases h
    · rename_i name hname
      split_ifs at h with hempty
      have hne : rest.dropLast ≠ [] := by simpa using hempty
      have hrest : rest = rest.dropLast ++ [name] :=
        (List.dropLast_append_getLast? name hname).symm
      have hrestNe : rest ≠ [] := by
        rw [hrest]
        exact List.concat_ne_nil name _
      obtain ⟨hws, hplain⟩ := (Modifier.leading_eq_iff hrestNe).mp hleading
      rw [hrest] at hws hplain
      exact ⟨ms, _, name, hws, hplain.of_append hne, (Option.some.inj h).symm⟩
  · rintro ⟨ms, type, name, rfl, htype, rfl⟩
    rw [ofWords?, Modifier.leading_append ms (htype.append [name])]
    simp [htype.ne_nil]

namespace Visibility

/-- The modifier that grants the visibility. -/
def access? : Visibility → Option Modifier
  | pub => some .pub
  | priv => some .priv
  | prot => some .prot
  | package => none

theorem access?_of_visibility? {m : Modifier} {v : Visibility} (h : m.visibility? = some v) :
    v.access? = some m := by
  cases m <;> cases h <;> rfl

theorem visibility?_of_access? {m : Modifier} {v : Visibility} (h : v.access? = some m) :
    m.visibility? = some v := by
  cases v <;> cases h <;> rfl

end Visibility

namespace Qualifiers

variable {q : Qualifiers}

/-- The modifiers that say the same, the one that grants the visibility in front. -/
def toModifiers (q : Qualifiers) : List Modifier :=
  q.visibility.access?.toList ++ q.modifiers

/-- A member is visible in its package only if none of its modifiers grants it more. -/
def IsSettled (q : Qualifiers) : Prop :=
  q.visibility = .package → ∀ m ∈ q.modifiers, m.visibility? = none

theorem isSettled_ofModifiers (ms : List Modifier) : (ofModifiers ms).IsSettled := by
  induction ms with
  | nil => exact fun _ m hm => absurd hm List.not_mem_nil
  | cons m ms ih =>
    unfold IsSettled ofModifiers
    cases hv : m.visibility? with
    | some v =>
      -- a visibility that a keyword grants is not that of the package
      rintro rfl
      have haccess := Visibility.access?_of_visibility? hv
      cases haccess
    | none =>
      intro hp m' hm'
      rcases List.mem_cons.mp hm' with rfl | hm'
      · exact hv
      · exact ih hp m' hm'

theorem ofModifiers_of_forall {ms : List Modifier} (h : ∀ m ∈ ms, m.visibility? = none) :
    ofModifiers ms = ⟨.package, ms⟩ := by
  induction ms with
  | nil => rfl
  | cons m ms ih =>
    rw [List.forall_mem_cons] at h
    simp only [ofModifiers, h.1, ih h.2]

theorem ofModifiers_toModifiers (h : q.IsSettled) : ofModifiers q.toModifiers = q := by
  unfold toModifiers
  cases ha : q.visibility.access? with
  | none =>
    have hp : q.visibility = .package := by
      cases hv : q.visibility with
      | package => rfl
      | _ =>
        rw [hv] at ha
        cases ha
    rw [Option.toList_none, List.nil_append, ofModifiers_of_forall (h hp), ← hp]
  | some m =>
    simp only [Option.toList_some, List.singleton_append, ofModifiers,
      Visibility.visibility?_of_access? ha]

end Qualifiers

end ClassDiagram
