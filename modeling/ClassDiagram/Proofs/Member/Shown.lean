import ClassDiagram.Drawing.Renderer
import ClassDiagram.Proofs.Text.Trim
import ClassDiagram.Proofs.Text.Words

/-! # How members are shown

A member is read off the words of its line, and it is shown behind the glyph of its visibility. Both
notations show it in the same way but for the mark of abstract methods, and neither with a blank
that is no space.
-/

namespace ClassDiagram

theorem Text.IsOfWords.of_stripBullet {line s : String} (h : IsOfWords (stripBullet line) s) :
    IsOfWords line s := by
  intro c hc
  refine (h c hc).imp_right fun hmem => ⟨?_, hmem.2⟩
  have hin := hmem.1
  rw [stripBullet, String.toList_ofList] at hin
  exact (Chars.stripBullet_isInfix line.toList).subset hin

theorem Modifier.leading_isSuffix (ws : List String) : (leading ws).2 <:+ ws := by
  induction ws with
  | nil => exact List.suffix_refl _
  | cons w ws ih =>
    rw [leading]
    split
    · exact ih.trans (List.suffix_cons w ws)
    · exact List.suffix_refl _

theorem Signature.isOfWords_text {line : String} {s : Signature} (h : ofLine? line = some s) :
    Text.IsOfWords line s.text := by
  have hrest := Modifier.leading_isSuffix (Text.words (stripBullet line))
  unfold ofLine? ofWords? at h
  split at h
  · cases h
  · rename_i ms rest hne hleading
    obtain rfl := Option.some.inj h
    rw [hleading] at hrest
    exact (Text.isOfWords_unwords fun w hw => hrest.subset hw).of_stripBullet

theorem Field.isOfWords {line : String} {f : Field} (h : ofLine? line = some f) :
    Text.IsOfWords line f.name ∧ Text.IsOfWords line f.type := by
  have hrest := Modifier.leading_isSuffix (Text.words (stripBullet line))
  unfold ofLine? ofWords? at h
  split_ifs at h
  split at h
  rename_i ms rest hleading
  rw [hleading] at hrest
  split at h
  · cases h
  · rename_i name hname
    split_ifs at h
    obtain rfl := Option.some.inj h
    have hlast : name ∈ rest := List.mem_of_getLast? hname
    exact ⟨(Text.isOfWords_of_mem_words (hrest.subset hlast)).of_stripBullet,
      (Text.isOfWords_unwords fun w hw =>
        hrest.subset (List.dropLast_subset _ hw)).of_stripBullet⟩

namespace Member

/-- The member as a notation shows it that may have a mark for abstract methods. -/
def shown (marker? : Option String) : Member → String
  | constructor s => s.render none
  | method s => s.render marker?
  | field f => f.render

theorem memberLine_eq_shown (m : Member) :
    PlantUml.memberLine m = m.shown (some PlantUml.abstractMarker) := by
  cases m <;> rfl

theorem memberText_eq_shown (m : Member) : Yuml.memberText m = m.shown none := by
  cases m <;> rfl

/-- The member comes from the line. -/
inductive IsReadFrom (line : String) : Member → Prop
  | constructor {s : Signature} (accepted : Signature.ofLine? line = some s) :
      IsReadFrom line (.constructor s)
  | method {s : Signature} (accepted : Signature.ofLine? line = some s) :
      IsReadFrom line (.method s)
  | field {f : Field} (accepted : Field.ofLine? line = some f) :
      IsReadFrom line (.field f)

def IsRead (m : Member) : Prop :=
  ∃ line, m.IsReadFrom line

end Member

/-- The property holds of all characters that are written around the parts of a member. -/
structure HoldsAroundParts (P : Char → Prop) : Prop where
  glyph : ∀ v : Visibility, P v.glyph
  keyword : ∀ m : Modifier, ∀ c ∈ m.keyword.toList, P c
  space : P ' '
  colon : P ':'

section Parts

variable {P : Char → Prop} {marker? : Option String}

theorem Qualifiers.forall_mem_words (q : Qualifiers) (hP : HoldsAroundParts P)
    (hmarker : ∀ marker ∈ marker?, ∀ c ∈ marker.toList, P c) :
    ∀ w ∈ q.words marker?, ∀ c ∈ w.toList, P c := by
  rw [words, List.forall_mem_cons]
  constructor
  · intro c hc
    rw [String.toList_singleton, List.mem_singleton] at hc
    rw [hc]
    exact hP.glyph q.visibility
  · intro w hw
    obtain ⟨m, -, rfl⟩ := List.mem_map.mp hw
    split
    · cases marker? with
      | none => exact hP.keyword .abstract
      | some marker => exact hmarker marker rfl
    · exact hP.keyword m

theorem Signature.forall_mem_render {s : Signature} (hP : HoldsAroundParts P)
    (hmarker : ∀ marker ∈ marker?, ∀ c ∈ marker.toList, P c) (htext : ∀ c ∈ s.text.toList, P c) :
    ∀ c ∈ (s.render marker?).toList, P c := by
  refine Text.forall_mem_unwords hP.space fun w hw => ?_
  rcases List.mem_append.mp hw with hq | hw
  · exact s.toQualifiers.forall_mem_words hP hmarker w hq
  · rwa [List.mem_singleton.mp hw]

theorem Field.forall_mem_render {f : Field} (hP : HoldsAroundParts P)
    (hname : ∀ c ∈ f.name.toList, P c) (htype : ∀ c ∈ f.type.toList, P c) :
    ∀ c ∈ f.render.toList, P c := by
  have hcolon : ∀ c ∈ ":".toList, P c := by
    simpa using hP.colon
  refine Text.forall_mem_unwords hP.space fun w hw => ?_
  rcases List.mem_append.mp hw with hq | hw
  · exact f.toQualifiers.forall_mem_words hP (by simp) w hq
  · simp only [List.mem_cons, List.not_mem_nil, or_false] at hw
    rcases hw with rfl | rfl | rfl <;> assumption

/-- A member shows nothing but the parts that are read off its line and what is around them. -/
theorem Member.IsReadFrom.forall_mem_shown {line : String} {m : Member} (hm : m.IsReadFrom line)
    (hP : HoldsAroundParts P) (hmarker : ∀ marker ∈ marker?, ∀ c ∈ marker.toList, P c)
    (hline : ∀ s, Text.IsOfWords line s → ∀ c ∈ s.toList, P c) :
    ∀ c ∈ (m.shown marker?).toList, P c := by
  cases hm with
  | constructor accepted =>
    exact Signature.forall_mem_render hP (by simp) (hline _ (Signature.isOfWords_text accepted))
  | method accepted =>
    exact Signature.forall_mem_render hP hmarker (hline _ (Signature.isOfWords_text accepted))
  | field accepted =>
    exact Field.forall_mem_render hP (hline _ (Field.isOfWords accepted).1)
      (hline _ (Field.isOfWords accepted).2)

end Parts

namespace Member

theorem IsRead.isSpaced_shown {m : Member} {marker? : Option String} (hm : m.IsRead)
    (h : ∀ marker ∈ marker?, Text.IsSpaced marker) : Text.IsSpaced (m.shown marker?) := by
  obtain ⟨line, hm⟩ := hm
  have hkeyword (m : Modifier) : Text.IsSpaced m.keyword := by
    cases m <;> decide
  refine hm.forall_mem_shown ⟨fun v => ?_, hkeyword, .inl rfl, .inr (by decide)⟩ h
    fun s hs => hs.isSpaced
  cases v <;> decide

theorem exists_shown_eq (m : Member) (marker? : Option String) :
    ∃ (v : Visibility) (rest : List Char), (m.shown marker?).toList = v.glyph :: rest := by
  have hglyph (v : Visibility) (ws : List String) :
      ∃ rest, (Text.unwords (String.singleton v.glyph :: ws)).toList = v.glyph :: rest := by
    obtain ⟨rest, hrest⟩ := Text.exists_unwords_eq_append (String.singleton v.glyph) ws
    exact ⟨rest.toList, by rw [hrest, String.toList_append, String.toList_singleton]; rfl⟩
  cases m with
  | constructor s => exact ⟨s.visibility, hglyph _ _⟩
  | method s => exact ⟨s.visibility, hglyph _ _⟩
  | field f => exact ⟨f.visibility, hglyph _ _⟩

end Member

end ClassDiagram
