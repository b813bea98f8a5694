import Mathlib.Data.Set.List
import ClassDiagram.Proofs.Member.Reading

/-! # Members as record lines

A member can be printed as the record line that it is read off in the end: a dash, the keyword of
its visibility, its other modifiers, and its texts. Reading undoes printing for every member that
some line says, and these are exactly the members whose parts could have been words of a line.
-/

namespace ClassDiagram

/-- A line with these modifiers and texts behind the dash. -/
def Qualifiers.line (q : Qualifiers) (texts : List String) : String :=
  Text.unwords ("-" :: (q.toModifiers.map Modifier.keyword ++ texts))

def Signature.line (s : Signature) : String :=
  s.toQualifiers.line [s.text]

def Field.line (f : Field) : String :=
  f.toQualifiers.line [f.type, f.name]

/-- Words that may stand beside a visibility: modifiers, of which none grants access if only the
package has it. -/
structure Visibility.Admits (v : Visibility) (ws : List String) : Prop where
  keywords : ∀ w ∈ ws, (Modifier.ofKeyword? w).isSome = true
  access : v = .package → ∀ w ∈ ws, Visibility.ofKeyword? w = none

/-- Words with single spaces between them, of which the first is no modifier. -/
def IsMemberText (s : String) : Prop :=
  ∃ ws, Modifier.IsRest ws ∧ (∀ w ∈ ws, Text.IsWord w) ∧ s = Text.unwords ws

theorem Modifier.isWord_keyword (m : Modifier) : Text.IsWord m.keyword := by
  cases m <;> decide

theorem Modifier.exists_map_keyword_eq {ws : List String}
    (h : ∀ w ∈ ws, (ofKeyword? w).isSome = true) : ∃ ms : List Modifier, ms.map keyword = ws := by
  have hrange : ws ∈ Set.range (List.map keyword) := by
    rw [Set.range_list_map]
    intro w hw
    obtain ⟨m, hm⟩ := Option.isSome_iff_exists.mp (h w hw)
    exact ⟨m, keyword_of_ofKeyword? hm⟩
  exact hrange

/-- The keywords of settled qualifiers are admitted, and no others are. -/
theorem Qualifiers.admits_iff {v : Visibility} {ws : List String} :
    v.Admits ws ↔ ∃ q : Qualifiers, q.IsSettled ∧ q.visibility = v ∧
      q.modifiers.map Modifier.keyword = ws := by
  constructor
  · intro h
    obtain ⟨ms, rfl⟩ := Modifier.exists_map_keyword_eq h.keywords
    exact ⟨⟨v, ms⟩, fun hp => List.forall_mem_map.mp (h.access hp), rfl, rfl⟩
  · rintro ⟨q, hq, rfl, rfl⟩
    refine ⟨?_, fun hp => List.forall_mem_map.mpr (hq hp)⟩
    rw [List.forall_mem_map]
    intro m _
    rw [Modifier.ofKeyword?_keyword]
    rfl

theorem Qualifiers.words_stripBullet_line (q : Qualifiers) (texts : List String) :
    Text.words (stripBullet (q.line texts)) =
      q.toModifiers.map Modifier.keyword ++ texts.flatMap Text.words := by
  have hkeywords : ∀ w ∈ q.toModifiers.map Modifier.keyword, Text.IsWord w :=
    List.forall_mem_map.mpr fun m _ => m.isWord_keyword
  rw [line, words_stripBullet_unwords, List.flatMap_append, Text.flatMap_words hkeywords]

namespace Signature

/-- What can be read is settled, and its text is plain. -/
structure IsRegular (s : Signature) : Prop where
  settled : s.toQualifiers.IsSettled
  text : IsMemberText s.text

theorem isRegular_of_ofLine? {line : String} {s : Signature} (h : ofLine? line = some s) :
    s.IsRegular := by
  obtain ⟨ms, rest, hws, hrest, rfl⟩ := ofWords?_eq_some_iff.mp h
  refine ⟨Qualifiers.isSettled_ofModifiers ms, rest, hrest, fun w hw => ?_, rfl⟩
  exact Text.isWord_of_mem_words (hws ▸ List.mem_append_right _ hw)

theorem ofLine?_line {s : Signature} (h : s.IsRegular) : ofLine? s.line = some s := by
  obtain ⟨rest, hrest, hwords, htext⟩ := h.text
  refine ofWords?_eq_some_iff.mpr ⟨s.toModifiers, rest, ?_, hrest, ?_⟩
  · rw [line, Qualifiers.words_stripBullet_line, List.flatMap_singleton, htext,
      Text.words_unwords_eq hwords]
  · rw [Qualifiers.ofModifiers_toModifiers h.settled, ← htext]

end Signature

namespace Field

/-- What can be read is settled, its type is plain text and its name a word. -/
structure IsRegular (f : Field) : Prop where
  settled : f.toQualifiers.IsSettled
  type : IsMemberText f.type
  name : Text.IsWord f.name

theorem isRegular_of_ofLine? {line : String} {f : Field} (h : ofLine? line = some f) :
    f.IsRegular := by
  unfold ofLine? at h
  split_ifs at h
  obtain ⟨ms, type, name, hws, htype, rfl⟩ := ofWords?_eq_some_iff.mp h
  have hwords : ∀ w ∈ type ++ [name], Text.IsWord w := fun w hw =>
    Text.isWord_of_mem_words (hws ▸ List.mem_append_right _ hw)
  rw [List.forall_mem_append] at hwords
  exact ⟨Qualifiers.isSettled_ofModifiers ms, ⟨type, htype, hwords.1, rfl⟩,
    hwords.2 name (List.mem_singleton_self name)⟩

theorem three_le_length_words_line {f : Field} (h : f.IsRegular) :
    3 ≤ (Text.words f.line).length := by
  obtain ⟨type, htype, hwords, heq⟩ := h.type
  have hpos : 0 < type.length := List.length_pos_iff.mpr htype.ne_nil
  have hdash : Text.words "-" = ["-"] := by decide
  rw [line, Qualifiers.line, Text.words_unwords, heq]
  simp only [List.flatMap_cons, List.flatMap_append, List.flatMap_nil, hdash, h.name.words_eq,
    Text.words_unwords_eq hwords, List.length_append, List.length_cons, List.length_nil]
  omega

theorem ofLine?_line {f : Field} (h : f.IsRegular) : ofLine? f.line = some f := by
  obtain ⟨type, htype, hwords, heq⟩ := h.type
  rw [ofLine?, if_neg (by have := three_le_length_words_line h; omega)]
  refine ofWords?_eq_some_iff.mpr ⟨f.toModifiers, type, f.name, ?_, htype, ?_⟩
  · rw [line, Qualifiers.words_stripBullet_line, List.flatMap_cons, List.flatMap_singleton, heq,
      Text.words_unwords_eq hwords, h.name.words_eq]
  · rw [Qualifiers.ofModifiers_toModifiers h.settled, ← heq]

end Field

/-- Reading a printed member gives the member again, if it has been read off any line. The parts of
what can be read are modifiers that the visibility admits, plain text, and a word for the name of a
field, and whatever has such parts can be read. -/
theorem printed_members_read_back :
    (∀ line s, Signature.ofLine? line = some s → Signature.ofLine? s.line = some s) ∧
    (∀ line f, Field.ofLine? line = some f → Field.ofLine? f.line = some f) ∧
    (∀ (v : Visibility) (ws : List String) (text : String),
      (∃ line s, Signature.ofLine? line = some s ∧
        s.visibility = v ∧ s.modifiers.map Modifier.keyword = ws ∧ s.text = text) ↔
      v.Admits ws ∧ IsMemberText text) ∧
    ∀ (v : Visibility) (ws : List String) (type name : String),
      (∃ line f, Field.ofLine? line = some f ∧
        f.visibility = v ∧ f.modifiers.map Modifier.keyword = ws ∧
        f.type = type ∧ f.name = name) ↔
      v.Admits ws ∧ IsMemberText type ∧ Text.IsWord name := by
  refine ⟨fun line s h => Signature.ofLine?_line (Signature.isRegular_of_ofLine? h),
    fun line f h => Field.ofLine?_line (Field.isRegular_of_ofLine? h),
    fun v ws text => ⟨?_, ?_⟩, fun v ws type name => ⟨?_, ?_⟩⟩
  · rintro ⟨line, s, h, rfl, rfl, rfl⟩
    have hs := Signature.isRegular_of_ofLine? h
    exact ⟨Qualifiers.admits_iff.mpr ⟨_, hs.settled, rfl, rfl⟩, hs.text⟩
  · rintro ⟨hv, htext⟩
    obtain ⟨q, hq, rfl, rfl⟩ := Qualifiers.admits_iff.mp hv
    exact ⟨_, ⟨q, text⟩, Signature.ofLine?_line ⟨hq, htext⟩, rfl, rfl, rfl⟩
  · rintro ⟨line, f, h, rfl, rfl, rfl, rfl⟩
    have hf := Field.isRegular_of_ofLine? h
    exact ⟨Qualifiers.admits_iff.mpr ⟨_, hf.settled, rfl, rfl⟩, hf.type, hf.name⟩
  · rintro ⟨hv, htype, hname⟩
    obtain ⟨q, hq, rfl, rfl⟩ := Qualifiers.admits_iff.mp hv
    exact ⟨_, ⟨q, type, name⟩, Field.ofLine?_line ⟨hq, htype, hname⟩, rfl, rfl, rfl, rfl⟩

/-- An access keyword is printed first, wherever it has been, and a later one stays a modifier. -/
theorem modifiers_printed_in_order :
    (∃ s, Signature.ofLine? "-static  public private void f(a, b)" = some s ∧
      s.line = "- public static private void f(a, b)" ∧ Signature.ofLine? s.line = some s) ∧
    ∃ f, Field.ofLine? " final\tMap<K,  V> static " = some f ∧
      f.line = "- final Map<K, V> static" ∧ Field.ofLine? f.line = some f := by
  obtain ⟨hsignature, hfield, -⟩ := printed_members_read_back
  have hs : Signature.ofLine? "-static  public private void f(a, b)" =
      some ⟨⟨.pub, [.static, .priv]⟩, "void f(a, b)"⟩ := by decide +kernel
  have hf : Field.ofLine? " final\tMap<K,  V> static " =
      some ⟨⟨.package, [.final]⟩, "Map<K, V>", "static"⟩ := by decide +kernel
  exact ⟨⟨_, hs, by decide +kernel, hsignature _ _ hs⟩, _, hf, by decide +kernel, hfield _ _ hf⟩

end ClassDiagram
