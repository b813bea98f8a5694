import ClassDiagram.Drawing.Renderer
import ClassDiagram.Proofs.Member.Printed

/-! # Members by what they show

Nothing sets off the modifiers of a shown member from its text, but the text does not begin with a
modifier, nor with the mark for abstract methods if its line has no such word. In a shown field the
colon comes right behind the name. Members that are shown alike are therefore the same.
-/

namespace ClassDiagram

theorem eq_of_map_append_eq {α β : Type} {f : α → β} (hf : Function.Injective f) {xs ys : List α}
    {us vs : List β} (hu : ∀ b ∈ us.head?, b ∉ Set.range f) (hv : ∀ b ∈ vs.head?, b ∉ Set.range f)
    (h : xs.map f ++ us = ys.map f ++ vs) : xs = ys ∧ us = vs := by
  induction xs generalizing ys with
  | nil =>
    cases ys with
    | nil => exact ⟨rfl, h⟩
    | cons y ys =>
      obtain rfl : us = f y :: (ys.map f ++ vs) := h
      exact absurd ⟨y, rfl⟩ (hu (f y) rfl)
  | cons x xs ih =>
    cases ys with
    | nil =>
      obtain rfl : f x :: (xs.map f ++ us) = vs := h
      exact absurd ⟨x, rfl⟩ (hv (f x) rfl)
    | cons y ys =>
      obtain ⟨hxy, hrest⟩ := List.cons.inj h
      obtain ⟨rfl, huv⟩ := ih hrest
      exact ⟨by rw [hf hxy], huv⟩

theorem Visibility.glyph_injective : Function.Injective glyph := by
  intro v w h
  cases v <;> cases w <;> first | rfl | exact absurd h (by decide)

namespace Modifier

/-- The word that a modifier is shown as, where a notation may have a mark for abstract methods. -/
def shown (marker? : Option String) : Modifier → String
  | abstract => marker?.getD abstract.keyword
  | m => m.keyword

theorem keyword_injective : Function.Injective keyword := by
  intro m n h
  have hm := ofKeyword?_keyword m
  rw [h, ofKeyword?_keyword] at hm
  exact (Option.some.inj hm).symm

variable {marker? : Option String} {w : String}

theorem shown_eq_keyword {m : Modifier} (h : m ≠ abstract) : m.shown marker? = m.keyword := by
  cases m <;> first | rfl | exact absurd rfl h

theorem notMem_range_shown (hk : ofKeyword? w = none) (hw : w ∉ marker?) :
    w ∉ Set.range (shown marker?) := by
  rintro ⟨m, rfl⟩
  by_cases hm : m = abstract
  · subst hm
    cases marker? with
    | none => exact absurd hk (by decide)
    | some marker => exact hw rfl
  · rw [shown_eq_keyword hm, ofKeyword?_keyword] at hk
    cases hk

theorem IsRest.notMem_range_shown {ws : List String} (h : IsRest ws)
    (hw : ∀ marker ∈ marker?, marker ∉ ws) :
    ∀ w ∈ ws.head?, w ∉ Set.range (shown marker?) := by
  intro w hhead
  obtain ⟨v, hv, hk⟩ := h
  obtain rfl := Option.mem_unique hhead hv
  exact Modifier.notMem_range_shown hk fun hmark => hw w hmark (List.mem_of_mem_head? hhead)

section

variable (h : ∀ marker ∈ marker?, ofKeyword? marker = none)

include h

theorem shown_abstract_ne {m : Modifier} (hm : m ≠ abstract) :
    abstract.shown marker? ≠ m.keyword := by
  intro heq
  cases marker? with
  | none => exact hm (keyword_injective heq.symm)
  | some marker =>
    have hmarker := h marker rfl
    rw [show marker = m.keyword from heq, ofKeyword?_keyword] at hmarker
    cases hmarker

theorem shown_injective : Function.Injective (shown marker?) := by
  intro m n hmn
  by_cases hm : m = abstract <;> by_cases hn : n = abstract
  · rw [hm, hn]
  · rw [hm, shown_eq_keyword hn] at hmn
    exact absurd hmn (shown_abstract_ne h hn)
  · rw [hn, shown_eq_keyword hm] at hmn
    exact absurd hmn.symm (shown_abstract_ne h hm)
  · rw [shown_eq_keyword hm, shown_eq_keyword hn] at hmn
    exact keyword_injective hmn

end

theorem isWord_shown (h : ∀ marker ∈ marker?, Text.IsWord marker) (m : Modifier) :
    Text.IsWord (m.shown marker?) := by
  by_cases hm : m = abstract
  · subst hm
    cases marker? with
    | none => exact isWord_keyword abstract
    | some marker => exact h marker rfl
  · rw [shown_eq_keyword hm]
    exact m.isWord_keyword

end Modifier

/-- A word that a notation may have as its mark for abstract methods. -/
structure IsMark (marker : String) : Prop where
  word : Text.IsWord marker
  other : Modifier.ofKeyword? marker = none

namespace Qualifiers

variable {marker? : Option String} (h : ∀ marker ∈ marker?, IsMark marker)

theorem words_eq (q : Qualifiers) :
    q.words marker? =
      String.singleton q.visibility.glyph :: q.modifiers.map (Modifier.shown marker?) :=
  rfl

include h

theorem isWord_of_mem_words (q : Qualifiers) : ∀ w ∈ q.words marker?, Text.IsWord w := by
  rw [words_eq, List.forall_mem_cons, List.forall_mem_map]
  refine ⟨?_, fun m _ => m.isWord_shown fun marker hmarker => (h marker hmarker).word⟩
  cases q.visibility <;> decide

/-- Qualifiers end where a word is neither a modifier nor the mark. -/
theorem eq_of_words_append_eq {q r : Qualifiers} {us vs : List String}
    (hu : ∀ w ∈ us.head?, w ∉ Set.range (Modifier.shown marker?))
    (hv : ∀ w ∈ vs.head?, w ∉ Set.range (Modifier.shown marker?))
    (heq : q.words marker? ++ us = r.words marker? ++ vs) : q = r ∧ us = vs := by
  rw [words_eq, words_eq, List.cons_append, List.cons_append] at heq
  obtain ⟨hglyph, hrest⟩ := List.cons.inj heq
  obtain ⟨hmodifiers, hwords⟩ := eq_of_map_append_eq
    (Modifier.shown_injective fun marker hmarker => (h marker hmarker).other) hu hv hrest
  have hvisibility : q.visibility = r.visibility :=
    Visibility.glyph_injective (by simpa using congrArg String.toList hglyph)
  cases q
  cases r
  cases hvisibility
  cases hmodifiers
  exact ⟨rfl, hwords⟩

theorem words_injective : Function.Injective (words marker?) := by
  intro q r heq
  have happend : q.words marker? ++ [] = r.words marker? ++ [] := by rw [heq]
  exact (eq_of_words_append_eq h (by simp) (by simp) happend).1

end Qualifiers

theorem IsMemberText.words {text : String} (h : IsMemberText text) :
    Modifier.IsRest (Text.words text) ∧ Text.unwords (Text.words text) = text := by
  obtain ⟨ws, hrest, hwords, rfl⟩ := h
  rw [Text.words_unwords_eq hwords]
  exact ⟨hrest, rfl⟩

namespace Signature

variable {marker? : Option String} {s t : Signature}

theorem words_render (h : ∀ marker ∈ marker?, IsMark marker) (s : Signature) :
    Text.words (s.render marker?) = s.toQualifiers.words marker? ++ Text.words s.text := by
  rw [render, Text.words_unwords, List.flatMap_append, List.flatMap_singleton,
    Text.flatMap_words (s.toQualifiers.isWord_of_mem_words h)]

/-- What is shown of a signature determines it. -/
theorem eq_of_render_eq (h : ∀ marker ∈ marker?, IsMark marker) (hs : s.IsRegular)
    (ht : t.IsRegular) (hsm : ∀ marker ∈ marker?, marker ∉ Text.words s.text)
    (htm : ∀ marker ∈ marker?, marker ∉ Text.words t.text)
    (heq : s.render marker? = t.render marker?) : s = t := by
  have hwords := congrArg Text.words heq
  rw [words_render h, words_render h] at hwords
  obtain ⟨hq, htexts⟩ := Qualifiers.eq_of_words_append_eq h
    (hs.text.words.1.notMem_range_shown hsm) (ht.text.words.1.notMem_range_shown htm) hwords
  have htext : s.text = t.text := by
    rw [← hs.text.words.2, htexts, ht.text.words.2]
  cases s
  cases t
  cases hq
  cases htext
  rfl

theorem words_text_subset {line : String} (h : ofLine? line = some s) :
    Text.words s.text ⊆ Text.words (stripBullet line) := by
  obtain ⟨ms, rest, hws, -, rfl⟩ := ofWords?_eq_some_iff.mp h
  have hrest : rest ⊆ Text.words (stripBullet line) := by
    rw [hws]
    exact List.subset_append_right _ _
  rw [Text.words_unwords_eq fun w hw => Text.isWord_of_mem_words (hrest hw)]
  exact hrest

end Signature

namespace Field

variable {f g : Field}

theorem words_render (h : Text.IsWord f.name) :
    Text.words f.render =
      f.toQualifiers.words none ++ [f.name] ++ ":" :: Text.words f.type := by
  have hcolon : Text.words ":" = [":"] := by decide
  rw [render, Text.words_unwords, List.flatMap_append,
    Text.flatMap_words (f.toQualifiers.isWord_of_mem_words (by simp)), List.append_assoc]
  simp only [List.flatMap_cons, List.flatMap_nil, h.words_eq, hcolon, List.append_nil,
    List.singleton_append]

theorem colon_notMem_words (q : Qualifiers) : ":" ∉ q.words none := by
  rw [Qualifiers.words_eq, List.mem_cons, List.mem_map, not_or]
  constructor
  · cases q.visibility <;> decide
  · rintro ⟨m, -, hm⟩
    cases m <;> exact absurd hm (by decide)

/-- What is shown of a field determines it, even if another field may have a colon in it. -/
theorem eq_of_render_eq (hf : f.IsRegular) (hg : g.IsRegular) (hname : f.name ≠ ":")
    (htype : ":" ∉ Text.words f.type) (heq : f.render = g.render) : f = g := by
  have hwords := congrArg Text.words heq
  rw [words_render hf.name, words_render hg.name] at hwords
  have hfront : ":" ∉ f.toQualifiers.words none ++ [f.name] := by
    rw [List.mem_append, List.mem_singleton, not_or]
    exact ⟨colon_notMem_words f.toQualifiers, Ne.symm hname⟩
  obtain ⟨hleft, -, htypes⟩ := (List.append_cons_inj_of_notMem hfront htype).mp hwords
  obtain ⟨hqualifiers, hnameEq⟩ := List.append_singleton_inj.mp hleft
  have hq : f.toQualifiers = g.toQualifiers :=
    Qualifiers.words_injective (by simp) hqualifiers
  have htypeEq : f.type = g.type := by
    rw [← hf.type.words.2, htypes, hg.type.words.2]
  cases f
  cases g
  cases hq
  cases hnameEq
  cases htypeEq
  rfl

theorem words_subset {line : String} (h : ofLine? line = some f) :
    f.name :: Text.words f.type ⊆ Text.words (stripBullet line) := by
  unfold ofLine? at h
  split_ifs at h
  obtain ⟨ms, type, name, hws, -, rfl⟩ := ofWords?_eq_some_iff.mp h
  have htype : type ++ [name] ⊆ Text.words (stripBullet line) := by
    rw [hws]
    exact List.subset_append_right _ _
  rw [List.append_subset] at htype
  rw [Text.words_unwords_eq fun w hw => Text.isWord_of_mem_words (htype.1 hw)]
  exact List.cons_subset.mpr ⟨htype.2 (List.mem_singleton_self name), htype.1⟩

end Field

theorem isMark_abstractMarker : IsMark PlantUml.abstractMarker :=
  ⟨by decide, by decide⟩

/-- Two members that are shown alike are the same: signatures without a mark for abstract methods,
signatures with one if no line has the mark among its words, and fields if a line of the two has no
colon among its words. -/
theorem member_eq_of_render_eq :
    (∀ x y s t, Signature.ofLine? x = some s → Signature.ofLine? y = some t →
      s.render none = t.render none → s = t) ∧
    (∀ x y s t, Signature.ofLine? x = some s → Signature.ofLine? y = some t →
      PlantUml.abstractMarker ∉ Text.words (stripBullet x) →
      PlantUml.abstractMarker ∉ Text.words (stripBullet y) →
      s.render (some PlantUml.abstractMarker) = t.render (some PlantUml.abstractMarker) →
      s = t) ∧
    ∀ x y f g, Field.ofLine? x = some f → Field.ofLine? y = some g →
      ":" ∉ Text.words (stripBullet x) → f.render = g.render → f = g := by
  refine ⟨fun x y s t hs ht heq => ?_, fun x y s t hs ht hx hy heq => ?_,
    fun x y f g hf hg hx heq => ?_⟩
  · exact Signature.eq_of_render_eq (by simp)
      (Signature.isRegular_of_ofLine? hs) (Signature.isRegular_of_ofLine? ht) (by simp) (by simp)
      heq
  · refine Signature.eq_of_render_eq ?_ (Signature.isRegular_of_ofLine? hs)
      (Signature.isRegular_of_ofLine? ht) ?_ ?_ heq
    · rintro _ ⟨⟩
      exact isMark_abstractMarker
    · rintro _ ⟨⟩
      exact fun hmem => hx (Signature.words_text_subset hs hmem)
    · rintro _ ⟨⟩
      exact fun hmem => hy (Signature.words_text_subset ht hmem)
  · have hwords := Field.words_subset hf
    refine Field.eq_of_render_eq (Field.isRegular_of_ofLine? hf) (Field.isRegular_of_ofLine? hg)
      ?_ (fun hmem => hx (hwords (List.mem_cons_of_mem _ hmem))) heq
    intro hname
    exact hx (hwords (by rw [hname]; exact List.mem_cons_self))

/-- Lines that differ in the order of modifiers and in blanks are shown alike. -/
theorem shown_alike_reordered :
    (∃ s t, Signature.ofLine? "- public abstract void f(a, b)" = some s ∧
      Signature.ofLine? "abstract public void  f(a,\tb)" = some t ∧
      PlantUml.abstractMarker ∉ Text.words (stripBullet "- public abstract void f(a, b)") ∧
      PlantUml.abstractMarker ∉ Text.words (stripBullet "abstract public void  f(a,\tb)") ∧
      s.render none = t.render none ∧ s = t ∧
      s.render (some PlantUml.abstractMarker) = t.render (some PlantUml.abstractMarker) ∧
      t = s) ∧
    ∃ f g, Field.ofLine? "- private static Map<K, V> final" = some f ∧
      Field.ofLine? "static private Map<K,  V> final" = some g ∧
      ":" ∉ Text.words (stripBullet "- private static Map<K, V> final") ∧
      f.render = g.render ∧ f = g := by
  obtain ⟨hplain, hmarked, hfield⟩ := member_eq_of_render_eq
  constructor
  · have hx : Signature.ofLine? "- public abstract void f(a, b)" =
        some ⟨⟨.pub, [.abstract]⟩, "void f(a, b)"⟩ := by decide +kernel
    have hy : Signature.ofLine? "abstract public void  f(a,\tb)" =
        some ⟨⟨.pub, [.abstract]⟩, "void f(a, b)"⟩ := by decide +kernel
    have hxm : PlantUml.abstractMarker ∉
        Text.words (stripBullet "- public abstract void f(a, b)") := by decide +kernel
    have hym : PlantUml.abstractMarker ∉
        Text.words (stripBullet "abstract public void  f(a,\tb)") := by decide +kernel
    exact ⟨_, _, hx, hy, hxm, hym, rfl, hplain _ _ _ _ hx hy rfl, rfl,
      hmarked _ _ _ _ hy hx hym hxm rfl⟩
  · have hx : Field.ofLine? "- private static Map<K, V> final" =
        some ⟨⟨.priv, [.static]⟩, "Map<K, V>", "final"⟩ := by decide +kernel
    have hy : Field.ofLine? "static private Map<K,  V> final" =
        some ⟨⟨.priv, [.static]⟩, "Map<K, V>", "final"⟩ := by decide +kernel
    have hxc : ":" ∉ Text.words (stripBullet "- private static Map<K, V> final") := by
      decide +kernel
    exact ⟨_, _, hx, hy, hxc, rfl, hfield _ _ _ _ hx hy hxc rfl⟩

/-- A type may look like the mark of an abstract method. -/
example :
    (Signature.ofLine? "- abstract int f()").map (·.render (some PlantUml.abstractMarker)) =
      (Signature.ofLine? "- \x7babstract\x7d int f()").map
        (·.render (some PlantUml.abstractMarker)) := by
  decide +kernel

end ClassDiagram
