import Mathlib.Data.List.Chain
import ClassDiagram.Proofs.Member.Printed
import ClassDiagram.Proofs.Member.Shown
import ClassDiagram.Proofs.Scan.EndPoints

/-! # What fields hold

An entity is composed of what its fields hold, and a field of a generic type holds the argument of
the type. A generic type without an argument holds nothing, but its brackets have to stand side by
side for that: if they are words of their own, the space between them is taken for an argument.
-/

namespace ClassDiagram

/-! ## Single spaces -/

theorem Chars.eq_singleton_of_isChain {cs : List Char} (hne : cs ≠ [])
    (hblank : ∀ c ∈ cs, isBlank c = true)
    (hchain : cs.IsChain fun c d => isBlank c = true → isBlank d = false) : ∃ c, cs = [c] := by
  obtain ⟨c, cs, rfl⟩ := List.exists_cons_of_ne_nil hne
  cases cs with
  | nil => exact ⟨c, rfl⟩
  | cons d ds =>
    have hd := (List.isChain_cons_cons.mp hchain).1 (hblank c List.mem_cons_self)
    rw [hblank d (by simp)] at hd
    cases hd

namespace Text

variable {w : String} {ws : List String}

theorem isBlank_head_unwords (hw : IsWord w) (ws : List String) :
    ∀ c ∈ (unwords (w :: ws)).toList.head?, ClassDiagram.isBlank c = false := by
  obtain ⟨rest, hrest⟩ := exists_unwords_eq_append w ws
  have hne : w.toList ≠ [] := by simpa using hw.ne_empty
  obtain ⟨c, cs, hcs⟩ := List.exists_cons_of_ne_nil hne
  intro d hd
  rw [hrest, String.toList_append, hcs] at hd
  obtain rfl : c = d := Option.some.inj hd
  exact hw.unbroken c (by simp [hcs])

theorem isChain_unwords (h : ∀ w ∈ ws, IsWord w) :
    (unwords ws).toList.IsChain fun c d =>
      ClassDiagram.isBlank c = true → ClassDiagram.isBlank d = false := by
  induction ws with
  | nil => exact .nil
  | cons w ws ih =>
    rw [List.forall_mem_cons] at h
    have hword : w.toList.IsChain fun c d =>
        ClassDiagram.isBlank c = true → ClassDiagram.isBlank d = false := by
      rw [List.isChain_iff_forall_rel_of_append_cons_cons]
      intro c d _ _ hw _
      exact h.1.unbroken d (by simp [hw])
    cases ws with
    | nil => rwa [unwords, String.intercalate_singleton]
    | cons v vs =>
      have hspace : (unwords (w :: v :: vs)).toList =
          w.toList ++ ' ' :: (unwords (v :: vs)).toList := by
        rw [unwords_cons_cons]
        simp
      rw [hspace, List.isChain_append, List.isChain_cons]
      refine ⟨hword, ⟨fun d hd _ => ?_, ih h.2⟩, fun c hc d _ hblank => ?_⟩
      · exact isBlank_head_unwords (h.2 v List.mem_cons_self) vs d hd
      · rw [h.1.unbroken c (List.mem_of_getLast? hc)] at hblank
        cases hblank

theorem isBlank_space : isBlank " " = true := by
  decide

end Text

/-! ## The argument of a type -/

/-- What a type has for its argument, by where its angle brackets are: the text between the first
that opens and one that closes it at the end, the type without a bracket at the end that closes
none, and any other type itself. -/
inductive HasArgument : String → String → Prop
  | generic {front inner : String} (first : '<' ∉ front.toList) :
      HasArgument (front ++ "<" ++ inner ++ ">") inner
  | unopened {type : String} (unopened : '<' ∉ type.toList) : HasArgument (type ++ ">") type
  | plain {type : String} (last : type.toList.getLast? ≠ some '>') : HasArgument type type

namespace Chars

variable {front inner cs : List Char}

theorem typeArgument_generic (h : '<' ∉ front) :
    typeArgument (front ++ '<' :: inner ++ ['>']) = inner := by
  have hfront : ∀ c ∈ front, (c != '<') = true := by
    intro c hc
    rw [bne_iff_ne]
    rintro rfl
    exact h hc
  rw [typeArgument, List.getLast?_concat, if_pos rfl, List.dropLast_concat, if_pos (by simp),
    List.dropWhile_append_of_pos hfront]
  simp

theorem typeArgument_unopened (h : '<' ∉ cs) : typeArgument (cs ++ ['>']) = cs := by
  rw [typeArgument, List.getLast?_concat, if_pos rfl, List.dropLast_concat, if_neg h]

theorem typeArgument_plain (h : cs.getLast? ≠ some '>') : typeArgument cs = cs :=
  if_neg h

end Chars

theorem hasArgument_typeArgument (type : String) :
    HasArgument type (String.ofList (Chars.typeArgument type.toList)) := by
  by_cases hlast : type.toList.getLast? = some '>'
  · obtain ⟨cs, hcs⟩ := List.getLast?_eq_some_iff.mp hlast
    by_cases hopen : '<' ∈ cs
    · obtain ⟨front, inner, rfl, hfront⟩ := List.eq_append_cons_of_mem hopen
      have htype : type = String.ofList front ++ "<" ++ String.ofList inner ++ ">" :=
        String.toList_inj.mp (by simp [hcs])
      rw [hcs, Chars.typeArgument_generic hfront, htype]
      exact .generic (by rwa [String.toList_ofList])
    · have htype : type = String.ofList cs ++ ">" := String.toList_inj.mp (by simp [hcs])
      rw [hcs, Chars.typeArgument_unopened hopen, htype]
      exact .unopened (by rwa [String.toList_ofList])
  · rw [Chars.typeArgument_plain hlast, String.ofList_toList]
    exact .plain hlast

theorem hasArgument_iff {type argument : String} :
    HasArgument type argument ↔ argument = String.ofList (Chars.typeArgument type.toList) := by
  constructor
  · rintro (first | unopened | last)
    · rename_i front
      have htype : (front ++ "<" ++ argument ++ ">").toList =
          front.toList ++ '<' :: argument.toList ++ ['>'] := by simp
      rw [htype, Chars.typeArgument_generic first, String.ofList_toList]
    · have htype : (argument ++ ">").toList = argument.toList ++ ['>'] := by simp
      rw [htype, Chars.typeArgument_unopened unopened, String.ofList_toList]
    · rw [Chars.typeArgument_plain last, String.ofList_toList]
  · rintro rfl
    exact hasArgument_typeArgument type

theorem compositionTarget?_eq {type argument : String} (h : HasArgument type argument) :
    compositionTarget? type =
      if isEntityReference type = true ∧ argument ≠ "" then some argument else none := by
  obtain rfl := hasArgument_iff.mp h
  rw [compositionTarget?]
  exact if_congr (by simp) rfl rfl

/-! ## Arguments of blanks -/

/-- The type ends in brackets with a space between them, and there is none before that opens. -/
def HasSpacedBrackets (type : String) : Prop :=
  ∃ front : String, '<' ∉ front.toList ∧ type = front ++ "< >"

theorem spacedBrackets_eq (front : String) : front ++ "<" ++ " " ++ ">" = front ++ "< >" := by
  simp only [String.append_assoc]
  rfl

theorem HasSpacedBrackets.hasArgument {type : String} (h : HasSpacedBrackets type) :
    HasArgument type " " := by
  obtain ⟨front, hfront, rfl⟩ := h
  rw [← spacedBrackets_eq]
  exact .generic hfront

theorem IsMemberText.isBlank_eq_false {s front rest : String} (h : IsMemberText s)
    (hs : s = front ++ rest) (hne : front ≠ "") : Text.isBlank front = false := by
  obtain ⟨ws, hrest, hwords, rfl⟩ := h
  obtain ⟨w, ws, rfl⟩ := List.exists_cons_of_ne_nil hrest.ne_nil
  have hfront : front.toList ≠ [] := by simpa using hne
  obtain ⟨c, cs, hcs⟩ := List.exists_cons_of_ne_nil hfront
  have hc := Text.isBlank_head_unwords (hwords w List.mem_cons_self) ws c
  rw [hs, String.toList_append, hcs] at hc
  rw [Text.isBlank, hcs, List.all_cons, hc rfl, Bool.false_and]

theorem IsMemberText.eq_space {s front inner rest : String} (h : IsMemberText s)
    (hspaced : Text.IsSpaced s) (hs : s = front ++ inner ++ rest) (hne : inner ≠ "")
    (hblank : Text.isBlank inner = true) : inner = " " := by
  obtain ⟨ws, -, hwords, rfl⟩ := h
  have hparts : (Text.unwords ws).toList = front.toList ++ inner.toList ++ rest.toList := by
    rw [hs, String.toList_append, String.toList_append]
  have hchain : inner.toList.IsChain fun c d => isBlank c = true → isBlank d = false := by
    have hjoined := Text.isChain_unwords hwords
    rw [hparts] at hjoined
    exact hjoined.left_of_append.right_of_append
  have hall : ∀ c ∈ inner.toList, isBlank c = true := List.all_eq_true.mp hblank
  obtain ⟨c, hc⟩ := Chars.eq_singleton_of_isChain (by simpa using hne) hall hchain
  rcases hspaced c (by simp [hparts, hc]) with rfl | hword
  · exact String.toList_inj.mp hc
  · rw [hall c (by simp [hc])] at hword
    cases hword

/-- Only spaced brackets have a blank argument that is not empty. -/
theorem isBlank_argument_iff {type argument : String} (h : IsMemberText type)
    (hspaced : Text.IsSpaced type) (ha : HasArgument type argument) :
    argument ≠ "" ∧ Text.isBlank argument = true ↔ HasSpacedBrackets type := by
  constructor
  · rintro ⟨hne, hblank⟩
    cases ha with
    | @generic front _ first =>
      obtain rfl := h.eq_space hspaced rfl hne hblank
      exact ⟨front, first, spacedBrackets_eq front⟩
    | unopened =>
      rw [h.isBlank_eq_false rfl hne] at hblank
      cases hblank
    | plain =>
      rw [h.isBlank_eq_false String.append_empty.symm hne] at hblank
      cases hblank
  · intro hbrackets
    obtain rfl := (hasArgument_iff.mp ha).trans (hasArgument_iff.mp hbrackets.hasArgument).symm
    exact ⟨by decide, by decide⟩

/-- How many words the brackets of an empty argument are decides whether it is taken for one. -/
theorem compositionTarget?_brackets {front : String} (h : '<' ∉ front.toList) :
    compositionTarget? (front ++ "<>") = none ∧
      (isEntityReference (front ++ "< >") = true →
        compositionTarget? (front ++ "< >") = some " ") := by
  have hclosed : front ++ "<" ++ "" ++ ">" = front ++ "<>" := by
    simp only [String.append_assoc]
    rfl
  have hempty : HasArgument (front ++ "<>") "" := by
    rw [← hclosed]
    exact .generic h
  have hspace : HasArgument (front ++ "< >") " " := HasSpacedBrackets.hasArgument ⟨front, h, rfl⟩
  constructor
  · rw [compositionTarget?_eq hempty, if_neg (by simp)]
  · intro href
    rw [compositionTarget?_eq hspace, if_pos ⟨href, by decide⟩]

/-! ## Fields of a stream -/

namespace Occurrence

/-- The line stands among the fields of an open entity, and the field is read off it. -/
structure Declares (o : Occurrence) (owner : String) (f : Field) : Prop where
  entity : LookBack.entity? o.before = some owner
  inFields : LookBack.members? o.before = some .fields
  accepted : ∃ text, Record.ofLine o.line = .content text ∧ Field.ofLine? text = some f

/-- Among the relations of the line there is the composition of the argument, if the type refers to
an entity and the argument is not blank, and there is no other. -/
def ComposesArgument (o : Occurrence) (owner : String) (f : Field) : Prop :=
  ∀ argument, HasArgument f.type argument →
    o.relations =
      if isEntityReference f.type = true ∧ Text.isBlank argument = false then
        [⟨.composition, owner, argument⟩]
      else []

variable {o : Occurrence} {owner argument : String} {f : Field}

theorem Declares.relations_eq (h : o.Declares owner f) :
    o.relations = (f.target?.map fun target => ⟨.composition, owner, target⟩).toList := by
  obtain ⟨text, hrecord, hfield⟩ := h.accepted
  have hblank : ¬ Text.isBlank o.line = true := by
    intro hb
    rw [Record.ofLine_of_isBlank hb] at hrecord
    cases hrecord
    cases hfield
  have heffect : o.effect = Cursor.memberEffect owner text .fields := by
    rw [effect, Cursor.effect, hrecord]
    simp only [if_neg hblank]
    change (LookBack.cursor o.before).contentEffect text = _
    rw [LookBack.cursor, h.entity, h.inFields]
    rfl
  rw [Occurrence.relations_eq, heffect]
  simp only [Cursor.memberEffect, hfield]
  rfl

theorem Declares.relations_eq_argument (h : o.Declares owner f)
    (ha : HasArgument f.type argument) :
    o.relations =
      if isEntityReference f.type = true ∧ argument ≠ "" then
        [⟨.composition, owner, argument⟩]
      else [] := by
  rw [h.relations_eq, Field.target?, compositionTarget?_eq ha]
  split_ifs <;> rfl

theorem Declares.isBlank_argument_iff (h : o.Declares owner f)
    (ha : HasArgument f.type argument) :
    argument ≠ "" ∧ Text.isBlank argument = true ↔ HasSpacedBrackets f.type := by
  obtain ⟨text, -, hfield⟩ := h.accepted
  exact ClassDiagram.isBlank_argument_iff (Field.isRegular_of_ofLine? hfield).type
    (Field.isOfWords hfield).2.isSpaced ha

theorem Declares.composesArgument_iff (h : o.Declares owner f) :
    o.ComposesArgument owner f ↔
      ¬ (isEntityReference f.type = true ∧ HasSpacedBrackets f.type) := by
  constructor
  · rintro hcomposes ⟨href, hbrackets⟩
    have hmeant := hcomposes " " hbrackets.hasArgument
    rw [h.relations_eq_argument hbrackets.hasArgument, if_pos ⟨href, by decide⟩,
      if_neg (by simp [Text.isBlank_space])] at hmeant
    cases hmeant
  · intro hbrackets argument ha
    rw [h.relations_eq_argument ha]
    refine if_congr (and_congr_right fun href => ⟨fun hne => ?_, ?_⟩) rfl rfl
    · rw [← Bool.not_eq_true]
      exact fun hblank => hbrackets ⟨href, (h.isBlank_argument_iff ha).mp ⟨hne, hblank⟩⟩
    · rintro hblank rfl
      cases hblank

theorem Declares.exists_isBlank_target_iff (h : o.Declares owner f) :
    (∃ r ∈ o.relations, Text.isBlank r.target = true) ↔
      isEntityReference f.type = true ∧ HasSpacedBrackets f.type := by
  constructor
  · rintro ⟨r, hr, hblank⟩
    have ha := hasArgument_typeArgument f.type
    rw [h.relations_eq_argument ha] at hr
    split_ifs at hr with hcond
    · obtain rfl := List.mem_singleton.mp hr
      exact ⟨hcond.1, (h.isBlank_argument_iff ha).mp ⟨hcond.2, hblank⟩⟩
    · cases hr
  · rintro ⟨href, hbrackets⟩
    rw [h.relations_eq_argument hbrackets.hasArgument, if_pos ⟨href, by decide⟩]
    exact ⟨_, List.mem_singleton_self _, Text.isBlank_space⟩

end Occurrence

/-- Every field of a stream whose type refers to an entity leads to one composition, with the
argument of the type, unless the argument is empty, and no other field leads to any. A blank
argument leads to none either, and no target is blank, exactly where the type does not end in
brackets with a space between them. Without that space the same brackets have an empty argument. -/
theorem fields_compose_arguments (lines : List String) :
    (Survey.ofLines lines).relations = (occurrences lines).flatMap Occurrence.relations ∧
    (∀ o ∈ occurrences lines, ∀ (owner : String) (f : Field), o.Declares owner f →
      (∃! argument, HasArgument f.type argument) ∧
      (∀ argument, HasArgument f.type argument → o.relations =
        if isEntityReference f.type = true ∧ argument ≠ "" then
          [⟨.composition, owner, argument⟩]
        else []) ∧
      (o.ComposesArgument owner f ↔
        ¬ (isEntityReference f.type = true ∧ HasSpacedBrackets f.type)) ∧
      ((∃ r ∈ o.relations, Text.isBlank r.target = true) ↔
        isEntityReference f.type = true ∧ HasSpacedBrackets f.type)) ∧
    ∀ front : String, '<' ∉ front.toList →
      compositionTarget? (front ++ "<>") = none ∧
      (isEntityReference (front ++ "< >") = true →
        compositionTarget? (front ++ "< >") = some " ") := by
  refine ⟨Survey.relations_eq_flatMap lines, fun o _ owner f h => ⟨?_, ?_, ?_, ?_⟩,
    fun front hfront => compositionTarget?_brackets hfront⟩
  · exact ⟨_, hasArgument_typeArgument f.type, fun _ ha => hasArgument_iff.mp ha⟩
  · exact fun argument ha => h.relations_eq_argument ha
  · exact h.composesArgument_iff
  · exact h.exists_isBlank_target_iff

/-- A field with a list of boxes, and the two ways to write a box of nothing. -/
theorem boxes_composed :
    (Occurrence.mk ["Class: a.A", "Fields:"] "- final List<Box<B, C>> bs").Declares "A"
        ⟨⟨.package, [.final]⟩, "List<Box<B, C>>", "bs"⟩ ∧
      HasArgument "List<Box<B, C>>" "Box<B, C>" ∧
      Occurrence.relations ⟨["Class: a.A", "Fields:"], "- final List<Box<B, C>> bs"⟩ =
        [⟨.composition, "A", "Box<B, C>"⟩] ∧
      '<' ∉ "Box".toList ∧ isEntityReference ("Box" ++ "< >") = true ∧
      compositionTarget? "Box<>" = none ∧ compositionTarget? "Box< >" = some " " := by
  obtain ⟨-, hfields, hbrackets⟩ :=
    fields_compose_arguments ["Class: a.A", "Fields:", "- final List<Box<B, C>> bs"]
  have hdeclares : (Occurrence.mk ["Class: a.A", "Fields:"] "- final List<Box<B, C>> bs").Declares
      "A" ⟨⟨.package, [.final]⟩, "List<Box<B, C>>", "bs"⟩ :=
    ⟨by decide, by decide, "- final List<Box<B, C>> bs", by decide +kernel, by decide +kernel⟩
  have hargument : HasArgument "List<Box<B, C>>" "Box<B, C>" := hasArgument_iff.mpr (by decide)
  obtain ⟨-, hrelations, -⟩ :=
    hfields _ (mem_occurrences.mpr ⟨[], rfl⟩) "A" _ hdeclares
  obtain ⟨hnone, hspace⟩ := hbrackets "Box" (by decide)
  exact ⟨hdeclares, hargument, hrelations "Box<B, C>" hargument, by decide, by decide, hnone,
    hspace (by decide)⟩

/-- A box whose brackets are words of their own. -/
theorem not_forall_composesArgument :
    ¬ ∀ lines : List String, ∀ o ∈ occurrences lines, ∀ (owner : String) (f : Field),
      o.Declares owner f → o.ComposesArgument owner f := by
  intro h
  have hdeclares : Occurrence.Declares ⟨["Class: A", "Fields:"], "- Box< > b"⟩ "A"
      ⟨⟨.package, []⟩, "Box< >", "b"⟩ :=
    ⟨by decide, by decide, "- Box< > b", by decide +kernel, by decide +kernel⟩
  have hcomposes := h ["Class: A", "Fields:", "- Box< > b"] _
    (mem_occurrences.mpr ⟨[], rfl⟩) "A" _ hdeclares
  exact hdeclares.composesArgument_iff.mp hcomposes
    ⟨by decide, "Box", by decide, by decide⟩

end ClassDiagram
