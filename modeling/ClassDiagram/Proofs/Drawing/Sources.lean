import ClassDiagram.Proofs.Drawing.Diagram
import ClassDiagram.Proofs.Member.Shown
import ClassDiagram.Proofs.Scan.EndPoints
import ClassDiagram.Proofs.Scan.Headings

/-! # Where the parts of a diagram come from

The text of a record is what stands at the end of its line, so a name holds no character that its
line does not hold and does not end in a blank. Blocks have their names from headers and their
members from content lines, and a relation is owned by a block.
-/

namespace ClassDiagram

/-- The text is made of characters of the line and does not end in a blank. -/
structure Text.IsTail (line s : String) : Prop where
  subset : s.toList ⊆ line.toList
  last : ∀ c, s.toList.getLast? = some c → ClassDiagram.isBlank c = false

theorem Text.IsTail.simpleName {line s : String} (h : IsTail line s) :
    IsTail line (simpleName s) := by
  obtain ⟨front, hfront⟩ := Chars.simpleName_isSuffix s.toList
  constructor
  · rw [ClassDiagram.simpleName, String.toList_ofList]
    exact List.Subset.trans (Chars.simpleName_isSuffix s.toList).subset h.subset
  · intro c hc
    rw [ClassDiagram.simpleName, String.toList_ofList] at hc
    refine h.last c ?_
    rw [← hfront, List.getLast?_append, hc, Option.some_or]

namespace Record

/-- The name that the record gives, or its content. -/
def text? : Record → Option String
  | header _ name => some name
  | parent name => some name
  | content text => some text
  | _ => none

theorem isSuffix_of_after? {label : String} {cs rest : List Char}
    (h : Chars.after? label cs = some rest) : rest <:+ cs :=
  ⟨label.toList, List.isPrefixOf?_eq_some_iff_append_eq.mp h⟩

variable {line text : String} {cs : List Char} {r : Record}

theorem exists_trim_of_header? (h : header? cs = some r) (ht : r.text? = some text) :
    ∃ rest, rest <:+ cs ∧ text.toList = Chars.trim rest := by
  obtain ⟨k, -, hk⟩ := List.exists_of_findSome?_eq_some h
  obtain ⟨rest, hrest, rfl⟩ := Option.map_eq_some_iff.mp hk
  obtain rfl := Option.some.inj ht
  exact ⟨rest, isSuffix_of_after? hrest, String.toList_ofList⟩

theorem exists_trim_of_parent? (h : parent? cs = some r) (ht : r.text? = some text) :
    ∃ rest, rest <:+ cs ∧ text.toList = Chars.trim rest := by
  obtain ⟨rest, hrest, rfl⟩ := Option.map_eq_some_iff.mp h
  obtain rfl := Option.some.inj ht
  exact ⟨rest, isSuffix_of_after? hrest, String.toList_ofList⟩

theorem text?_of_opener? (h : opener? cs = some r) : r.text? = none := by
  obtain ⟨s, -, hs⟩ := List.exists_of_findSome?_eq_some h
  obtain ⟨rest, -, rfl⟩ := Option.map_eq_some_iff.mp hs
  rfl

theorem text?_of_separator? (h : separator? cs = some r) : r.text? = none := by
  unfold separator? at h
  split_ifs at h
  obtain rfl := Option.some.inj h
  rfl

theorem exists_trim_of_text? (h : (ofLine line).text? = some text) :
    ∃ rest, rest <:+ Chars.trim line.toList ∧ text.toList = Chars.trim rest := by
  unfold ofLine ofTrimmed at h
  cases hr : header? (Chars.trim line.toList) <|> parent? (Chars.trim line.toList) <|>
      opener? (Chars.trim line.toList) <|> separator? (Chars.trim line.toList) with
  | none =>
    rw [hr] at h
    obtain rfl := Option.some.inj h
    exact ⟨_, List.suffix_refl _, by rw [String.toList_ofList, Chars.trim_trim]⟩
  | some r =>
    rw [hr] at h
    change r.text? = some text at h
    simp only [Option.orElse_eq_orElse, Option.orElse_eq_or, Option.or_eq_some_iff] at hr
    rcases hr with hheader | ⟨-, hparent | ⟨-, hopener | ⟨-, hseparator⟩⟩⟩
    · exact exists_trim_of_header? hheader h
    · exact exists_trim_of_parent? hparent h
    · rw [text?_of_opener? hopener] at h
      cases h
    · rw [text?_of_separator? hseparator] at h
      cases h

theorem isTail_of_text? (h : (ofLine line).text? = some text) : Text.IsTail line text := by
  obtain ⟨rest, hrest, htext⟩ := exists_trim_of_text? h
  constructor
  · rw [htext]
    exact ((Chars.trim_isInfix rest).trans
      (hrest.isInfix.trans (Chars.trim_isInfix line.toList))).subset
  · rw [htext]
    exact fun c => Chars.isBlank_of_getLast?_trim

end Record

theorem isTail_of_heading? {line name : String} {kind : EntityKind}
    (h : heading? line = some (kind, name)) : Text.IsTail line name := by
  unfold heading? at h
  cases hr : Record.ofLine line with
  | header k n =>
    simp only [hr, Option.some.injEq, Prod.mk.injEq] at h
    obtain ⟨-, rfl⟩ := h
    have htext : (Record.ofLine line).text? = some n := by rw [hr]; rfl
    exact (Record.isTail_of_text? htext).simpleName
  | _ =>
    rw [hr] at h
    cases h

theorem simpleName_stripBullet_subset (text : String) :
    (simpleName (stripBullet text)).toList ⊆ text.toList := by
  rw [simpleName, stripBullet, String.toList_ofList, String.toList_ofList]
  exact List.Subset.trans (Chars.simpleName_isSuffix _).subset (Chars.stripBullet_isInfix _).subset

theorem Chars.typeArgument_isInfix (cs : List Char) : typeArgument cs <:+: cs := by
  unfold typeArgument
  split_ifs
  · have hinner : cs.dropLast <:+: cs := (List.dropLast_prefix cs).isInfix
    exact ((List.drop_suffix 1 _).trans (List.dropWhile_suffix _)).isInfix.trans hinner
  · exact (List.dropLast_prefix cs).isInfix
  · exact List.infix_refl cs

theorem Field.isOfWords_target {line target : String} {f : Field} (h : ofLine? line = some f)
    (ht : f.target? = some target) : target ≠ "" ∧ Text.IsOfWords line target := by
  unfold target? compositionTarget? at ht
  split_ifs at ht with hcond
  rw [Bool.and_eq_true, Bool.not_eq_true', List.isEmpty_eq_false_iff] at hcond
  obtain rfl := Option.some.inj ht
  refine ⟨fun hempty => hcond.2 ?_, fun c hc => ?_⟩
  · rw [← String.toList_ofList (l := Chars.typeArgument f.type.toList), hempty, String.toList_empty]
  · rw [String.toList_ofList] at hc
    exact (isOfWords h).2 c ((Chars.typeArgument_isInfix _).subset hc)

namespace Cursor

variable {c : Cursor} {line : String} {r : Relation}

theorem Relates.target_subset (h : c.Relates line r) (hk : r.kind ≠ .composition) :
    r.target.toList ⊆ line.toList := by
  cases h with
  | parent entity record =>
    exact (Record.isTail_of_text? (by rw [record]; rfl)).simpleName.subset
  | interface entity members record =>
    exact List.Subset.trans (simpleName_stripBullet_subset _)
      (Record.isTail_of_text? (by rw [record]; rfl)).subset
  | field => exact absurd rfl hk

theorem Relates.isSpaced_target (h : c.Relates line r) (hk : r.kind = .composition) :
    r.target ≠ "" ∧ Text.IsSpaced r.target := by
  cases h with
  | parent => cases hk
  | interface => cases hk
  | field entity members record accepted held =>
    exact (Field.isOfWords_target accepted held).imp_right Text.IsOfWords.isSpaced

theorem member_notMem_closing (c : Cursor) (m : Member) :
    Event.member m ∉ Finding.events c.closing := by
  unfold closing
  split <;> simp [Finding.events, Finding.event?]

theorem member_notMem_ending (c : Cursor) (line : String) (m : Member) :
    Event.member m ∉ Finding.events (c.ending line) := by
  unfold ending
  split_ifs
  · exact c.member_notMem_closing m
  · exact List.not_mem_nil

theorem exists_isReadFrom_of_effect {m : Member} (h : (c.effect line).event? = some (.member m)) :
    ∃ text, Record.ofLine line = .content text ∧ m.IsReadFrom text := by
  have ho := c.outcome_effect line
  generalize c.effect line = e at ho h
  cases ho with
  | member entity inSection record inside =>
    refine ⟨_, record, ?_⟩
    cases inside with
    | constructor accepted =>
      cases h
      exact .constructor accepted
    | method accepted =>
      cases h
      exact .method accepted
    | field accepted =>
      cases h
      exact .field accepted
    | _ => cases h
  | _ => cases h

end Cursor

namespace Diagram

variable {lines : List String} {b : Block} {r : Relation}

theorem exists_isTail_name (h : b ∈ (ofLines lines).blocks) :
    b.name ≠ "" ∧ ∃ line ∈ lines, Text.IsTail line b.name := by
  have hheading := List.mem_map_of_mem (f := Block.heading) h
  change _ ∈ (Block.ofEvents (Survey.ofLines lines).events).map Block.heading at hheading
  rw [Survey.map_heading_blocks, List.mem_filter] at hheading
  obtain ⟨line, hline, hname⟩ := List.mem_filterMap.mp hheading.1
  exact ⟨of_decide_eq_true hheading.2, line, hline, isTail_of_heading? hname⟩

/-- A member of a block comes from a content line of the stream. -/
theorem exists_isReadFrom_of_mem_members (h : b ∈ (ofLines lines).blocks) {m : Member}
    (hm : m ∈ b.members) :
    ∃ line ∈ lines, ∃ text, Record.ofLine line = .content text ∧ m.IsReadFrom text := by
  have hevent : Event.member m ∈ (Survey.ofLines lines).events := by
    rw [Survey.events_eq_flatMap]
    refine List.mem_flatMap.mpr ⟨b, h, ?_⟩
    simp [Block.events, Block.opening, hm]
  rw [events_eq_lineFindings, List.mem_append] at hevent
  rcases hevent with hline | hclosing
  · rw [lineFindings, Finding.events, List.filterMap_flatMap, List.mem_flatMap] at hline
    obtain ⟨o, hmem, ho⟩ := hline
    change _ ∈ Finding.events (o.cursor.findings o.numbered) at ho
    rw [Cursor.findings_eq, Finding.events_append, Effect.events_findings, List.mem_append] at ho
    rcases ho with hending | heffect
    · exact absurd hending (o.cursor.member_notMem_ending o.line m)
    · obtain ⟨after, rfl⟩ := mem_occurrences.mp hmem
      exact ⟨o.line, by simp, Cursor.exists_isReadFrom_of_effect (Option.mem_toList.mp heffect)⟩
  · exact absurd hclosing ((LookBack.cursor lines).member_notMem_closing m)

theorem isRead_of_mem_members (h : b ∈ (ofLines lines).blocks) {m : Member}
    (hm : m ∈ b.members) : m.IsRead := by
  obtain ⟨-, -, text, -, hread⟩ := exists_isReadFrom_of_mem_members h hm
  exact ⟨text, hread⟩

theorem exists_occurrence_of_mem_relations (h : r ∈ (ofLines lines).relations) :
    ∃ o ∈ occurrences lines, r ∈ o.relations := by
  change r ∈ (Survey.ofLines lines).relations at h
  rwa [Survey.relations_eq_flatMap, List.mem_flatMap] at h

/-- A relation is owned by a block. -/
theorem exists_block_of_mem_relations (h : r ∈ (ofLines lines).relations) :
    ∃ b ∈ (ofLines lines).blocks, b.name = r.owner := by
  obtain ⟨o, ho, hr⟩ := exists_occurrence_of_mem_relations h
  obtain ⟨hentity, hne⟩ := Occurrence.owner_of_mem hr
  obtain ⟨kind, hheading⟩ := LookBack.exists_mem_headings hentity
  obtain ⟨after, hlines⟩ := mem_occurrences.mp ho
  have hmem : (kind, r.owner) ∈ (headings lines).filter fun h => h.2 ≠ "" := by
    rw [List.mem_filter, hlines, headings, List.filterMap_append, List.mem_append]
    exact ⟨.inl hheading, by simpa using hne⟩
  rw [← Survey.map_heading_blocks] at hmem
  obtain ⟨b, hb, hkey⟩ := List.mem_map.mp hmem
  exact ⟨b, hb, congrArg Prod.snd hkey⟩

theorem exists_relates_of_mem_relations (h : r ∈ (ofLines lines).relations) :
    ∃ line ∈ lines, ∃ c : Cursor, c.Relates line r := by
  obtain ⟨o, ho, hr⟩ := exists_occurrence_of_mem_relations h
  obtain ⟨after, hlines⟩ := mem_occurrences.mp ho
  exact ⟨o.line, by simp [hlines], o.cursor, Occurrence.relates_of_mem hr⟩

end Diagram

end ClassDiagram
