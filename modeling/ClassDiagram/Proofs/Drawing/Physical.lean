import ClassDiagram.Proofs.Drawing.Notation
import ClassDiagram.Proofs.Drawing.Sources
import ClassDiagram.Proofs.Ignoring.Rendering
import ClassDiagram.Proofs.Text.Lines

/-! # Lines that stay lines

No line of a drawn diagram is empty, holds a line feed or ends in a carriage return. Written to a
file with a line feed behind each of them, the lines are therefore the lines of the file.
-/

namespace ClassDiagram

namespace Text

/-- The text stands in a file as one line, and is found there as it is. -/
structure IsLine (s : String) : Prop where
  nonempty : s ≠ ""
  single : '\n' ∉ s.toList
  ended : s.toList.getLast? ≠ some '\r'

variable {s t : String} {ls : List String}

theorem lineFeed_notMem_append :
    '\n' ∉ (s ++ t).toList ↔ '\n' ∉ s.toList ∧ '\n' ∉ t.toList := by
  rw [String.toList_append, List.mem_append, not_or]

theorem IsLine.exists_getLast? (h : IsLine s) : ∃ c, s.toList.getLast? = some c := by
  rw [← Option.ne_none_iff_exists', ne_eq, List.getLast?_eq_none_iff, String.toList_eq_nil_iff]
  exact h.nonempty

theorem IsLine.append (ht : IsLine t) (hs : '\n' ∉ s.toList) : IsLine (s ++ t) := by
  obtain ⟨c, hc⟩ := ht.exists_getLast?
  have hlast : (s ++ t).toList.getLast? = some c := by
    rw [String.toList_append, List.getLast?_append, hc, Option.some_or]
  constructor
  · intro hempty
    rw [hempty] at hlast
    cases hlast
  · exact lineFeed_notMem_append.mpr ⟨hs, ht.single⟩
  · rw [hlast, ← hc]
    exact ht.ended

theorem IsSpaced.lineFeed_notMem (h : IsSpaced s) : '\n' ∉ s.toList := by
  intro hmem
  have hsmooth := h '\n' hmem
  revert hsmooth
  decide

theorem IsSpaced.isLine (h : IsSpaced s) (hne : s ≠ "") : IsLine s where
  nonempty := hne
  single := h.lineFeed_notMem
  ended hlast := by
    have hsmooth := h '\r' (List.mem_of_getLast? hlast)
    revert hsmooth
    decide

theorem IsTail.isLine {line : String} (h : IsTail line s) (hline : '\n' ∉ line.toList)
    (hne : s ≠ "") : IsLine s where
  nonempty := hne
  single hmem := hline (h.subset hmem)
  ended hlast := by
    have hblank := h.last '\r' hlast
    revert hblank
    decide

theorem lineFeed_notMem_of_mem_lines (h : t ∈ lines s) : '\n' ∉ t.toList := by
  obtain ⟨cs, hcs, rfl⟩ := List.mem_map.mp h
  rw [String.toList_ofList]
  have hpiece : ∀ p ∈ Chars.splitWhere (· == '\n') s.toList, '\n' ∉ p := by
    intro p hp hmem
    have hfeed := (Chars.of_mem_splitWhere hp hmem).2
    simp at hfeed
  rcases List.mem_append.mp hcs with hended | hlast
  · obtain ⟨p, hp, rfl⟩ := List.mem_map.mp hended
    have hpart : Chars.dropCarriageReturn p ⊆ p := by
      unfold Chars.dropCarriageReturn
      split_ifs
      · exact List.dropLast_subset p
      · exact List.Subset.refl p
    exact fun hmem => hpiece p (List.dropLast_subset _ hp) (hpart hmem)
  · rw [List.mem_filter, Option.mem_toList] at hlast
    exact hpiece cs (List.mem_of_getLast? hlast.1)

/-- Lines with a line feed behind each of them. -/
def withLineFeeds (ls : List String) : String :=
  String.join (ls.map (· ++ "\n"))

theorem withLineFeeds_eq_unlines (ls : List String) : withLineFeeds ls = unlines (ls ++ [""]) := by
  induction ls with
  | nil => rfl
  | cons l ls ih =>
    have hne : ls ++ [""] ≠ [] := List.append_ne_nil_of_right_ne_nil ls (List.cons_ne_nil _ _)
    rw [withLineFeeds, List.map_cons, String.join_cons, ← withLineFeeds, ih, List.cons_append,
      unlines, unlines, String.intercalate_cons_of_ne_nil hne]

theorem IsLine.isClosed (h : IsLine s) : IsClosed s := by
  obtain ⟨c, hc⟩ := h.exists_getLast?
  refine ⟨c, ?_, hc⟩
  rintro rfl
  exact h.single (List.mem_of_getLast? hc)

theorem terminated_unlines (h : ∀ l ∈ ls, IsLine l) :
    terminated (unlines ls) = withLineFeeds ls := by
  rw [withLineFeeds_eq_unlines]
  rcases List.eq_nil_or_concat' ls with rfl | ⟨rest, last, rfl⟩
  · rfl
  · have hclosed : IsClosed (unlines (rest ++ [last])) :=
      isClosed_unlines (h last (by simp)).isClosed rest
    have hlines : rest ++ [last] ≠ [] := by simp
    rw [terminated, endsInLineFeed_of_isClosed hclosed, if_neg, unlines, unlines,
      String.intercalate_append_of_ne_nil hlines (List.cons_ne_nil _ _),
      String.intercalate_singleton, String.append_empty]
    simpa using ne_empty_of_isClosed hclosed

theorem lines_withLineFeeds (h : ∀ l ∈ ls, IsLine l) : lines (withLineFeeds ls) = ls := by
  have hpieces : Chars.splitWhere (· == '\n') (withLineFeeds ls).toList =
      ls.map String.toList ++ [[]] := by
    rw [Chars.splitWhere_eq_splitOnP, ← List.splitOn_eq_splitOnP, withLineFeeds_eq_unlines,
      unlines, String.toList_intercalate, List.map_append]
    refine List.splitOn_intercalate '\n' ?_ (by simp)
    intro p hp
    rcases List.mem_append.mp hp with hline | hlast
    · obtain ⟨l, hl, rfl⟩ := List.mem_map.mp hline
      exact (h l hl).single
    · rw [List.mem_singleton.mp hlast]
      exact List.not_mem_nil
  have hkept : ∀ l ∈ ls, String.ofList (Chars.dropCarriageReturn l.toList) = l := by
    intro l hl
    rw [Chars.dropCarriageReturn, if_neg (h l hl).ended, String.ofList_toList]
  rw [lines, Chars.lines, hpieces, Chars.closeLines_concat, if_pos rfl, List.append_nil,
    List.map_map, List.map_map]
  exact (List.map_congr_left hkept).trans (List.map_id ls)

end Text

/-- No line of the diagram is broken when its parts are written into it. -/
structure Diagram.IsUnbroken (d : Diagram) : Prop where
  names : ∀ b ∈ d.blocks, Text.IsLine b.name
  members : ∀ b ∈ d.blocks, ∀ m ∈ b.members, m.IsRead
  owners : ∀ r ∈ d.relations, Text.IsLine r.owner
  targets : ∀ r ∈ d.relations, r.kind ≠ .composition → '\n' ∉ r.target.toList
  held : ∀ r ∈ d.relations, r.kind = .composition → Text.IsLine r.target

theorem Diagram.IsUnbroken.lineFeed_notMem_target {d : Diagram} (hd : d.IsUnbroken)
    {r : Relation} (h : r ∈ d.relations) : '\n' ∉ r.target.toList := by
  by_cases hk : r.kind = .composition
  · exact (hd.held r h hk).single
  · exact hd.targets r h hk

theorem Diagram.isUnbroken_ofLines {lines : List String}
    (h : ∀ line ∈ lines, '\n' ∉ line.toList) : (ofLines lines).IsUnbroken := by
  have hname : ∀ b ∈ (ofLines lines).blocks, Text.IsLine b.name := by
    intro b hb
    obtain ⟨hne, line, hline, htail⟩ := exists_isTail_name hb
    exact htail.isLine (h line hline) hne
  refine ⟨hname, fun b hb m => isRead_of_mem_members hb, ?_, ?_, ?_⟩
  · intro r hr
    obtain ⟨b, hb, hown⟩ := exists_block_of_mem_relations hr
    rw [← hown]
    exact hname b hb
  · intro r hr hk hmem
    obtain ⟨line, hline, c, hrelates⟩ := exists_relates_of_mem_relations hr
    exact h line hline (hrelates.target_subset hk hmem)
  · intro r hr hk
    obtain ⟨line, hline, c, hrelates⟩ := exists_relates_of_mem_relations hr
    obtain ⟨hne, hspaced⟩ := hrelates.isSpaced_target hk
    exact hspaced.isLine hne

namespace Member

variable {m : Member} {marker? : Option String}

theorem IsRead.isLine_shown (hm : m.IsRead) (h : ∀ marker ∈ marker?, Text.IsSpaced marker) :
    Text.IsLine (m.shown marker?) := by
  refine (hm.isSpaced_shown h).isLine ?_
  obtain ⟨v, rest, hglyph⟩ := m.exists_shown_eq marker?
  intro hempty
  rw [hempty] at hglyph
  cases hglyph

end Member

namespace PlantUml

theorem isLine_of_mem_blockLines {b : Block} {l : String} (hname : Text.IsLine b.name)
    (hmembers : ∀ m ∈ b.members, m.IsRead) (h : l ∈ blockLines b) : Text.IsLine l := by
  have hbrace : Text.IsLine " \x7b" := ⟨by decide, by decide, by decide⟩
  have hkeyword (k : EntityKind) : '\n' ∉ (k.keyword ++ " ").toList := by
    cases k <;> decide
  rw [blockLines, List.mem_append, List.mem_cons, List.mem_map, List.mem_singleton] at h
  rcases h with (rfl | ⟨m, hm, rfl⟩) | rfl
  · exact hbrace.append (Text.lineFeed_notMem_append.mpr ⟨hkeyword b.kind, hname.single⟩)
  · have hmark : Text.IsSpaced abstractMarker := by decide
    rw [Member.memberLine_eq_shown]
    exact (hmembers m hm).isLine_shown fun marker hmarker => Option.some.inj hmarker ▸ hmark
  · exact ⟨by decide, by decide, by decide⟩

theorem isLine_relationLine {r : Relation} (howner : Text.IsLine r.owner)
    (htarget : r.kind ≠ .composition → '\n' ∉ r.target.toList)
    (hheld : r.kind = .composition → Text.IsLine r.target) : Text.IsLine (relationLine r) := by
  unfold relationLine
  cases hk : r.kind with
  | inheritance =>
    exact howner.append (Text.lineFeed_notMem_append.mpr ⟨htarget (by simp [hk]), by decide⟩)
  | realization =>
    exact howner.append (Text.lineFeed_notMem_append.mpr ⟨htarget (by simp [hk]), by decide⟩)
  | composition =>
    exact (hheld hk).append (Text.lineFeed_notMem_append.mpr ⟨howner.single, by decide⟩)

theorem isLine_of_mem_diagramLines {d : Diagram} (hd : d.IsUnbroken) {l : String}
    (h : l ∈ diagramLines d) : Text.IsLine l := by
  simp only [diagramLines, List.mem_append, List.mem_singleton] at h
  rcases h with ((rfl | hblock) | hrelation) | rfl
  · exact ⟨by decide, by decide, by decide⟩
  · obtain ⟨b, hb, hl⟩ := List.mem_flatMap.mp hblock
    exact isLine_of_mem_blockLines (hd.names b hb) (hd.members b hb) hl
  · obtain ⟨r, hr, rfl⟩ := List.mem_map.mp hrelation
    exact isLine_relationLine (hd.owners r hr) (hd.targets r hr) (hd.held r hr)
  · exact ⟨by decide, by decide, by decide⟩

end PlantUml

namespace Yuml

theorem isLine_blockLine {b : Block} (hname : Text.IsLine b.name)
    (hmembers : ∀ m ∈ b.members, m.IsRead) : Text.IsLine (blockLine b) := by
  have hbracket : Text.IsLine "]" := ⟨by decide, by decide, by decide⟩
  have hopened : '\n' ∉ ("[" ++ b.name).toList :=
    Text.lineFeed_notMem_append.mpr ⟨by decide, hname.single⟩
  have hlist : '\n' ∉ (";".intercalate (b.members.map memberText)).toList := by
    intro hmem
    rcases Text.mem_intercalate hmem with hsep | ⟨w, hw, hfeed⟩
    · revert hsep
      decide
    · obtain ⟨m, hm, rfl⟩ := List.mem_map.mp hw
      rw [Member.memberText_eq_shown] at hfeed
      exact ((hmembers m hm).isLine_shown (by simp)).single hfeed
  unfold blockLine
  split_ifs
  · exact hbracket.append hopened
  · exact hbracket.append (Text.lineFeed_notMem_append.mpr
      ⟨Text.lineFeed_notMem_append.mpr ⟨hopened, by decide⟩, hlist⟩)

theorem isLine_relationLine {r : Relation} (howner : '\n' ∉ r.owner.toList)
    (htarget : '\n' ∉ r.target.toList) : Text.IsLine (relationLine r) := by
  have hbracket : Text.IsLine "]" := ⟨by decide, by decide, by decide⟩
  have harrow (k : RelationKind) : '\n' ∉ (arrow k).toList := by
    cases k <;> decide
  refine hbracket.append ?_
  simp only [Text.lineFeed_notMem_append]
  exact ⟨⟨⟨⟨⟨by decide, howner⟩, by decide⟩, harrow r.kind⟩, by decide⟩, htarget⟩

theorem isLine_of_mem_diagramLines {d : Diagram} (hd : d.IsUnbroken) {l : String}
    (h : l ∈ diagramLines d) : Text.IsLine l := by
  rcases List.mem_append.mp h with hblock | hrelation
  · obtain ⟨b, hb, rfl⟩ := List.mem_map.mp hblock
    exact isLine_blockLine (hd.names b hb) (hd.members b hb)
  · obtain ⟨r, hr, rfl⟩ := List.mem_map.mp hrelation
    exact isLine_relationLine (hd.owners r hr).single (hd.lineFeed_notMem_target hr)

end Yuml

/-- The lines of the rendering are lines of any file that holds its text. -/
structure Rendering.IsPhysical (r : Rendering) : Prop where
  lines : ∀ l ∈ r.lines, Text.IsLine l
  stored : Text.terminated r.text = Text.withLineFeeds r.lines
  read : Text.lines (Text.terminated r.text) = r.lines

theorem mem_of_mem_withoutEntities {ignored lines : List String} {line : String}
    (h : line ∈ withoutEntities ignored lines) : line ∈ lines := by
  rw [withoutEntities_eq_map] at h
  obtain ⟨o, ho, rfl⟩ := List.mem_map.mp h
  rw [← map_line_occurrences lines]
  exact List.mem_map_of_mem (mem_remaining.mp ho).1

theorem Rendering.IsPhysical.of_lines {r : Rendering} (h : ∀ l ∈ r.lines, Text.IsLine l) :
    r.IsPhysical where
  lines := h
  stored := Text.terminated_unlines h
  read := by rw [text, Text.terminated_unlines h, Text.lines_withLineFeeds h]

/-- Whatever the text of the records and whichever entities are ignored, both notations draw lines
that are found again in the file which they are written to. -/
theorem drawn_lines_are_physical (text : String) (ignored : List String) :
    ∃ p y : Rendering,
      Registry.standard.renderWithout "plantuml" ignored (Text.lines text) = .ok p ∧
      Registry.standard.renderWithout "yuml" ignored (Text.lines text) = .ok y ∧
      p.IsPhysical ∧ y.IsPhysical := by
  have hunbroken : (Diagram.ofLines (withoutEntities ignored (Text.lines text))).IsUnbroken :=
    Diagram.isUnbroken_ofLines fun line hline =>
      Text.lineFeed_notMem_of_mem_lines (mem_of_mem_withoutEntities hline)
  refine ⟨_, _, Registry.renderWithout_plantUml ignored _, Registry.renderWithout_yuml ignored _,
    .of_lines fun l hl => ?_, .of_lines fun l hl => ?_⟩
  · rw [PlantUml.render_eq] at hl
    exact PlantUml.isLine_of_mem_diagramLines hunbroken hl
  · rw [Yuml.render_eq] at hl
    exact Yuml.isLine_of_mem_diagramLines hunbroken hl

example : (Yuml.draw.render (Text.lines "Class: a\rb \r\r\n")).lines = ["[a\rb]"] := by
  decide

end ClassDiagram
