import ClassDiagram.Proofs.Drawing.Diagram
import ClassDiagram.Proofs.Scan.Headings
import ClassDiagram.Proofs.Scan.Sections

/-! # Sections that change places

The sections of an entity fill one block, each with members of its own, and a diagram shows the
order of the sections as the order of these members and of the relations. Two sections in a row can
change places: their members do so in the block, their relations among the relations and their
defects among the defects, and everything else stays where it is.
-/

namespace ClassDiagram

theorem Block.exists_foldl_extend (es : List Event) :
    ∃ (ms : List Member) (cs : List Block), ∀ (bs : List Block) (b : Block),
      es.foldl extend (bs ++ [b]) = bs ++ { b with members := b.members ++ ms } :: cs := by
  induction es using List.reverseRecOn with
  | nil => exact ⟨[], [], by simp⟩
  | append_singleton es e ih =>
    obtain ⟨ms, cs, h⟩ := ih
    cases e with
    | opened kind name =>
      refine ⟨ms, cs ++ [⟨kind, name, []⟩], fun bs b => ?_⟩
      rw [List.foldl_append, h]
      simp [extend]
    | member m =>
      -- it goes to the last block, which is `b` as long as no other one has been opened
      rcases List.eq_nil_or_concat' cs with rfl | ⟨cs, c, rfl⟩
      · refine ⟨ms ++ [m], [], fun bs b => ?_⟩
        rw [List.foldl_append, h, ← List.append_assoc]
        exact pushLast_append_singleton m bs _
      · refine ⟨ms, cs ++ [c.push m], fun bs b => ?_⟩
        rw [List.foldl_append, h, ← List.cons_append, ← List.append_assoc]
        exact (pushLast_append_singleton m _ c).trans (List.append_assoc _ _ _)
    | closed =>
      refine ⟨ms, cs, fun bs b => ?_⟩
      rw [List.foldl_append, h]
      rfl

theorem Cursor.exists_foldl_extend_scan (c : Cursor) (ls : List NumberedLine) :
    ∃ (ms : List Member) (cs : List Block),
      (c.entity? = none → ms = [] ∧
        ∀ bs, (Finding.events (c.scan ls)).foldl Block.extend bs = bs ++ cs) ∧
      (c.entity? ≠ none → ∀ bs b, (Finding.events (c.scan ls)).foldl Block.extend (bs ++ [b]) =
        bs ++ { b with members := b.members ++ ms } :: cs) := by
  by_cases he : c.entity? = none
  · have hevents := events_scan_eq_flatMap he ls
    generalize Block.ofEvents (Finding.events (c.scan ls)) = cs at hevents
    refine ⟨[], cs, fun _ => ⟨rfl, fun bs => ?_⟩, fun hne => absurd he hne⟩
    rw [hevents, Block.foldl_extend_flatMap_events]
  · obtain ⟨ms, cs, h⟩ := Block.exists_foldl_extend (Finding.events (c.scan ls))
    exact ⟨ms, cs, fun hnone => absurd hnone he, fun _ => h⟩

/-- The diagram of a stream with two sections in a row. It begins with the diagram of the lines
before them, the members of both go to the block of the entity that is open there, and what the
lines behind them contribute stands at the end: members of the same block, more blocks, relations
and defects. -/
structure ComeInOrder (before first second after : List String) (rest : Contribution)
    (more : List Block) : Prop where
  outside : LookBack.entity? before = none →
    (Contribution.ofSection none first).members = [] ∧
    (Contribution.ofSection none second).members = [] ∧ rest.members = [] ∧
    (Diagram.ofLines (before ++ first ++ second ++ after)).blocks =
      (Diagram.ofLines before).blocks ++ more
  inside : ∀ owner, LookBack.entity? before = some owner →
    ∃ bs b, (Diagram.ofLines before).blocks = bs ++ [b] ∧ b.name = owner ∧
      (Diagram.ofLines (before ++ first ++ second ++ after)).blocks =
        bs ++ { b with members := b.members ++
          (Contribution.ofSection (some owner) first).members ++
          (Contribution.ofSection (some owner) second).members ++ rest.members } :: more
  relations : (Survey.ofLines (before ++ first ++ second ++ after)).relations =
    (Survey.ofLines before).relations ++
      (Contribution.ofSection (LookBack.entity? before) first).relations ++
      (Contribution.ofSection (LookBack.entity? before) second).relations ++ rest.relations
  defects : (Survey.ofLines (before ++ first ++ second ++ after)).defects =
    (Survey.ofLines before).defects ++
      (Contribution.ofSection (LookBack.entity? before) first).defects.map
        (.moved before.length) ++
      (Contribution.ofSection (LookBack.entity? before) second).defects.map
        (.moved (before.length + first.length)) ++ rest.defects

section

variable {before first second after : List String}

/-- The blocks of the lines before the sections take in the members of the one and of the other,
and then whatever comes behind. -/
theorem blocks_sections (before : List String) (hfirst : isSection first = true)
    (hsecond : isSection second = true) (hafter : beginsWithMark after = true) :
    (Diagram.ofLines (before ++ first ++ second ++ after)).blocks =
      (Finding.events (remainderFindings (LookBack.entity? before)
        (before.length + first.length + second.length) after)).foldl Block.extend
        ((((Contribution.ofSection (LookBack.entity? before) first).members ++
            (Contribution.ofSection (LookBack.entity? before) second).members).map
          Event.member).foldl Block.extend (Diagram.ofLines before).blocks) := by
  have hbefore : (Diagram.ofLines before).blocks =
      Block.gather (Finding.events (lineFindings before)) :=
    blocks_eq_openBlocks before
  rw [Diagram.ofLines, Survey.ofEvents_eq_gather, Survey.events_ofLines,
    scan_sections before hfirst hsecond hafter, hbefore]
  simp only [Finding.events_append, Finding.events_map_renumber,
    (Contribution.events_sectionFindings hfirst _).1,
    (Contribution.events_sectionFindings hsecond _).1, Block.gather_append, List.map_append,
    List.foldl_append]

/-- What the lines behind two sections contribute does not depend on these, but for the number of
their lines. -/
theorem exists_comeInOrder (before : List String) (hafter : beginsWithMark after = true) (n : Nat) :
    ∃ (rest : Contribution) (more : List Block), ∀ first second, isSection first = true →
      isSection second = true → before.length + first.length + second.length = n →
      ComeInOrder before first second after rest more := by
  obtain ⟨ms, cs, hnone, hsome⟩ := Cursor.exists_foldl_extend_scan
    (Cursor.mk (LookBack.entity? before) none) (numberedBehind n after)
  rw [← remainderFindings] at hnone hsome
  -- in either order of the sections as many lines stand before the rest, so its numbers stay
  refine ⟨⟨ms, Finding.relations (remainderFindings (LookBack.entity? before) n after),
    Finding.defects (remainderFindings (LookBack.entity? before) n after)⟩, cs, ?_⟩
  rintro first second hfirst hsecond rfl
  have hblocks := blocks_sections before hfirst hsecond hafter
  have hscan := scan_sections before hfirst hsecond hafter
  constructor
  · intro he
    have hm := (Contribution.events_sectionFindings hfirst none).2 rfl
    have hm' := (Contribution.events_sectionFindings hsecond none).2 rfl
    refine ⟨hm, hm', (hnone he).1, ?_⟩
    rw [hblocks, (hnone he).2, he, hm, hm']
    rfl
  · intro owner he
    obtain ⟨bs, b, hbs, hname⟩ := exists_openBlocks_eq he
    have hbefore : (Diagram.ofLines before).blocks = bs ++ [b] :=
      (blocks_eq_openBlocks before).trans hbs
    refine ⟨bs, b, hbefore, hname, ?_⟩
    rw [hblocks, hbefore, Block.foldl_extend_members, hsome (by simp [he]), he]
    simp only [List.append_assoc]
  · rw [Survey.relations_ofLines, hscan, relations_eq_lineFindings]
    simp only [Finding.relations_append, Finding.relations_map_renumber]
    rfl
  · rw [Survey.defects_ofLines, hscan, defects_eq_lineFindings]
    simp only [Finding.defects_append, Finding.defects_map_renumber]
    rfl

theorem ComeInOrder.map_heading {rest : Contribution} {more : List Block}
    (h : ComeInOrder before first second after rest more) :
    (Diagram.ofLines (before ++ first ++ second ++ after)).blocks.map Block.heading =
      (Diagram.ofLines before).blocks.map Block.heading ++ more.map Block.heading := by
  cases he : LookBack.entity? before with
  | none =>
    obtain ⟨-, -, -, hblocks⟩ := h.outside he
    rw [hblocks, List.map_append]
  | some owner =>
    obtain ⟨bs, b, hbefore, -, hblocks⟩ := h.inside owner he
    rw [hblocks, hbefore]
    simp [Block.heading]

/-- Two sections in a row may come in either order, in an entity or outside of any, if the lines
behind them are none or begin with a header, a separator or a label. In both orders the stream has
the same blocks, by kind and name, and as many relations and defects. The members of the two
sections stand next to each other in the block of the open entity, and so do their relations and
their defects; they change places with the sections. All else is the same, with the number of its
line. -/
theorem sections_change_places (hfirst : isSection first = true) (hsecond : isSection second = true)
    (hafter : beginsWithMark after = true) :
    (∃ (rest : Contribution) (more : List Block),
      ComeInOrder before first second after rest more ∧
      ComeInOrder before second first after rest more) ∧
    (Diagram.ofLines (before ++ second ++ first ++ after)).blocks.map Block.heading =
      (Diagram.ofLines (before ++ first ++ second ++ after)).blocks.map Block.heading ∧
    (Survey.ofLines (before ++ second ++ first ++ after)).entityCount =
      (Survey.ofLines (before ++ first ++ second ++ after)).entityCount ∧
    (Survey.ofLines (before ++ second ++ first ++ after)).relations.length =
      (Survey.ofLines (before ++ first ++ second ++ after)).relations.length ∧
    (Survey.ofLines (before ++ second ++ first ++ after)).defects.length =
      (Survey.ofLines (before ++ first ++ second ++ after)).defects.length := by
  obtain ⟨rest, more, hrest⟩ := exists_comeInOrder before hafter
    (before.length + first.length + second.length)
  have horder := hrest first second hfirst hsecond rfl
  have hother := hrest second first hsecond hfirst (Nat.add_right_comm ..)
  have hheadings := hother.map_heading.trans horder.map_heading.symm
  refine ⟨⟨rest, more, horder, hother⟩, hheadings, ?_, ?_, ?_⟩
  · have hlength := congrArg List.length hheadings
    rw [List.length_map, List.length_map] at hlength
    rw [Survey.entityCount_eq, Survey.entityCount_eq]
    exact hlength
  · rw [hother.relations, horder.relations]
    simp only [List.length_append]
    omega
  · rw [hother.defects, horder.defects]
    simp only [List.length_append, List.length_map]
    omega

end

/-- Fields with a superclass and a line without a name, and methods with a line without a
signature. -/
theorem fields_behind_methods :
    isSection ["Fields:", "- B b", "- int", "Extends: C"] = true ∧
    isSection [" Methods:", "", "- run()", "-"] = true ∧
    beginsWithMark ["", "----"] = true ∧
    LookBack.entity? ["Class: A"] = some "A" ∧
    Contribution.ofSection (some "A") ["Fields:", "- B b", "- int", "Extends: C"] =
      ⟨[.field ⟨⟨.package, []⟩, "B", "b"⟩],
        [⟨.composition, "A", "B"⟩, ⟨.inheritance, "A", "C"⟩],
        [⟨3, "- int", some "A", .incompleteField⟩]⟩ ∧
    Contribution.ofSection (some "A") [" Methods:", "", "- run()", "-"] =
      ⟨[.method ⟨⟨.package, []⟩, "run()"⟩], [], [⟨4, "-", some "A", .missingMethod⟩]⟩ ∧
    ∃ (rest : Contribution) (more : List Block),
      ComeInOrder ["Class: A"] ["Fields:", "- B b", "- int", "Extends: C"]
        [" Methods:", "", "- run()", "-"] ["", "----"] rest more ∧
      ComeInOrder ["Class: A"] [" Methods:", "", "- run()", "-"]
        ["Fields:", "- B b", "- int", "Extends: C"] ["", "----"] rest more := by
  have hfirst : isSection ["Fields:", "- B b", "- int", "Extends: C"] = true := by decide
  have hsecond : isSection [" Methods:", "", "- run()", "-"] = true := by decide
  have hafter : beginsWithMark ["", "----"] = true := by decide
  exact ⟨hfirst, hsecond, hafter, by decide, by decide, by decide,
    (sections_change_places hfirst hsecond hafter).1⟩

end ClassDiagram
