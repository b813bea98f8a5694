import Mathlib.Data.List.Infix
import ClassDiagram.Proofs.Drawing.Diagram
import ClassDiagram.Proofs.Scan.LineByLine

/-! # Growing diagrams

Lines that are added at the end of a stream take nothing back of what the lines before have come
to. Reports and relations are added behind the others, and so are blocks, except that the entity
which is still open goes on in the block it has.
-/

namespace ClassDiagram

/-- The same entity with more members at the end, or with none. -/
structure Block.GrowsTo (b c : Block) : Prop where
  kind : c.kind = b.kind
  name : c.name = b.name
  members : b.members <+: c.members

namespace Block.GrowsTo

theorem refl (b : Block) : b.GrowsTo b :=
  ⟨rfl, rfl, List.prefix_refl _⟩

theorem of_push {b c : Block} {m : Member} (h : (b.push m).GrowsTo c) : b.GrowsTo c where
  kind := h.kind
  name := h.name
  members := (List.prefix_append b.members [m]).trans h.members

end Block.GrowsTo

theorem Assembly.exists_isPrefix_allBlocks {a : Assembly} {es : List Event} (h : a.AcceptsAll es) :
    ∃ grown? : Option Block, Option.Rel Block.GrowsTo a.pending? grown? ∧
      a.blocks.toList ++ grown?.toList <+: (a.run es).allBlocks := by
  induction es generalizing a with
  | nil =>
    have hrefl : Option.Rel Block.GrowsTo a.pending? a.pending? := by
      cases a.pending? with
      | none => exact .none
      | some b => exact .some (.refl b)
    exact ⟨a.pending?, hrefl, List.prefix_refl _⟩
  | cons e es ih =>
    obtain ⟨haccepts, hrest⟩ := h
    obtain ⟨grown?, hgrown, hfirst⟩ := ih hrest
    change _ <+: (a.run (e :: es)).allBlocks at hfirst
    obtain ⟨blocks, pending?⟩ := a
    cases e with
    | opened kind name =>
      obtain rfl : pending? = none := haccepts
      refine ⟨none, .none, ?_⟩
      rw [Option.toList_none, List.append_nil]
      exact (List.prefix_append _ _).trans hfirst
    | member m =>
      obtain ⟨b, rfl⟩ := Option.ne_none_iff_exists'.mp haccepts
      cases hgrown with
      | some hc => exact ⟨_, .some hc.of_push, hfirst⟩
    | closed =>
      obtain ⟨b, rfl⟩ := Option.ne_none_iff_exists'.mp haccepts
      cases hgrown with
      | none =>
        refine ⟨some b, .some (.refl b), ?_⟩
        simpa [step] using hfirst

/-- The blocks of a stream within those of a longer one. All but the last stand in their places
unchanged, and the last one does too unless its entity is still open. -/
structure BlocksGrow (entity? : Option String) (bs cs : List Block) : Prop where
  settled : bs.dropLast <+: cs
  last : ∀ b, bs.getLast? = some b → ∃ c, cs[bs.length - 1]? = some c ∧ b.GrowsTo c
  closed : entity? = none → bs <+: cs

namespace BlocksGrow

variable {entity? : Option String} {bs cs : List Block}

theorem of_isPrefix {pending? grown? : Option Block}
    (hgrown : Option.Rel Block.GrowsTo pending? grown?) (h : bs ++ grown?.toList <+: cs) :
    BlocksGrow (pending?.map Block.name) (bs ++ pending?.toList) cs := by
  cases hgrown with
  | none =>
    rw [Option.toList_none, List.append_nil] at h ⊢
    refine ⟨(List.dropLast_prefix bs).trans h, fun b hb => ⟨b, ?_, .refl b⟩, fun _ => h⟩
    rw [List.getLast?_eq_getElem?] at hb
    obtain ⟨hlt, rfl⟩ := List.getElem?_eq_some_iff.mp hb
    exact List.prefix_iff_getElem?.mp h _ hlt
  | @some b c hc =>
    refine ⟨?_, fun d hd => ⟨c, ?_, ?_⟩, fun hnone => ?_⟩
    · rw [Option.toList_some, List.dropLast_concat]
      exact (List.prefix_append _ _).trans h
    · have hc := List.prefix_iff_getElem?.mp h bs.length (by simp)
      rw [Option.toList_some, List.length_append, List.length_singleton, Nat.add_sub_cancel, hc]
      simp
    · rw [Option.toList_some, List.getLast?_concat] at hd
      rwa [← Option.some.inj hd]
    · cases hnone

theorem length_le (h : BlocksGrow entity? bs cs) : bs.length ≤ cs.length := by
  rcases List.eq_nil_or_concat' bs with rfl | ⟨rest, b, rfl⟩
  · exact Nat.zero_le _
  · obtain ⟨c, hc, -⟩ := h.last b List.getLast?_concat
    obtain ⟨hlt, -⟩ := List.getElem?_eq_some_iff.mp hc
    omega

end BlocksGrow

theorem Diagram.blocks_eq_allBlocks (lines : List String) :
    (ofLines lines).blocks =
      (Assembly.empty.run (Finding.events (lineFindings lines))).allBlocks := by
  rw [Assembly.allBlocks_run (follows_lineFindings lines).1]
  exact blocks_eq_openBlocks lines

theorem blocksGrow_append (xs ys : List String) :
    BlocksGrow (LookBack.entity? xs) (Diagram.ofLines xs).blocks
      (Diagram.ofLines (xs ++ ys)).blocks := by
  obtain ⟨rest, hrest⟩ := lineFindings_isPrefix xs ys
  obtain ⟨-, hfollows⟩ := follows_lineFindings xs
  obtain ⟨hacc, -⟩ := follows_lineFindings (xs ++ ys)
  rw [← hrest, Finding.events_append, Assembly.acceptsAll_append] at hacc
  -- the longer stream goes on with the assembly of the shorter one
  obtain ⟨grown?, hgrown, hfirst⟩ := Assembly.exists_isPrefix_allBlocks hacc.2
  rw [← Assembly.run_append, ← Finding.events_append, hrest, ← Diagram.blocks_eq_allBlocks]
    at hfirst
  have hentity : LookBack.entity? xs =
      (Assembly.empty.run (Finding.events (lineFindings xs))).pending?.map Block.name :=
    hfollows.symm
  rw [hentity, Diagram.blocks_eq_allBlocks xs]
  exact .of_isPrefix hgrown hfirst

/-- Whatever lines follow, the defects, the relations and the number of entities of a stream are
there to begin with, and so are its blocks, but that the entity left open by a scan of it may take
more members. -/
theorem survey_isPrefix_and_blocksGrow_append (xs ys : List String) :
    (Survey.ofLines xs).defects <+: (Survey.ofLines (xs ++ ys)).defects ∧
      (Survey.ofLines xs).relations <+: (Survey.ofLines (xs ++ ys)).relations ∧
      (Survey.ofLines xs).entityCount ≤ (Survey.ofLines (xs ++ ys)).entityCount ∧
      BlocksGrow (Cursor.start.run xs).entity? (Diagram.ofLines xs).blocks
        (Diagram.ofLines (xs ++ ys)).blocks := by
  have hfindings := lineFindings_isPrefix xs ys
  have hblocks := blocksGrow_append xs ys
  refine ⟨?_, ?_, ?_, ?_⟩
  · rw [defects_eq_lineFindings, defects_eq_lineFindings]
    exact hfindings.filterMap _
  · rw [relations_eq_lineFindings, relations_eq_lineFindings]
    exact hfindings.filterMap _
  · rw [Survey.entityCount_eq, Survey.entityCount_eq]
    exact hblocks.length_le
  · rw [LookBack.run_start]
    exact hblocks

end ClassDiagram
