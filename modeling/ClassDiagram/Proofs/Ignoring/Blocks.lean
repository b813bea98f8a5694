import ClassDiagram.Proofs.Ignoring.Owned
import ClassDiagram.Proofs.Scan.LineByLine

/-! # Blocks of the remaining lines

A line that fills a block goes with the block's own entity. So the lines that stay put together the
blocks that are not ignored, with all their members.
-/

namespace ClassDiagram

/-- What a scan of all lines finds at the lines that stay. -/
def remainingFindings (ignored lines : List String) : List Finding :=
  (remaining ignored lines).flatMap Occurrence.findings

variable {ignored : List String}

@[simp] theorem remainingFindings_append_singleton (xs : List String) (x : String) :
    remainingFindings ignored (xs ++ [x]) = remainingFindings ignored xs ++
      if Occurrence.owned ignored ⟨xs, x⟩ then [] else Occurrence.findings ⟨xs, x⟩ := by
  cases h : Occurrence.owned ignored ⟨xs, x⟩ <;> simp [remainingFindings, h]

theorem inside_of_entity? {before : List String} {e : String}
    (h : LookBack.entity? before = some e) :
    Ignoring.inside ignored before = ignored.contains e := by
  unfold LookBack.entity? at h
  split at h
  · rename_i kind name hl
    split_ifs at h
    unfold Ignoring.inside
    rw [hl, ← Option.some.inj h]
  · cases h

theorem owned_of_entity? {xs : List String} {x e : String}
    (h : LookBack.entity? (xs ++ [x]) = some e) :
    Occurrence.owned ignored ⟨xs, x⟩ = ignored.contains e := by
  have hx : ((LookBack.cursor xs).advance x).entity? = some e :=
    (congrArg Cursor.entity? (LookBack.cursor_append_singleton xs x)).symm.trans h
  unfold Occurrence.owned
  unfold Cursor.advance at hx
  cases hr : Record.ofLine x with
  | header kind name =>
    simp only [hr] at hx
    split_ifs at hx
    rw [← Option.some.inj hx]
  | separator =>
    rw [hr] at hx
    cases hx
  | opener members =>
    rw [hr] at hx
    exact inside_of_entity? hx
  | parent name =>
    rw [hr] at hx
    exact inside_of_entity? hx
  | content text =>
    rw [hr] at hx
    exact inside_of_entity? hx

/-- The blocks of entities that are not ignored. -/
def unignored (ignored : List String) (bs : List Block) : List Block :=
  bs.filter fun b => !ignored.contains b.name

@[simp] theorem unignored_append_singleton (bs : List Block) (b : Block) :
    unignored ignored (bs ++ [b]) =
      unignored ignored bs ++ if ignored.contains b.name then [] else [b] := by
  by_cases h : b.name ∈ ignored
  · simp [unignored, h]
  · simp [unignored, h]

theorem unignored_pushLast (m : Member) (bs : List Block) (b : Block) :
    unignored ignored (Block.pushLast m (bs ++ [b])) =
      if ignored.contains b.name then unignored ignored (bs ++ [b])
      else Block.pushLast m (unignored ignored (bs ++ [b])) := by
  have hname : (b.push m).name = b.name := rfl
  by_cases h : b.name ∈ ignored
  · simp [hname, h]
  · simp [hname, h]

/-- A line that is not owned does to the blocks that are not ignored what it does to all blocks,
and an owned line does nothing to them. -/
theorem unignored_openBlocks_append_singleton (xs : List String) (x : String) :
    unignored ignored (openBlocks (xs ++ [x])) =
      if Occurrence.owned ignored ⟨xs, x⟩ then unignored ignored (openBlocks xs)
      else
        (Finding.events (Occurrence.findings ⟨xs, x⟩)).foldl Block.extend
          (unignored ignored (openBlocks xs)) := by
  have hopen : openBlocks (xs ++ [x]) =
      (Finding.events (Occurrence.findings ⟨xs, x⟩)).foldl Block.extend (openBlocks xs) := by
    rw [openBlocks, lineFindings_append_singleton, Finding.events_append, Block.gather_append]
    rfl
  have hentity : LookBack.entity? (xs ++ [x]) = ((LookBack.cursor xs).advance x).entity? :=
    congrArg Cursor.entity? (LookBack.cursor_append_singleton xs x)
  rw [hopen]
  rcases (LookBack.cursor xs).events_findings (Occurrence.numbered ⟨xs, x⟩) with
    ⟨m?, he, hm, hc⟩ | ⟨opened?, he, hc⟩
  · have hev : Finding.events (Occurrence.findings ⟨xs, x⟩) = m?.toList.map .member := he
    rw [hev]
    cases m? with
    | none => exact (ite_self _).symm
    | some m =>
      -- the member goes to the last block, which is that of the open entity
      obtain ⟨e, hxs⟩ : ∃ e, LookBack.entity? xs = some e :=
        Option.ne_none_iff_exists'.mp fun hnone => Option.some_ne_none m (hm hnone)
      obtain ⟨bs, b, hb, rfl⟩ := exists_openBlocks_eq hxs
      rw [owned_of_entity? (hentity.trans (hc.trans hxs)), hb]
      exact unignored_pushLast m bs b
  · have hev : Finding.events (Occurrence.findings ⟨xs, x⟩) =
        Finding.events (LookBack.cursor xs).closing ++
          opened?.toList.map fun o => .opened o.1 o.2 := he
    rw [hev, List.foldl_append, List.foldl_append, foldl_extend_closing, foldl_extend_closing]
    cases opened? with
    | none => exact (ite_self _).symm
    | some o =>
      rw [owned_of_entity? (hentity.trans hc)]
      refine (unignored_append_singleton (openBlocks xs) ⟨o.1, o.2, []⟩).trans ?_
      split_ifs
      · exact List.append_nil _
      · rfl

theorem gather_remainingFindings (lines : List String) :
    Block.gather (Finding.events (remainingFindings ignored lines)) =
      unignored ignored (openBlocks lines) := by
  induction lines using List.reverseRecOn with
  | nil => rfl
  | append_singleton xs x ih =>
    rw [unignored_openBlocks_append_singleton, remainingFindings_append_singleton,
      Finding.events_append, Block.gather_append, ih]
    split_ifs <;> rfl

end ClassDiagram
