import ClassDiagram.Proofs.Scan.Essence

/-! # A scan line by line

Apart from what it closes at the end, a scan finds what its lines find one after another. The
blocks that a stream comes to are there before the end, the last one perhaps still open, and the
open entity is that of the last block.
-/

namespace ClassDiagram

/-- What a scan of all lines finds before it closes what is left open. -/
def lineFindings (lines : List String) : List Finding :=
  (occurrences lines).flatMap Occurrence.findings

@[simp] theorem lineFindings_append_singleton (xs : List String) (x : String) :
    lineFindings (xs ++ [x]) = lineFindings xs ++ Occurrence.findings ⟨xs, x⟩ := by
  rw [lineFindings, occurrences_append_singleton, List.flatMap_append, List.flatMap_singleton]
  rfl

theorem lineFindings_isPrefix (before after : List String) :
    lineFindings before <+: lineFindings (before ++ after) := by
  have happend : occurrences (before ++ after) =
      occurrences before ++ occurrencesFrom before after :=
    occurrencesFrom_append [] before after
  rw [lineFindings, lineFindings, happend, List.flatMap_append]
  exact List.prefix_append _ _

theorem events_eq_lineFindings (lines : List String) :
    (Survey.ofLines lines).events =
      Finding.events (lineFindings lines) ++ Finding.events (LookBack.cursor lines).closing := by
  rw [Survey.events_ofLines, scan_numbered, Finding.events_append]
  rfl

/-- The blocks that the lines open and fill, ended or not. -/
def openBlocks (lines : List String) : List Block :=
  Block.gather (Finding.events (lineFindings lines))

theorem essence_lineFindings (lines : List String) :
    Finding.essence (lineFindings lines) =
      Finding.essence (Cursor.start.scan (numbered lines)) := by
  rw [essence_scan, lineFindings, Finding.essence_flatMap]

theorem blocks_eq_openBlocks (lines : List String) :
    Block.ofEvents (Survey.ofLines lines).events = openBlocks lines := by
  rw [Survey.ofEvents_eq_gather, Survey.events_ofLines, openBlocks,
    ← Finding.gather_events_essence, ← essence_lineFindings, Finding.gather_events_essence]

theorem relations_eq_lineFindings (lines : List String) :
    (Survey.ofLines lines).relations = Finding.relations (lineFindings lines) := by
  rw [Survey.relations_ofLines, ← Finding.relations_essence, ← essence_lineFindings,
    Finding.relations_essence]

theorem defects_eq_lineFindings (lines : List String) :
    (Survey.ofLines lines).defects = Finding.defects (lineFindings lines) := by
  rw [Survey.defects_eq_flatMap, lineFindings]
  exact List.filterMap_flatMap.symm

theorem follows_lineFindings (lines : List String) :
    Assembly.empty.AcceptsAll (Finding.events (lineFindings lines)) ∧
      (Assembly.empty.run (Finding.events (lineFindings lines))).Follows
        (LookBack.cursor lines) := by
  induction lines using List.reverseRecOn with
  | nil => exact ⟨trivial, Assembly.follows_start⟩
  | append_singleton xs x ih =>
    obtain ⟨hacc, hf⟩ := ih
    have hx := Assembly.follows_findings hf (Occurrence.numbered ⟨xs, x⟩)
    rw [lineFindings_append_singleton, Finding.events_append, Assembly.acceptsAll_append,
      Assembly.run_append, LookBack.cursor_append_singleton]
    exact ⟨⟨hacc, hx.1⟩, hx.2⟩

theorem exists_openBlocks_eq {lines : List String} {e : String}
    (h : LookBack.entity? lines = some e) :
    ∃ bs b, openBlocks lines = bs ++ [b] ∧ b.name = e := by
  obtain ⟨hacc, hf⟩ := follows_lineFindings lines
  obtain ⟨b, hb, hn⟩ := Option.map_eq_some_iff.mp (hf.trans h)
  have hall := Assembly.allBlocks_run hacc
  rw [Assembly.allBlocks, hb] at hall
  exact ⟨_, b, hall.symm, hn⟩

theorem foldl_extend_closing (c : Cursor) (bs : List Block) :
    (Finding.events c.closing).foldl Block.extend bs = bs := by
  unfold Cursor.closing
  split <;> rfl

end ClassDiagram
