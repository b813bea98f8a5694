import ClassDiagram.Proofs.Drawing.Sources
import ClassDiagram.Proofs.Drawing.Writer

/-! # Reading a yUML diagram

A yUML line is held together by brackets, bars and semicolons, and nothing sets them off from those
in a record. If the records have none, a diagram can be read back from its lines: a line is a block
if its first closing bracket is its last character and a relation if it is not, and a block has
members if there is a bar in it. Of what kind its entity is, a block does not show.
-/

namespace ClassDiagram

namespace Chars

/-- What stands in front of the first `c`, and what stands behind it. -/
def cut (c : Char) (cs : List Char) : List Char × List Char :=
  (cs.takeWhile (· != c), (cs.dropWhile (· != c)).drop 1)

theorem cut_append {c : Char} {xs : List Char} (h : c ∉ xs) (ys : List Char) :
    cut c (xs ++ c :: ys) = (xs, ys) := by
  have hxs : ∀ d ∈ xs, (d != c) = true := by
    intro d hd
    rw [bne_iff_ne]
    rintro rfl
    exact h hd
  rw [cut, List.takeWhile_append_of_pos hxs, List.dropWhile_append_of_pos hxs]
  simp

end Chars

namespace Yuml

/-- A character that holds the parts of a line together. -/
def isMark (c : Char) : Bool :=
  c == '[' || c == ']' || c == '|' || c == ';'

def IsUnmarked (s : String) : Prop :=
  ∀ c ∈ s.toList, isMark c = false

instance (s : String) : Decidable (IsUnmarked s) :=
  List.decidableBAll (fun c => isMark c = false) s.toList

theorem IsUnmarked.notMem {s : String} (h : IsUnmarked s) {c : Char} (hc : isMark c = true) :
    c ∉ s.toList := by
  intro hmem
  rw [h c hmem] at hc
  cases hc

/-! ## Blocks and relations as they are drawn -/

namespace Pending

/-- What stands between the brackets. -/
def body (p : Pending) : List Char :=
  if p.texts.isEmpty then p.name.toList
  else p.name.toList ++ '|' :: (";".intercalate p.texts).toList

def ofBody (cs : List Char) : Pending :=
  if '|' ∈ cs then
    ⟨String.ofList (Chars.cut '|' cs).1, ((Chars.cut '|' cs).2.splitOn ';').map String.ofList⟩
  else ⟨String.ofList cs, []⟩

theorem toList_line (p : Pending) : p.line.toList = '[' :: (p.body ++ [']']) := by
  unfold line body
  split_ifs <;> simp

structure IsLegible (p : Pending) : Prop where
  name : IsUnmarked p.name
  texts : ∀ text ∈ p.texts, IsUnmarked text

variable {p : Pending}

theorem IsLegible.bracket_notMem_body (h : p.IsLegible) : ']' ∉ p.body := by
  have hname : ']' ∉ p.name.toList := h.name.notMem (by decide)
  unfold body
  split_ifs
  · exact hname
  · simp only [List.mem_append, List.mem_cons, Char.reduceEq, false_or, not_or]
    refine ⟨hname, fun hmem => ?_⟩
    rcases Text.mem_intercalate hmem with hsep | ⟨text, htext, hc⟩
    · simp at hsep
    · exact (h.texts text htext).notMem (by decide) hc

theorem ofBody_body (h : p.IsLegible) : ofBody p.body = p := by
  have hname : '|' ∉ p.name.toList := h.name.notMem (by decide)
  obtain ⟨name, texts⟩ := p
  cases texts with
  | nil => simp [ofBody, body, hname]
  | cons first rest =>
    have hsplit : ([';'].intercalate ((first :: rest).map String.toList)).splitOn ';' =
        (first :: rest).map String.toList := by
      refine List.splitOn_intercalate ';' ?_ (by simp)
      intro cs hcs
      obtain ⟨text, htext, rfl⟩ := List.mem_map.mp hcs
      exact (h.texts text htext).notMem (by decide)
    rw [List.map_cons] at hsplit
    simp [ofBody, body, Chars.cut_append hname, hsplit, Function.comp_def]

end Pending

/-- What the lines of a diagram show. A block shows what was pending when it was closed. -/
structure Sheet where
  blocks : List Pending
  relations : List Relation
  deriving DecidableEq

namespace Sheet

def ofDiagram (d : Diagram) : Sheet :=
  ⟨d.blocks.map .ofBlock, d.relations⟩

def lines (s : Sheet) : List String :=
  s.blocks.map Pending.line ++ s.relations.map relationLine

theorem lines_render (lines : List String) :
    (draw.render lines).lines = (ofDiagram (.ofLines lines)).lines := by
  rw [render_eq, Sheet.lines, ofDiagram, List.map_map, diagramLines]
  exact congrArg (· ++ _) (List.map_congr_left fun b _ => (Pending.line_ofBlock b).symm)

structure IsLegible (s : Sheet) : Prop where
  blocks : ∀ b ∈ s.blocks, b.IsLegible
  owners : ∀ r ∈ s.relations, IsUnmarked r.owner

end Sheet

/-! ## What a line is taken for -/

inductive Statement
  | block (block : Pending)
  | relation (relation : Relation)
  deriving DecidableEq

namespace Statement

def block? : Statement → Option Pending
  | block b => some b
  | relation _ => none

def relation? : Statement → Option Relation
  | block _ => none
  | relation r => some r

/-- The kind of the relations that have the arrow. -/
def kind? (cs : List Char) : Option RelationKind :=
  [.inheritance, .realization, .composition].find? fun k => (arrow k).toList == cs

/-- What stands behind the first closing bracket tells a relation from a block. -/
def ofLine? (line : String) : Option Statement :=
  match Chars.cut ']' (line.toList.drop 1) with
  | (body, []) => some (.block (.ofBody body))
  | (owner, rest) =>
    (kind? (Chars.cut '[' rest).1).map fun k =>
      .relation ⟨k, String.ofList owner, String.ofList (Chars.cut '[' rest).2.dropLast⟩

theorem kind?_arrow (k : RelationKind) : kind? (arrow k).toList = some k := by
  cases k <;> decide

theorem ofLine?_line {b : Pending} (h : b.IsLegible) : ofLine? b.line = some (.block b) := by
  unfold ofLine?
  rw [Pending.toList_line, List.drop_one, List.tail_cons, Chars.cut_append h.bracket_notMem_body]
  simp [Pending.ofBody_body h]

theorem toList_relationLine (r : Relation) :
    (relationLine r).toList = '[' :: (r.owner.toList ++
      ']' :: ((arrow r.kind).toList ++ '[' :: (r.target.toList ++ [']']))) := by
  simp [relationLine]

theorem ofLine?_relationLine {r : Relation} (h : IsUnmarked r.owner) :
    ofLine? (relationLine r) = some (.relation r) := by
  have harrow : '[' ∉ (arrow r.kind).toList := by cases r.kind <;> decide
  unfold ofLine?
  rw [toList_relationLine, List.drop_one, List.tail_cons, Chars.cut_append (h.notMem (by decide))]
  simp [Chars.cut_append harrow, kind?_arrow]

end Statement

namespace Sheet

def read (lines : List String) : Sheet :=
  ⟨(lines.filterMap Statement.ofLine?).filterMap Statement.block?,
    (lines.filterMap Statement.ofLine?).filterMap Statement.relation?⟩

theorem IsLegible.filterMap_ofLine? {s : Sheet} (h : s.IsLegible) :
    s.lines.filterMap Statement.ofLine? = s.blocks.map .block ++ s.relations.map .relation := by
  have hblocks : (s.blocks.map Pending.line).filterMap Statement.ofLine? =
      s.blocks.map .block := by
    rw [List.filterMap_map, List.filterMap_eq_map_iff_forall_eq_some]
    intro b hb
    rw [Function.comp_apply, Statement.ofLine?_line (h.blocks b hb)]
  have hrelations : (s.relations.map relationLine).filterMap Statement.ofLine? =
      s.relations.map .relation := by
    rw [List.filterMap_map, List.filterMap_eq_map_iff_forall_eq_some]
    intro r hr
    rw [Function.comp_apply, Statement.ofLine?_relationLine (h.owners r hr)]
  rw [lines, List.filterMap_append, hblocks, hrelations]

theorem read_lines {s : Sheet} (h : s.IsLegible) : read s.lines = s := by
  unfold read
  rw [h.filterMap_ofLine?]
  simp [List.filterMap_map, Function.comp_def, Statement.block?, Statement.relation?]

end Sheet

/-! ## Records without marks -/

theorem isUnmarked_memberText {line text : String} {m : Member} (hline : IsUnmarked line)
    (hr : Record.ofLine line = .content text) (hm : m.IsReadFrom text) :
    IsUnmarked (memberText m) := by
  have htail : Text.IsTail line text := Record.isTail_of_text? (by rw [hr]; rfl)
  have hpart (s : String) (hs : Text.IsOfWords text s) : IsUnmarked s := by
    intro c hc
    rcases hs c hc with rfl | ⟨hmem, -⟩
    · rfl
    · exact hline c (htail.subset hmem)
  have hkeyword (m : Modifier) : IsUnmarked m.keyword := by
    cases m <;> decide
  rw [Member.memberText_eq_shown]
  refine hm.forall_mem_shown ⟨fun v => ?_, hkeyword, rfl, rfl⟩ (by simp) hpart
  cases v <;> rfl

section

variable {xs ys : List String}

theorem isUnmarked_name (h : ∀ line ∈ xs, IsUnmarked line) {b : Block}
    (hb : b ∈ (Diagram.ofLines xs).blocks) : IsUnmarked b.name := by
  obtain ⟨-, line, hline, htail⟩ := Diagram.exists_isTail_name hb
  intro c hc
  exact h line hline c (htail.subset hc)

theorem Sheet.isLegible_ofLines (h : ∀ line ∈ xs, IsUnmarked line) :
    (ofDiagram (.ofLines xs)).IsLegible := by
  constructor
  · intro b hb
    obtain ⟨c, hc, rfl⟩ := List.mem_map.mp hb
    refine ⟨isUnmarked_name h hc, fun text htext => ?_⟩
    obtain ⟨m, hm, rfl⟩ := List.mem_map.mp htext
    obtain ⟨line, hline, content, hr, hread⟩ := Diagram.exists_isReadFrom_of_mem_members hc hm
    exact isUnmarked_memberText (h line hline) hr hread
  · intro r hr
    obtain ⟨b, hb, hname⟩ := Diagram.exists_block_of_mem_relations hr
    rw [← hname]
    exact isUnmarked_name h hb

/-- A yUML diagram of records without brackets, bars and semicolons can be read back from its lines,
which therefore differ for diagrams with different blocks, members or relations. A block is taken
for a block with the members that were put into it, a relation for that relation, and neither for
the other. -/
theorem lines_determine_members (hx : ∀ line ∈ xs, IsUnmarked line)
    (hy : ∀ line ∈ ys, IsUnmarked line) :
    Sheet.read (draw.render xs).lines = Sheet.ofDiagram (.ofLines xs) ∧
      ((draw.render xs).lines = (draw.render ys).lines ↔
        Sheet.ofDiagram (.ofLines xs) = Sheet.ofDiagram (.ofLines ys)) ∧
      (∀ b ∈ (Diagram.ofLines xs).blocks, Statement.ofLine? (blockLine b) =
        some (.block ⟨b.name, b.members.map memberText⟩)) ∧
      (∀ r ∈ (Diagram.ofLines xs).relations, Statement.ofLine? (relationLine r) =
        some (.relation r)) ∧
      ∀ b ∈ (Diagram.ofLines xs).blocks, ∀ r ∈ (Diagram.ofLines ys).relations,
        blockLine b ≠ relationLine r := by
  have hxs := Sheet.isLegible_ofLines hx
  have hys := Sheet.isLegible_ofLines hy
  have hblock (b : Block) (hb : b ∈ (Diagram.ofLines xs).blocks) :
      Statement.ofLine? (blockLine b) = some (.block (.ofBlock b)) := by
    rw [← Pending.line_ofBlock]
    exact Statement.ofLine?_line (hxs.blocks _ (List.mem_map_of_mem hb))
  simp only [Sheet.lines_render]
  refine ⟨Sheet.read_lines hxs, ⟨fun h => ?_, congrArg Sheet.lines⟩, hblock, fun r hr => ?_, ?_⟩
  · rw [← Sheet.read_lines hxs, h, Sheet.read_lines hys]
  · exact Statement.ofLine?_relationLine (hxs.owners r hr)
  · intro b hb r hr h
    have htaken := hblock b hb
    rw [h, Statement.ofLine?_relationLine (hys.owners r hr)] at htaken
    cases htaken

end

/-- A class and an interface with the same members and parents look the same. -/
theorem sheet_of_other_kind :
    (∀ line ∈ ["Class: a.A", "Methods:", "- abstract void f()", "Fields:", "- B b", "Extends: C"],
        IsUnmarked line) ∧
      (∀ line ∈ ["Interface: A", "Methods:", "abstract void  f()", "Fields:", "-  B b",
          "Extends: c.C"], IsUnmarked line) ∧
      Sheet.ofDiagram (.ofLines
          ["Class: a.A", "Methods:", "- abstract void f()", "Fields:", "- B b", "Extends: C"]) =
        Sheet.ofDiagram (.ofLines ["Interface: A", "Methods:", "abstract void  f()", "Fields:",
          "-  B b", "Extends: c.C"]) := by
  have hx : ∀ line ∈
      ["Class: a.A", "Methods:", "- abstract void f()", "Fields:", "- B b", "Extends: C"],
      IsUnmarked line := by
    decide
  have hy : ∀ line ∈ ["Interface: A", "Methods:", "abstract void  f()", "Fields:", "-  B b",
      "Extends: c.C"], IsUnmarked line := by
    decide
  have hlines : (draw.render
        ["Class: a.A", "Methods:", "- abstract void f()", "Fields:", "- B b", "Extends: C"]).lines =
      (draw.render ["Interface: A", "Methods:", "abstract void  f()", "Fields:", "-  B b",
        "Extends: c.C"]).lines := by
    decide +kernel
  exact ⟨hx, hy, (lines_determine_members hx hy).2.1.mp hlines⟩

/-- A name with brackets in it may be taken for a relation. -/
example :
    (draw.render ["Class: A", "Extends: B"]).lines =
        (draw.render ["Class: A", "Class: A]^-[B"]).lines ∧
      (Survey.ofLines ["Class: A", "Extends: B"]).relations = [⟨.inheritance, "A", "B"⟩] ∧
      (Survey.ofLines ["Class: A", "Class: A]^-[B"]).relations = [] := by
  decide

end Yuml

end ClassDiagram
