import ClassDiagram.Proofs.Drawing.Sources

/-! # Reading a PlantUML diagram

The lines of a PlantUML diagram carry no tags. As long as names are made of letters, digits, `_`
and `$`, the first character and the first word of a line tell what it is all the same, and a
diagram can be read back from its lines: its blocks with their member lines, and its relations.
-/

namespace ClassDiagram

/-- A letter, a digit, `_` or `$`. All characters beyond ASCII pass for letters. -/
def isNameChar (c : Char) : Bool :=
  c.isAlphanum || c == '_' || c == '$' || !CodePoint.isAscii c

def Text.IsPlain (s : String) : Prop :=
  ∀ c ∈ s.toList, isNameChar c = true

instance (s : String) : Decidable (Text.IsPlain s) :=
  List.decidableBAll (fun c => isNameChar c = true) s.toList

/-- All names in the diagram are plain, but for what fields hold. -/
structure Diagram.IsPlain (d : Diagram) : Prop where
  names : ∀ b ∈ d.blocks, Text.IsPlain b.name
  targets : ∀ r ∈ d.relations, r.kind ≠ .composition → Text.IsPlain r.target

namespace PlantUml

/-- A block as far as its lines show it. -/
structure DrawnBlock where
  kind : EntityKind
  name : String
  members : List String
  deriving DecidableEq

/-- What the lines of a diagram show. -/
structure Page where
  blocks : List DrawnBlock
  relations : List Relation
  deriving DecidableEq

def DrawnBlock.lines (b : DrawnBlock) : List String :=
  eventLine (.opened b.kind b.name) :: b.members ++ [eventLine .closed]

def Page.lines (p : Page) : List String :=
  ["@startuml"] ++ p.blocks.flatMap DrawnBlock.lines ++ p.relations.map relationLine ++ ["@enduml"]

def Page.ofDiagram (d : Diagram) : Page :=
  ⟨d.blocks.map fun b => ⟨b.kind, b.name, b.members.map memberLine⟩, d.relations⟩

theorem Page.lines_ofDiagram (d : Diagram) : (ofDiagram d).lines = diagramLines d := by
  rw [lines, ofDiagram, List.flatMap_map]
  rfl

/-! ## What a line is taken for -/

inductive Statement
  | frame
  | opened (kind : EntityKind) (name : String)
  | member (text : String)
  | closed
  | relation (relation : Relation)
  deriving DecidableEq

def arrow : RelationKind → String
  | .inheritance => " <|-- "
  | .realization => " <|.. "
  | .composition => " ---> "

/-- What stands in front of the arrow. -/
def leftEnd (r : Relation) : String :=
  match r.kind with
  | .composition => r.owner
  | _ => r.target

def rightEnd (r : Relation) : String :=
  match r.kind with
  | .composition => r.target
  | _ => r.owner

def ofEnds (kind : RelationKind) (left right : String) : Relation :=
  match kind with
  | .composition => ⟨kind, left, right⟩
  | _ => ⟨kind, right, left⟩

theorem ofEnds_ends (r : Relation) : ofEnds r.kind (leftEnd r) (rightEnd r) = r := by
  obtain ⟨kind, owner, target⟩ := r
  cases kind <;> rfl

theorem relationLine_eq (r : Relation) :
    relationLine r = leftEnd r ++ arrow r.kind ++ rightEnd r := by
  obtain ⟨kind, owner, target⟩ := r
  cases kind <;> rfl

def firstWord (cs : List Char) : List Char :=
  cs.takeWhile (· != ' ')

def afterWord (cs : List Char) : List Char :=
  cs.dropWhile (· != ' ')

/-- The arrow that comes first, and what is behind it. -/
def arrow? (cs : List Char) : Option (RelationKind × List Char) :=
  [.inheritance, .realization, .composition].findSome? fun k =>
    (Chars.after? (arrow k) cs).map fun rest => (k, rest)

def relation? (cs : List Char) : Option Relation :=
  (arrow? (afterWord cs)).map fun a =>
    ofEnds a.1 (String.ofList (firstWord cs)) (String.ofList a.2)

def opened? (cs : List Char) : Option (EntityKind × String) :=
  EntityKind.all.findSome? fun k =>
    (Chars.after? (k.keyword ++ " ") cs).map fun rest => (k, String.ofList (firstWord rest))

/-- A character of names or the space between them. -/
def isWordChar (c : Char) : Bool :=
  isNameChar c || c == ' '

namespace Statement

/-- A line of words is a relation if an arrow comes second. -/
def ofWords (cs : List Char) : Statement :=
  match relation? cs, opened? cs with
  | some r, _ => .relation r
  | none, some (kind, name) => .opened kind name
  | none, none => .frame

theorem ofWords_ne_member (cs : List Char) (text : String) : ofWords cs ≠ .member text := by
  unfold ofWords
  split <;> exact Statement.noConfusion

/-- The first character tells what a line is, unless it may be one of words. -/
def ofLine (line : String) : Statement :=
  match line.toList with
  | [] => .frame
  | c :: cs =>
    if isWordChar c then ofWords (c :: cs)
    else if c == '\x7d' then .closed
    else if c == '@' then .frame
    else .member line

theorem ofLine_memberLine (m : Member) : ofLine (memberLine m) = .member (memberLine m) := by
  obtain ⟨v, rest, h⟩ := m.exists_shown_eq (some abstractMarker)
  rw [← Member.memberLine_eq_shown] at h
  unfold ofLine
  rw [h]
  cases v <;> rfl

theorem ofLine_of_toList_eq {line : String} {c : Char} {cs : List Char} (h : line.toList = c :: cs)
    (hc : isWordChar c = true) : ofLine line = ofWords line.toList := by
  unfold ofLine
  rw [h]
  exact if_pos hc

end Statement

section

variable {name : String} {cs : List Char}

theorem ne_space_of_isPlain (h : Text.IsPlain name) : ∀ c ∈ name.toList, (c != ' ') = true := by
  intro c hc
  rw [bne_iff_ne]
  rintro rfl
  have hplain := h ' ' hc
  revert hplain
  decide

theorem firstWord_append (h : Text.IsPlain name) (cs : List Char) :
    firstWord (name.toList ++ ' ' :: cs) = name.toList := by
  rw [firstWord, List.takeWhile_append_of_pos (ne_space_of_isPlain h),
    List.takeWhile_cons_of_neg (by simp), List.append_nil]

theorem afterWord_append (h : Text.IsPlain name) (cs : List Char) :
    afterWord (name.toList ++ ' ' :: cs) = ' ' :: cs := by
  rw [afterWord, List.dropWhile_append_of_pos (ne_space_of_isPlain h),
    List.dropWhile_cons_of_neg (by simp)]

theorem exists_append_eq_cons (h : Text.IsPlain name) (cs : List Char) :
    ∃ c rest, name.toList ++ ' ' :: cs = c :: rest ∧ isWordChar c = true := by
  cases hname : name.toList with
  | nil => exact ⟨' ', cs, rfl, rfl⟩
  | cons c rest =>
    have hc : isNameChar c = true := h c (by simp [hname])
    exact ⟨c, rest ++ ' ' :: cs, rfl, by simp [isWordChar, hc]⟩

theorem toList_arrow (k : RelationKind) :
    ∃ c rest, (arrow k).toList = ' ' :: c :: rest ∧ isWordChar c = false := by
  cases k with
  | inheritance => exact ⟨'<', "|-- ".toList, by decide, by decide⟩
  | realization => exact ⟨'<', "|.. ".toList, by decide, by decide⟩
  | composition => exact ⟨'-', "--> ".toList, by decide, by decide⟩

theorem arrow?_append (k : RelationKind) (cs : List Char) :
    arrow? ((arrow k).toList ++ cs) = some (k, cs) := by
  cases k <;> rfl

theorem arrow?_eq_none {d : Char} (h : isWordChar d = true) : arrow? (' ' :: d :: cs) = none := by
  rw [arrow?, List.findSome?_eq_none_iff]
  intro k _
  obtain ⟨c, rest, harrow, hc⟩ := toList_arrow k
  rw [Option.map_eq_none_iff, Option.eq_none_iff_forall_ne_some]
  intro after hafter
  have happend := List.isPrefixOf?_eq_some_iff_append_eq.mp hafter
  rw [harrow] at happend
  obtain rfl : c = d := (List.cons.inj (List.cons.inj happend).2).1
  rw [hc] at h
  cases h

theorem toList_relationLine (r : Relation) :
    (relationLine r).toList =
      (leftEnd r).toList ++ ((arrow r.kind).toList ++ (rightEnd r).toList) := by
  rw [relationLine_eq, String.toList_append, String.toList_append, List.append_assoc]

theorem relation?_relationLine {r : Relation} (h : Text.IsPlain (leftEnd r)) :
    relation? (relationLine r).toList = some r := by
  obtain ⟨c, rest, harrow, -⟩ := toList_arrow r.kind
  have hfirst : firstWord (relationLine r).toList = (leftEnd r).toList := by
    rw [toList_relationLine, harrow]
    exact firstWord_append h _
  have hafter : afterWord (relationLine r).toList =
      (arrow r.kind).toList ++ (rightEnd r).toList := by
    rw [toList_relationLine, harrow]
    exact afterWord_append h _
  rw [relation?, hafter, hfirst, arrow?_append, Option.map_some, String.ofList_toList,
    String.ofList_toList, ofEnds_ends]

theorem toList_opened (kind : EntityKind) (name : String) :
    (eventLine (.opened kind name)).toList =
      (kind.keyword ++ " ").toList ++ (name.toList ++ [' ', '\x7b']) := by
  have hbrace : " \x7b".toList = [' ', '\x7b'] := by decide
  rw [eventLine, String.toList_append, String.toList_append, List.append_assoc, hbrace]

theorem relation?_opened (h : Text.IsPlain name) (kind : EntityKind) :
    relation? (eventLine (.opened kind name)).toList = none := by
  have hkeyword : Text.IsPlain kind.keyword := by
    cases kind <;> decide
  have hspace : " ".toList = [' '] := by decide
  obtain ⟨c, rest, hrest, hc⟩ := exists_append_eq_cons h ['\x7b']
  rw [toList_opened, String.toList_append, hspace, List.append_assoc, List.singleton_append,
    relation?, afterWord_append hkeyword, hrest, arrow?_eq_none hc, Option.map_none]

theorem opened?_append (kind : EntityKind) (cs : List Char) :
    opened? ((kind.keyword ++ " ").toList ++ cs) = some (kind, String.ofList (firstWord cs)) := by
  cases kind <;> rfl

theorem opened?_opened (h : Text.IsPlain name) (kind : EntityKind) :
    opened? (eventLine (.opened kind name)).toList = some (kind, name) := by
  rw [toList_opened, opened?_append, firstWord_append h, String.ofList_toList]

end

namespace Statement

theorem ofLine_opened_eq (kind : EntityKind) (name : String) :
    ofLine (eventLine (.opened kind name)) = ofWords (eventLine (.opened kind name)).toList := by
  have hlist := toList_opened kind name
  cases kind <;> exact ofLine_of_toList_eq hlist (by decide)

theorem ofLine_opened {name : String} (h : Text.IsPlain name) (kind : EntityKind) :
    ofLine (eventLine (.opened kind name)) = .opened kind name := by
  rw [ofLine_opened_eq, ofWords, relation?_opened h, opened?_opened h]

theorem ofLine_relationLine {r : Relation} (h : Text.IsPlain (leftEnd r)) :
    ofLine (relationLine r) = .relation r := by
  have hwords : ofLine (relationLine r) = ofWords (relationLine r).toList := by
    obtain ⟨c, rest, harrow, -⟩ := toList_arrow r.kind
    obtain ⟨d, line, hline, hd⟩ := exists_append_eq_cons h (c :: rest ++ (rightEnd r).toList)
    have htoList : (relationLine r).toList = d :: line := by
      rw [toList_relationLine, harrow]
      exact hline
    exact ofLine_of_toList_eq htoList hd
  rw [hwords, ofWords, relation?_relationLine h]

end Statement

/-! ## Reading a page back -/

/-- What has been read of a page from its end, and the member lines of a block to be opened. -/
structure Reading extends Page where
  members : List String

namespace Reading

def start : Reading :=
  ⟨⟨[], []⟩, []⟩

/-- The reading with one more line in front. -/
def step (s : Statement) (p : Reading) : Reading :=
  match s with
  | .frame => p
  | .opened kind name => { p with blocks := ⟨kind, name, p.members⟩ :: p.blocks, members := [] }
  | .member text => { p with members := text :: p.members }
  | .closed => { p with members := [] }
  | .relation r => { p with relations := r :: p.relations }

def ofStatements (ss : List Statement) : Reading :=
  ss.foldr step start

end Reading

def Page.read (lines : List String) : Page :=
  (Reading.ofStatements (lines.map Statement.ofLine)).toPage

def DrawnBlock.statements (b : DrawnBlock) : List Statement :=
  .opened b.kind b.name :: b.members.map .member ++ [.closed]

/-- The lines of the page are taken for what they are. -/
structure Page.IsLegible (p : Page) : Prop where
  names : ∀ b ∈ p.blocks, Text.IsPlain b.name
  members : ∀ b ∈ p.blocks, ∀ text ∈ b.members, Statement.ofLine text = .member text
  leftEnds : ∀ r ∈ p.relations, Text.IsPlain (leftEnd r)

theorem DrawnBlock.map_ofLine_lines {b : DrawnBlock} (hname : Text.IsPlain b.name)
    (hmembers : ∀ text ∈ b.members, Statement.ofLine text = .member text) :
    b.lines.map Statement.ofLine = b.statements := by
  have hclosed : Statement.ofLine (eventLine .closed) = .closed := by decide
  rw [lines, statements, List.map_append, List.map_cons, Statement.ofLine_opened hname,
    List.map_congr_left hmembers, List.map_singleton, hclosed]

theorem Page.IsLegible.map_ofLine_lines {p : Page} (h : p.IsLegible) :
    p.lines.map Statement.ofLine =
      [.frame] ++ p.blocks.flatMap DrawnBlock.statements ++ p.relations.map .relation ++
        [.frame] := by
  have hblocks : p.blocks.flatMap (fun b => b.lines.map Statement.ofLine) =
      p.blocks.flatMap DrawnBlock.statements :=
    List.flatMap_congr fun b hb => b.map_ofLine_lines (h.names b hb) (h.members b hb)
  have hrelations : (p.relations.map relationLine).map Statement.ofLine =
      p.relations.map .relation := by
    rw [List.map_map]
    exact List.map_congr_left fun r hr => Statement.ofLine_relationLine (h.leftEnds r hr)
  have hfirst : Statement.ofLine "@startuml" = .frame := by decide
  have hlast : Statement.ofLine "@enduml" = .frame := by decide
  rw [lines, List.map_append, List.map_append, List.map_append, List.map_flatMap, hblocks,
    hrelations, List.map_singleton, List.map_singleton, hfirst, hlast]

namespace Reading

theorem foldr_relations (rs : List Relation) (p : Reading) :
    (rs.map Statement.relation).foldr step p = { p with relations := rs ++ p.relations } := by
  induction rs with
  | nil => rfl
  | cons r rs ih =>
    rw [List.map_cons, List.foldr_cons, ih]
    rfl

theorem foldr_members (texts : List String) (p : Reading) :
    (texts.map Statement.member).foldr step p = { p with members := texts ++ p.members } := by
  induction texts with
  | nil => rfl
  | cons text texts ih =>
    rw [List.map_cons, List.foldr_cons, ih]
    rfl

theorem foldr_statements (b : DrawnBlock) (p : Reading) :
    b.statements.foldr step p = { p with blocks := b :: p.blocks, members := [] } := by
  have hclosed : [Statement.closed].foldr step p = { p with members := [] } := rfl
  rw [DrawnBlock.statements, List.cons_append, List.foldr_cons, List.foldr_append, hclosed,
    foldr_members, List.append_nil]
  rfl

theorem foldr_blocks (bs : List DrawnBlock) (page : Page) :
    (bs.flatMap DrawnBlock.statements).foldr step ⟨page, []⟩ =
      ⟨{ page with blocks := bs ++ page.blocks }, []⟩ := by
  induction bs with
  | nil => rfl
  | cons b bs ih =>
    rw [List.flatMap_cons, List.foldr_append, ih, foldr_statements]
    rfl

theorem ofStatements_page (p : Page) :
    (ofStatements ([.frame] ++ p.blocks.flatMap DrawnBlock.statements ++
      p.relations.map .relation ++ [.frame])).toPage = p := by
  have hlast : [Statement.frame].foldr step start = start := rfl
  have hrelations : (p.relations.map Statement.relation).foldr step start =
      ⟨⟨[], p.relations⟩, []⟩ := by
    rw [foldr_relations, start, List.append_nil]
  rw [ofStatements, List.foldr_append, hlast, List.foldr_append, hrelations, List.foldr_append,
    foldr_blocks, List.append_nil]
  rfl

end Reading

theorem Page.read_lines {p : Page} (h : p.IsLegible) : read p.lines = p := by
  rw [read, h.map_ofLine_lines, Reading.ofStatements_page]

/-- A plain diagram whose relations are owned by its blocks is drawn legibly. -/
theorem Page.isLegible_ofDiagram {d : Diagram} (h : d.IsPlain)
    (hown : ∀ r ∈ d.relations, ∃ b ∈ d.blocks, b.name = r.owner) :
    (ofDiagram d).IsLegible where
  names b hb := by
    obtain ⟨c, hc, rfl⟩ := List.mem_map.mp hb
    exact h.names c hc
  members b hb text htext := by
    obtain ⟨c, hc, rfl⟩ := List.mem_map.mp hb
    obtain ⟨m, hm, rfl⟩ := List.mem_map.mp htext
    exact Statement.ofLine_memberLine m
  leftEnds r hr := by
    unfold leftEnd
    cases hk : r.kind with
    | composition =>
      obtain ⟨b, hb, hname⟩ := hown r hr
      rw [← hname]
      exact h.names b hb
    | _ => exact h.targets r hr (by simp [hk])

theorem Page.lines_render (lines : List String) :
    (draw.render lines).lines = (ofDiagram (.ofLines lines)).lines := by
  rw [render_eq, lines_ofDiagram]

theorem Page.isLegible_ofLines {lines : List String} (h : (Diagram.ofLines lines).IsPlain) :
    (ofDiagram (.ofLines lines)).IsLegible :=
  isLegible_ofDiagram h fun _ => Diagram.exists_block_of_mem_relations

theorem memberLine_ne {line : String} (h : ∀ text, Statement.ofLine line ≠ .member text)
    (m : Member) : memberLine m ≠ line := by
  rintro rfl
  exact h _ (Statement.ofLine_memberLine m)

theorem memberLine_ne_opened (m : Member) (kind : EntityKind) (name : String) :
    memberLine m ≠ eventLine (.opened kind name) := by
  refine memberLine_ne (fun text => ?_) m
  rw [Statement.ofLine_opened_eq]
  exact Statement.ofWords_ne_member _ text

theorem memberLine_ne_relationLine (m : Member) {r : Relation} (h : Text.IsPlain (leftEnd r)) :
    memberLine m ≠ relationLine r := by
  refine memberLine_ne (fun text => ?_) m
  rw [Statement.ofLine_relationLine h]
  exact Statement.noConfusion

theorem relationLine_ne_opened {r : Relation} {name : String} (hr : Text.IsPlain (leftEnd r))
    (hname : Text.IsPlain name) (kind : EntityKind) :
    relationLine r ≠ eventLine (.opened kind name) := by
  intro h
  have htaken := congrArg Statement.ofLine h
  rw [Statement.ofLine_relationLine hr, Statement.ofLine_opened hname] at htaken
  cases htaken

/-- A PlantUML diagram with plain names can be read back from its lines, which therefore differ for
different diagrams. No member line is taken for the end of its block or of the diagram, for the
opening of a block or for a relation, and no relation for the opening of a block. -/
theorem lines_determine_page {xs ys : List String} (hx : (Diagram.ofLines xs).IsPlain)
    (hy : (Diagram.ofLines ys).IsPlain) :
    Page.read (draw.render xs).lines = Page.ofDiagram (.ofLines xs) ∧
      ((draw.render xs).lines = (draw.render ys).lines ↔
        Page.ofDiagram (.ofLines xs) = Page.ofDiagram (.ofLines ys)) ∧
      (∀ m : Member, memberLine m ≠ "\x7d" ∧ memberLine m ≠ "@enduml" ∧
        (∀ kind name, memberLine m ≠ eventLine (.opened kind name)) ∧
        ∀ r ∈ (Diagram.ofLines ys).relations, memberLine m ≠ relationLine r) ∧
      ∀ r ∈ (Diagram.ofLines xs).relations, ∀ b ∈ (Diagram.ofLines ys).blocks,
        relationLine r ≠ eventLine (.opened b.kind b.name) := by
  have hlegible := Page.isLegible_ofLines hx
  have hothers := Page.isLegible_ofLines hy
  simp only [Page.lines_render]
  refine ⟨Page.read_lines hlegible, ⟨fun h => ?_, congrArg Page.lines⟩, fun m => ?_, ?_⟩
  · rw [← Page.read_lines hlegible, h, Page.read_lines hothers]
  · have hclosed : Statement.ofLine "\x7d" = .closed := by decide
    have hframe : Statement.ofLine "@enduml" = .frame := by decide
    exact ⟨memberLine_ne (by simp [hclosed]) m, memberLine_ne (by simp [hframe]) m,
      memberLine_ne_opened m, fun r hr => memberLine_ne_relationLine m (hothers.leftEnds r hr)⟩
  · intro r hr b hb
    exact relationLine_ne_opened (hlegible.leftEnds r hr) (hy.names b hb) b.kind

/-- Two streams that are laid out differently and show one page. -/
theorem page_of_moved_lines :
    (Diagram.ofLines ["Class: a.A$", "Fields:", "- B ---> b", "Extends: C"]).IsPlain ∧
      (Diagram.ofLines ["", "Class: A$", "Fields:", "B ---> b", "Extends: c.C"]).IsPlain ∧
      Page.ofDiagram (.ofLines ["Class: a.A$", "Fields:", "- B ---> b", "Extends: C"]) =
        Page.ofDiagram (.ofLines ["", "Class: A$", "Fields:", "B ---> b", "Extends: c.C"]) := by
  have hx : (Diagram.ofLines ["Class: a.A$", "Fields:", "- B ---> b", "Extends: C"]).IsPlain :=
    ⟨by decide, by decide⟩
  have hy : (Diagram.ofLines ["", "Class: A$", "Fields:", "B ---> b", "Extends: c.C"]).IsPlain :=
    ⟨by decide, by decide⟩
  have hlines : (draw.render ["Class: a.A$", "Fields:", "- B ---> b", "Extends: C"]).lines =
      (draw.render ["", "Class: A$", "Fields:", "B ---> b", "Extends: c.C"]).lines := by
    decide +kernel
  exact ⟨hx, hy, (lines_determine_page hx hy).2.1.mp hlines⟩

/-- With other names there may be two diagrams to the same lines. -/
example :
    (draw.render ["Class: A", "Methods:", "b : C <|-- B", "Class: B", "Extends: A ---> C"]).lines =
        (draw.render ["Class: A", "Fields:", "C <|-- B b", "Class: B"]).lines ∧
      (Survey.ofLines ["Class: A", "Methods:", "b : C <|-- B", "Class: B",
          "Extends: A ---> C"]).relations = [⟨.inheritance, "B", "A ---> C"⟩] ∧
      (Survey.ofLines ["Class: A", "Fields:", "C <|-- B b", "Class: B"]).relations =
        [⟨.composition, "A", "C <|-- B"⟩] := by
  decide +kernel

end PlantUml

end ClassDiagram
