import Mathlib.Algebra.BigOperators.Fin
import Mathlib.Data.List.OfFn
import ClassDiagram.Proofs.Drawing.Diagram
import ClassDiagram.Proofs.Scan.Concatenation

/-! # Diagrams piece by piece

Streams that are severed are drawn as one diagram: the blocks of the first and then those of the
second, and the relations and the defects likewise. A stream that is cut into such pieces can be
put together in any order, and its diagram is put together in the same order.
-/

namespace ClassDiagram

namespace Diagram

instance : Append Diagram :=
  ⟨fun d e => ⟨d.blocks ++ e.blocks, d.relations ++ e.relations⟩⟩

/-- One diagram of several, in their order. -/
def join (ds : List Diagram) : Diagram :=
  ⟨ds.flatMap blocks, ds.flatMap relations⟩

/-- The diagram of two severed streams is that of the first and then that of the second. -/
theorem ofLines_append {xs ys : List String} (h : severed xs ys = true) :
    ofLines (xs ++ ys) = ofLines xs ++ ofLines ys := by
  have hevents : (Survey.ofLines (xs ++ ys)).events =
      (Survey.ofLines xs).events ++ (ofLines ys).blocks.flatMap Block.events := by
    rw [Survey.ofLines_append h, ofLines, ← Survey.events_eq_flatMap]
    rfl
  have hblocks : (ofLines (xs ++ ys)).blocks = (ofLines xs).blocks ++ (ofLines ys).blocks := by
    rw [ofLines, Survey.ofEvents_eq_gather, hevents, Block.gather_append,
      Block.foldl_extend_flatMap_events, ← Survey.ofEvents_eq_gather]
    rfl
  have hrelations : (ofLines (xs ++ ys)).relations =
      (ofLines xs).relations ++ (ofLines ys).relations := by
    rw [ofLines, Survey.ofLines_append h]
    rfl
  calc ofLines (xs ++ ys)
    _ = ⟨(ofLines (xs ++ ys)).blocks, (ofLines (xs ++ ys)).relations⟩ := rfl
    _ = ofLines xs ++ ofLines ys := by
      rw [hblocks, hrelations]
      rfl

theorem length_blocks_join_ofFn {n : ℕ} (ds : Fin n → Diagram) :
    (join (List.ofFn ds)).blocks.length = ∑ i, (ds i).blocks.length := by
  simp [join, List.length_flatMap, List.map_ofFn, List.sum_ofFn, Function.comp_def]

theorem length_relations_join_ofFn {n : ℕ} (ds : Fin n → Diagram) :
    (join (List.ofFn ds)).relations.length = ∑ i, (ds i).relations.length := by
  simp [join, List.length_flatMap, List.map_ofFn, List.sum_ofFn, Function.comp_def]

end Diagram

/-- The defects of a stream without their numbers. -/
def reports (lines : List String) : List Defect :=
  (Survey.ofLines lines).defects.map Defect.unnumbered

theorem reports_append {xs ys : List String} (h : severed xs ys = true) :
    reports (xs ++ ys) = reports xs ++ reports ys := by
  have hmoved : Defect.unnumbered ∘ Defect.moved xs.length = Defect.unnumbered := rfl
  rw [reports, Survey.ofLines_append h, Survey.followedBy, List.map_append, List.map_map, hmoved]
  rfl

/-- The pieces all begin with a header, or all end with a separator. -/
def separable (pieces : List (List String)) : Bool :=
  pieces.all beginsWithHeader || pieces.all endsWithSeparator

theorem beginsWithHeader_flatten {pieces : List (List String)}
    (h : pieces.all beginsWithHeader = true) : beginsWithHeader pieces.flatten = true := by
  induction pieces with
  | nil => rfl
  | cons p pieces ih =>
    rw [List.all_cons, Bool.and_eq_true] at h
    have hrest := ih h.2
    have hp := h.1
    unfold beginsWithHeader at hp hrest ⊢
    rw [List.flatten_cons, written_append, List.head?_append]
    cases hw : (written p).head? with
    | none => exact hrest -- a blank piece leaves the first line to the pieces after it
    | some line =>
      rw [hw] at hp
      exact hp

theorem separable_cons {p : List String} {pieces : List (List String)}
    (h : separable (p :: pieces) = true) :
    severed p pieces.flatten = true ∧ separable pieces = true := by
  simp only [separable, List.all_cons, Bool.or_eq_true, Bool.and_eq_true] at h
  simp only [severed, separable, Bool.or_eq_true]
  rcases h with ⟨-, hrest⟩ | ⟨hp, hrest⟩
  · exact ⟨.inr (beginsWithHeader_flatten hrest), .inl hrest⟩
  · exact ⟨.inl hp, .inr hrest⟩

theorem ofLines_flatten {pieces : List (List String)} (h : separable pieces = true) :
    Diagram.ofLines pieces.flatten = .join (pieces.map .ofLines) ∧
      reports pieces.flatten = (pieces.map reports).flatten := by
  induction pieces with
  | nil => exact ⟨rfl, rfl⟩
  | cons p pieces ih =>
    obtain ⟨hsevered, hrest⟩ := separable_cons h
    obtain ⟨hdiagram, hreports⟩ := ih hrest
    rw [List.flatten_cons, Diagram.ofLines_append hsevered, reports_append hsevered, hdiagram,
      hreports]
    exact ⟨rfl, rfl⟩

theorem separable_ofFn {n : ℕ} {pieces : Fin n → List String}
    (h : (∀ i, beginsWithHeader (pieces i) = true) ∨ ∀ i, endsWithSeparator (pieces i) = true)
    (order : Equiv.Perm (Fin n)) : separable (List.ofFn (pieces ∘ order)) = true := by
  simp only [separable, Bool.or_eq_true, List.all_eq_true, List.mem_ofFn]
  rcases h with hbegin | hend
  · left
    rintro p ⟨i, rfl⟩
    exact hbegin (order i)
  · right
    rintro p ⟨i, rfl⟩
    exact hend (order i)

/-- Two severed streams are drawn one after the other in either notation, and the defects of the
second are reported as many lines further down as the first has. Pieces that all begin with a
header or all end with a separator can be put in any order: their blocks, relations and defects
come in the same order, and nothing else changes but the numbers of lines. -/
theorem drawn_piece_by_piece :
    (∀ xs ys : List String, severed xs ys = true →
      DrawnBy (Registry.standard.render · (xs ++ ys)) (.ofLines xs ++ .ofLines ys)
        ((Survey.ofLines xs).defects ++ (Survey.ofLines ys).defects.map (.moved xs.length)) ∧
      (Diagram.ofLines xs ++ Diagram.ofLines ys).blocks.length =
        (Diagram.ofLines xs).blocks.length + (Diagram.ofLines ys).blocks.length ∧
      (Diagram.ofLines xs ++ Diagram.ofLines ys).relations.length =
        (Diagram.ofLines xs).relations.length + (Diagram.ofLines ys).relations.length) ∧
    ∀ (n : ℕ) (pieces : Fin n → List String),
      ((∀ i, beginsWithHeader (pieces i) = true) ∨ ∀ i, endsWithSeparator (pieces i) = true) →
      ∀ order : Equiv.Perm (Fin n), ∃ (d : Diagram) (defects : List Defect),
        DrawnBy (Registry.standard.render · (List.ofFn (pieces ∘ order)).flatten) d defects ∧
        d = .join (List.ofFn fun i => .ofLines (pieces (order i))) ∧
        defects.map Defect.unnumbered = (List.ofFn fun i => reports (pieces (order i))).flatten ∧
        d.blocks.length = ∑ i, (Diagram.ofLines (pieces i)).blocks.length ∧
        d.relations.length = ∑ i, (Diagram.ofLines (pieces i)).relations.length := by
  constructor
  · intro xs ys h
    have hdrawn := drawnBy_render (xs ++ ys)
    rw [Diagram.ofLines_append h, Survey.ofLines_append h] at hdrawn
    exact ⟨hdrawn, List.length_append, List.length_append⟩
  · intro n pieces h order
    obtain ⟨hdiagram, hreports⟩ := ofLines_flatten (separable_ofFn h order)
    rw [List.map_ofFn] at hdiagram hreports
    refine ⟨_, _, drawnBy_render _, hdiagram, hreports, ?_, ?_⟩
    · rw [hdiagram, Diagram.length_blocks_join_ofFn]
      exact Equiv.sum_comp order fun i => (Diagram.ofLines (pieces i)).blocks.length
    · rw [hdiagram, Diagram.length_relations_join_ofFn]
      exact Equiv.sum_comp order fun i => (Diagram.ofLines (pieces i)).relations.length

/-- A class that is left open and a header without a name, in either order. -/
theorem two_pieces_exchanged :
    severed ["Class: A", "Fields:", "- B b"] ["", "Class:", "- int x"] = true ∧
    (∀ i, beginsWithHeader
      (![["Class: A", "Fields:", "- B b"], ["", "Class:", "- int x"]] i) = true) ∧
    DrawnBy (Registry.standard.render · ["Class: A", "Fields:", "- B b", "", "Class:", "- int x"])
      (.ofLines ["Class: A", "Fields:", "- B b"] ++ .ofLines ["", "Class:", "- int x"])
      [⟨5, "Class:", none, .missingEntityName⟩] ∧
    ∃ (d : Diagram) (defects : List Defect),
      DrawnBy (Registry.standard.render · ["", "Class:", "- int x", "Class: A", "Fields:", "- B b"])
        d defects ∧
      d.relations = [⟨.composition, "A", "B"⟩] ∧
      defects.map Defect.unnumbered = [⟨0, "Class:", none, .missingEntityName⟩] := by
  have hbegin : ∀ i, beginsWithHeader
      (![["Class: A", "Fields:", "- B b"], ["", "Class:", "- int x"]] i) = true := by
    decide
  have hdefects : (Survey.ofLines ["Class: A", "Fields:", "- B b"]).defects ++
      (Survey.ofLines ["", "Class:", "- int x"]).defects.map (.moved 3) =
      [⟨5, "Class:", none, .missingEntityName⟩] := by
    decide
  refine ⟨by decide, hbegin, ?_, ?_⟩
  · obtain ⟨hdrawn, -, -⟩ := drawn_piece_by_piece.1 ["Class: A", "Fields:", "- B b"]
      ["", "Class:", "- int x"] (by decide)
    rw [← hdefects]
    exact hdrawn
  · obtain ⟨d, defects, hdrawn, hjoin, hreports, -⟩ :=
      drawn_piece_by_piece.2 2 _ (.inl hbegin) (Equiv.swap 0 1)
    refine ⟨d, defects, hdrawn, ?_, hreports.trans (by decide)⟩
    rw [hjoin]
    decide

end ClassDiagram
