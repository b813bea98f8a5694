import ClassDiagram.Proofs.Ignoring.Owned

/-! # The lines that are kept

Whether a line stays when entities are taken out can be told from its place in the stream: a header
goes by its own name, and any other line by the last header or separator before it. A pass over the
stream need not look back for that. It may tell four phases apart, but in the two that a section
of fields or methods puts it in it keeps the same lines as in the one it starts in.
-/

namespace ClassDiagram

variable {ignored lines : List String} {i j k : Nat}

/-! ## The phases of a pass -/

namespace Ignoring

/-- What a pass over the stream has come to between two lines. -/
inductive Phase
  | passing
  | skipping
  | inFields
  | inMethods
  deriving DecidableEq

namespace Phase

/-- The phase after a record, and whether its line is kept. -/
def next (ignored : List String) : Phase → Record → Phase × Bool
  | _, .header _ name =>
    if ignored.contains (simpleName name) then (skipping, false) else (passing, true)
  | skipping, .separator => (passing, false)
  | skipping, _ => (skipping, false)
  | _, .separator => (passing, true)
  | _, .opener .fields => (inFields, true)
  | _, .opener .methods => (inMethods, true)
  | p, _ => (p, true)

/-- The lines that a pass keeps from a phase on. -/
def pass (ignored : List String) : Phase → List String → List String
  | _, [] => []
  | p, l :: ls =>
    (if (p.next ignored (Record.ofLine l)).2 then [l] else []) ++
      pass ignored (p.next ignored (Record.ofLine l)).1 ls

/-- For the line and for the phase after it, it matters whether the pass is skipping, and no more
than that. -/
theorem next_eq (ignored : List String) (p : Phase) (line : String) :
    (p.next ignored (Record.ofLine line)).2 = keeps ignored (p == skipping) line ∧
      ((p.next ignored (Record.ofLine line)).1 == skipping) =
        skips ignored (p == skipping) line := by
  unfold keeps skips
  cases Record.ofLine line with
  | header kind name =>
    have hnext : p.next ignored (.header kind name) =
        if ignored.contains (simpleName name) then (skipping, false) else (passing, true) := by
      cases p <;> rfl
    simp only [hnext]
    cases ignored.contains (simpleName name) <;> exact ⟨rfl, rfl⟩
  | opener members => cases p <;> cases members <;> exact ⟨rfl, rfl⟩
  | _ => cases p <;> exact ⟨rfl, rfl⟩

theorem pass_eq_filterFrom (p : Phase) (lines : List String) :
    p.pass ignored lines = filterFrom ignored (p == skipping) lines := by
  induction lines generalizing p with
  | nil => rfl
  | cons line lines ih =>
    obtain ⟨hkeeps, hskips⟩ := next_eq ignored p line
    rw [pass, filterFrom, ih, hkeeps, hskips]

theorem pass_eq_withoutEntities {p : Phase} (h : p ≠ skipping) (lines : List String) :
    p.pass ignored lines = withoutEntities ignored lines := by
  rw [pass_eq_filterFrom, beq_false_of_ne h, withoutEntities]

end Phase

end Ignoring

/-! ## Places -/

/-- The record at a place of the stream. Places are counted from zero. -/
def recordAt? (lines : List String) (i : Nat) : Option Record :=
  lines[i]?.map Record.ofLine

def BoundaryAt (lines : List String) (i : Nat) : Prop :=
  ∃ r, recordAt? lines i = some r ∧ r.isBoundary = true

def HeaderAt (lines : List String) (i : Nat) : Prop :=
  ∃ kind name, recordAt? lines i = some (.header kind name)

/-- The last header or separator before the place `i` stands at `j`. -/
structure IsLastBoundary (lines : List String) (i j : Nat) : Prop where
  lt : j < i
  boundary : BoundaryAt lines j
  last : ∀ k, j < k → k < i → ¬ BoundaryAt lines k

theorem boundaryAt_iff {line : String} (h : lines[i]? = some line) :
    BoundaryAt lines i ↔ (Record.ofLine line).isBoundary = true := by
  simp [BoundaryAt, recordAt?, h]

theorem HeaderAt.boundaryAt (h : HeaderAt lines i) : BoundaryAt lines i := by
  obtain ⟨kind, name, hr⟩ := h
  exact ⟨_, hr, rfl⟩

theorem BoundaryAt.separator_or_headerAt (h : BoundaryAt lines i) :
    recordAt? lines i = some .separator ∨ HeaderAt lines i := by
  obtain ⟨r, hr, hb⟩ := h
  cases r with
  | header kind name => exact .inr ⟨kind, name, hr⟩
  | separator => exact .inl hr
  | _ => cases hb

namespace IsLastBoundary

theorem unique (hj : IsLastBoundary lines i j) (hk : IsLastBoundary lines i k) : j = k := by
  rcases lt_trichotomy j k with h | h | h
  · exact absurd hk.boundary (hj.last k h hk.lt)
  · exact h
  · exact absurd hj.boundary (hk.last j h hj.lt)

theorem succ (h : IsLastBoundary lines i j) (hi : ¬ BoundaryAt lines i) :
    IsLastBoundary lines (i + 1) j where
  lt := Nat.lt_succ_of_lt h.lt
  boundary := h.boundary
  last k hjk hk := by
    rcases Nat.lt_succ_iff_lt_or_eq.mp hk with hlt | rfl
    · exact h.last k hjk hlt
    · exact hi

end IsLastBoundary

theorem last?_take_succ {line : String} (h : lines[i]? = some line) :
    LookBack.last? Record.isBoundary (lines.take (i + 1)) =
      if (Record.ofLine line).isBoundary then some (Record.ofLine line)
      else LookBack.last? Record.isBoundary (lines.take i) := by
  rw [List.take_add_one, h]
  exact LookBack.last?_append_singleton _ _ _

theorem last?_take_cases (lines : List String) (i : Nat) :
    LookBack.last? Record.isBoundary (lines.take i) = none ∧ (∀ j < i, ¬ BoundaryAt lines j) ∨
      ∃ j r, LookBack.last? Record.isBoundary (lines.take i) = some r ∧
        IsLastBoundary lines i j ∧ recordAt? lines j = some r := by
  induction i with
  | zero => exact .inl ⟨rfl, nofun⟩
  | succ i ih =>
    by_cases hb : BoundaryAt lines i
    · obtain ⟨r, hr, hbr⟩ := hb
      obtain ⟨line, hline, rfl⟩ := Option.map_eq_some_iff.mp hr
      refine .inr ⟨i, _, ?_, ⟨Nat.lt_succ_self i, ⟨_, hr, hbr⟩, by omega⟩, hr⟩
      rw [last?_take_succ hline, if_pos hbr]
    · have hlast : LookBack.last? Record.isBoundary (lines.take (i + 1)) =
          LookBack.last? Record.isBoundary (lines.take i) := by
        cases hline : lines[i]? with
        | none => simp [List.take_add_one, hline]
        | some line => rw [last?_take_succ hline, if_neg (mt (boundaryAt_iff hline).mpr hb)]
      rw [hlast]
      rcases ih with ⟨hnone, hfree⟩ | ⟨j, r, hr, hj, hrec⟩
      · refine .inl ⟨hnone, fun j hj => ?_⟩
        rcases Nat.lt_succ_iff_lt_or_eq.mp hj with hlt | rfl
        · exact hfree j hlt
        · exact hb
      · exact .inr ⟨j, r, hr, hj.succ hb, hrec⟩

theorem exists_isLastBoundary (h : BoundaryAt lines j) (hji : j < i) :
    ∃ k, IsLastBoundary lines i k ∧ j ≤ k := by
  rcases last?_take_cases lines i with ⟨-, hfree⟩ | ⟨k, r, -, hk, -⟩
  · exact absurd h (hfree j hji)
  · refine ⟨k, hk, ?_⟩
    by_contra hlt
    exact hk.last j (by omega) hji h

theorem last?_take_eq_some_iff {r : Record} :
    LookBack.last? Record.isBoundary (lines.take i) = some r ↔
      ∃ j, IsLastBoundary lines i j ∧ recordAt? lines j = some r := by
  rcases last?_take_cases lines i with ⟨hnone, hfree⟩ | ⟨j, s, hs, hj, hrec⟩
  · simp only [hnone, reduceCtorEq, false_iff, not_exists, not_and]
    intro j hj
    exact absurd hj.boundary (hfree j hj.lt)
  · rw [hs, ← hrec]
    constructor
    · intro hr
      exact ⟨j, hj, hr⟩
    · rintro ⟨k, hk, hr⟩
      obtain rfl := hj.unique hk
      exact hr

theorem inside_iff {before : List String} :
    Ignoring.inside ignored before = true ↔
      ∃ kind name, LookBack.last? Record.isBoundary before = some (.header kind name) ∧
        simpleName name ∈ ignored := by
  unfold Ignoring.inside
  cases LookBack.last? Record.isBoundary before with
  | none => simp
  | some r => cases r <;> simp

theorem inside_take_iff :
    Ignoring.inside ignored (lines.take i) = true ↔
      ∃ j kind name, IsLastBoundary lines i j ∧ recordAt? lines j = some (.header kind name) ∧
        simpleName name ∈ ignored := by
  simp only [inside_iff, last?_take_eq_some_iff]
  constructor
  · rintro ⟨kind, name, ⟨j, hj, hhead⟩, hname⟩
    exact ⟨j, kind, name, hj, hhead, hname⟩
  · rintro ⟨j, kind, name, hj, hhead, hname⟩
    exact ⟨kind, name, ⟨j, hj, hhead⟩, hname⟩

/-! ## What is kept -/

/-- The line at the place stays: a header if its name is not ignored, and another line if no header
or separator stands before it, or if the last one that does is a separator or is not ignored. -/
inductive KeptAt (ignored lines : List String) (i : Nat) : Prop
  | header {kind : EntityKind} {name : String}
      (here : recordAt? lines i = some (.header kind name)) (kept : simpleName name ∉ ignored)
  | first {r : Record} (here : recordAt? lines i = some r) (other : r.isHeader = false)
      (free : ∀ j < i, ¬ BoundaryAt lines j)
  | afterSeparator {r : Record} {j : Nat} (here : recordAt? lines i = some r)
      (other : r.isHeader = false) (last : IsLastBoundary lines i j)
      (separator : recordAt? lines j = some .separator)
  | afterHeader {r : Record} {j : Nat} {kind : EntityKind} {name : String}
      (here : recordAt? lines i = some r) (other : r.isHeader = false)
      (last : IsLastBoundary lines i j) (header : recordAt? lines j = some (.header kind name))
      (kept : simpleName name ∉ ignored)

def keptAtB (ignored lines : List String) (i : Nat) : Bool :=
  match lines[i]? with
  | some line => !Occurrence.owned ignored ⟨lines.take i, line⟩
  | none => false

theorem KeptAt.exists_recordAt? (h : KeptAt ignored lines i) : ∃ r, recordAt? lines i = some r := by
  cases h <;> exact ⟨_, ‹_›⟩

theorem keptAt_header_iff {kind : EntityKind} {name : String}
    (here : recordAt? lines i = some (.header kind name)) :
    KeptAt ignored lines i ↔ simpleName name ∉ ignored := by
  have hother {r : Record} (hr : recordAt? lines i = some r) : r.isHeader = true := by
    obtain rfl := Option.some.inj (here.symm.trans hr)
    rfl
  constructor
  · intro hkept
    cases hkept with
    | header hhead kept =>
      obtain ⟨-, rfl⟩ : kind = _ ∧ name = _ := by simpa [here] using hhead
      exact kept
    | _ hr other => simp [hother hr] at other
  · exact .header here

/-- Any other line goes exactly if the header last before it is ignored. -/
theorem keptAt_other_iff {r : Record} (here : recordAt? lines i = some r)
    (other : r.isHeader = false) :
    KeptAt ignored lines i ↔ Ignoring.inside ignored (lines.take i) = false := by
  rw [← Bool.not_eq_true, inside_take_iff]
  constructor
  · rintro hkept ⟨j, kind, name, hj, hhead, hname⟩
    cases hkept with
    | header hr =>
      obtain rfl := Option.some.inj (here.symm.trans hr)
      cases other
    | first _ _ free => exact free j hj.lt hj.boundary
    | afterSeparator _ _ last separator =>
      obtain rfl := hj.unique last
      simp [hhead] at separator
    | afterHeader _ _ last header kept =>
      obtain rfl := hj.unique last
      obtain ⟨-, rfl⟩ : kind = _ ∧ name = _ := by simpa [hhead] using header
      exact kept hname
  · intro hout
    rcases last?_take_cases lines i with ⟨-, hfree⟩ | ⟨j, -, -, hj, -⟩
    · exact .first here other hfree
    · rcases hj.boundary.separator_or_headerAt with hsep | ⟨kind, name, hhead⟩
      · exact .afterSeparator here other hj hsep
      · exact .afterHeader here other hj hhead fun hname => hout ⟨j, kind, name, hj, hhead, hname⟩

theorem keptAtB_iff : keptAtB ignored lines i = true ↔ KeptAt ignored lines i := by
  unfold keptAtB
  cases hline : lines[i]? with
  | none =>
    simp only [Bool.false_eq_true, false_iff]
    intro hkept
    obtain ⟨r, hr⟩ := hkept.exists_recordAt?
    simp [recordAt?, hline] at hr
  | some line =>
    have here : recordAt? lines i = some (Record.ofLine line) := by simp [recordAt?, hline]
    cases hr : Record.ofLine line with
    | header kind name =>
      simp [Occurrence.owned, hr, keptAt_header_iff (here.trans (congrArg some hr))]
    | _ => simp [Occurrence.owned, hr, keptAt_other_iff (here.trans (congrArg some hr)) rfl]

instance : DecidablePred (KeptAt ignored lines) :=
  fun _ => decidable_of_iff _ keptAtB_iff

theorem keptAt_append_left {more : List String} (h : i < lines.length) :
    KeptAt ignored (lines ++ more) i ↔ KeptAt ignored lines i := by
  rw [← keptAtB_iff, ← keptAtB_iff, keptAtB, keptAtB, List.getElem?_append_left h,
    List.take_append_of_le_length h.le]

theorem keptAt_append_singleton (lines : List String) (line : String) :
    KeptAt ignored (lines ++ [line]) lines.length ↔
      Occurrence.owned ignored ⟨lines, line⟩ = false := by
  simp [← keptAtB_iff, keptAtB]

theorem withoutEntities_eq_filterMap_range (ignored lines : List String) :
    withoutEntities ignored lines =
      ((List.range lines.length).filter fun i => KeptAt ignored lines i).filterMap (lines[·]?) := by
  induction lines using List.reverseRecOn with
  | nil => rfl
  | append_singleton xs x ih =>
    have hkept : (List.range xs.length).filter (fun i => decide (KeptAt ignored (xs ++ [x]) i)) =
        (List.range xs.length).filter fun i => decide (KeptAt ignored xs i) := by
      refine List.filter_congr fun i hi => ?_
      simp [keptAt_append_left (List.mem_range.mp hi)]
    rw [withoutEntities_append_singleton, ih, List.length_append, List.length_singleton,
      List.range_succ, List.filter_append, List.filterMap_append, hkept]
    congr 1
    · refine List.filterMap_congr fun i hi => ?_
      rw [List.getElem?_append_left (List.mem_range.mp (List.mem_filter.mp hi).1)]
    · cases ho : Occurrence.owned ignored ⟨xs, x⟩ <;> simp [keptAt_append_singleton, ho]

/-- All lines behind the place stay, up to the next header. -/
def Ignoring.StaysBehind (ignored lines : List String) (j : Nat) : Prop :=
  ∀ i r, j < i → (∀ k, j < k → k < i → ¬ HeaderAt lines k) → recordAt? lines i = some r →
    r.isHeader = false → KeptAt ignored lines i

theorem BoundaryAt.staysBehind (hj : BoundaryAt lines j)
    (hkept : ∀ kind name, recordAt? lines j = some (.header kind name) →
      simpleName name ∉ ignored) : Ignoring.StaysBehind ignored lines j := by
  intro i r hji hfree here other
  obtain ⟨k, hk, hjk⟩ := exists_isLastBoundary hj hji
  rcases hk.boundary.separator_or_headerAt with hsep | ⟨kind, name, hhead⟩
  · exact .afterSeparator here other hk hsep
  · rcases Nat.eq_or_lt_of_le hjk with rfl | hlt
    · exact .afterHeader here other hk hhead (hkept kind name hhead)
    · exact absurd ⟨kind, name, hhead⟩ (hfree k hlt hk.lt)

/-- What becomes of the line at `j` if the last header or separator before it is the header of an
ignored entity. A line of the entity goes with it, a separator goes as well, and another header
stays if it is not ignored. With either of them the entity is over. -/
structure Ignoring.EndsAt (ignored lines : List String) (j : Nat) : Prop where
  inner : ¬ BoundaryAt lines j → ¬ KeptAt ignored lines j
  separator : recordAt? lines j = some .separator →
    ¬ KeptAt ignored lines j ∧ StaysBehind ignored lines j
  header : ∀ kind name, recordAt? lines j = some (.header kind name) → simpleName name ∉ ignored →
    KeptAt ignored lines j ∧ StaysBehind ignored lines j

theorem endsAt_of_isLastBoundary {kind : EntityKind} {name : String}
    (hi : recordAt? lines i = some (.header kind name)) (hname : simpleName name ∈ ignored)
    (hij : IsLastBoundary lines j i) : Ignoring.EndsAt ignored lines j := by
  have hgone {r : Record} (here : recordAt? lines j = some r) (other : r.isHeader = false) :
      ¬ KeptAt ignored lines j := by
    rw [keptAt_other_iff here other, inside_take_iff.mpr ⟨i, kind, name, hij, hi, hname⟩]
    exact Bool.noConfusion
  constructor
  · intro hinner hkept
    obtain ⟨r, here⟩ := hkept.exists_recordAt?
    refine hgone here (Bool.eq_false_iff.mpr fun hr => hinner ⟨r, here, ?_⟩) hkept
    cases r with
    | header => rfl
    | _ => cases hr
  · intro hsep
    have hb : BoundaryAt lines j := ⟨_, hsep, rfl⟩
    exact ⟨hgone hsep rfl, hb.staysBehind (by simp [hsep])⟩
  · intro kind' name' hhead hkept
    have hb : HeaderAt lines j := ⟨kind', name', hhead⟩
    refine ⟨.header hhead hkept, hb.boundaryAt.staysBehind ?_⟩
    simp only [hhead, Option.some.injEq, Record.header.injEq, and_imp]
    rintro _ _ rfl rfl
    exact hkept

/-- The lines at the kept places are left, in their order and as they were. An ignored entity ends
with the next separator, which goes with it, or before the next header, and what follows up to the
header after that stays. A pass in four phases keeps the same lines in all phases but one. -/
theorem kept_lines_are_left (ignored lines : List String) :
    withoutEntities ignored lines =
        ((List.range lines.length).filter fun i => KeptAt ignored lines i).filterMap (lines[·]?) ∧
      (∀ i j kind name, recordAt? lines i = some (.header kind name) → simpleName name ∈ ignored →
        IsLastBoundary lines j i → Ignoring.EndsAt ignored lines j) ∧
      ∀ p : Ignoring.Phase, p ≠ .skipping → p.pass ignored lines = withoutEntities ignored lines :=
  ⟨withoutEntities_eq_filterMap_range ignored lines,
    fun _ _ _ _ hi hname hij => endsAt_of_isLastBoundary hi hname hij,
    fun _ hp => Ignoring.Phase.pass_eq_withoutEntities hp lines⟩

/-- A second separator stays, and so does what stands between the two. -/
example :
    (List.range 7).filter (fun i => KeptAt ["A"]
        ["Class: a.A", "Fields:", "----", "Methods:", "----", "Class: A", "Class: B"] i) =
      [3, 4, 6] := by
  decide

end ClassDiagram
