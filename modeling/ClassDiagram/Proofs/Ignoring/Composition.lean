import ClassDiagram.Proofs.Ignoring.Kept
import ClassDiagram.Proofs.Ignoring.Rendering
import ClassDiagram.Proofs.Ignoring.Survivors

/-! # Taking entities out again

A stream is left as it is exactly if none of its headers is ignored, so taking the same entities out
twice is taking them out once. Other entities may be taken out after them: if the headers of the
stream are kept apart by separators, this comes to taking them all out at once. Without separators
it need not, for a separator that has gone with an entity no longer ends the one before it.
-/

namespace ClassDiagram

variable {ignored I J lines xs : List String} {x : String}

/-! ## Once more the same -/

theorem withoutEntities_of_forall_headings (h : ∀ g ∈ headings lines, g.2 ∉ ignored) :
    withoutEntities ignored lines = lines := by
  unfold withoutEntities
  induction lines with
  | nil => rfl
  | cons line lines ih =>
    simp only [headings_cons, List.mem_append, Option.mem_toList] at h
    have hkeeps : Ignoring.keeps ignored false line = true ∧
        Ignoring.skips ignored false line = false := by
      unfold Ignoring.keeps Ignoring.skips
      cases hr : Record.ofLine line with
      | header kind name => simpa using h _ (.inl (heading?_eq_some hr))
      | _ => exact ⟨rfl, rfl⟩
    rw [Ignoring.filterFrom, hkeeps.1, hkeeps.2, ih fun g hg => h g (.inr hg)]
    rfl

theorem notMem_of_mem_headings_withoutEntities {g : EntityKind × String}
    (h : g ∈ headings (withoutEntities ignored lines)) : g.2 ∉ ignored := by
  rw [headings_withoutEntities, List.mem_filter] at h
  exact of_decide_eq_true h.2

theorem withoutEntities_eq_self_iff :
    withoutEntities ignored lines = lines ↔ ∀ g ∈ headings lines, g.2 ∉ ignored := by
  constructor
  · intro h g hg
    rw [← h] at hg
    exact notMem_of_mem_headings_withoutEntities hg
  · exact withoutEntities_of_forall_headings

/-- A stream is left as it is exactly if no header of it is ignored, and what is left is then left
as it is. So a registry may ignore entities or draw what is left without them, and it draws plainly
all that it is given if there is nothing to ignore. -/
theorem withoutEntities_idempotent_and_render_eq (ignored lines : List String) :
    (withoutEntities ignored lines = lines ↔ ∀ g ∈ headings lines, g.2 ∉ ignored) ∧
      withoutEntities ignored (withoutEntities ignored lines) = withoutEntities ignored lines ∧
      ∀ (g : Registry) (key : String),
        g.renderWithout key [] lines = g.render key lines ∧
        g.renderWithout key ignored lines =
          g.renderWithout key [] (withoutEntities ignored lines) ∧
        g.renderWithout key ignored lines = g.render key (withoutEntities ignored lines) ∧
        ((∀ h ∈ headings lines, h.2 ∉ ignored) →
          g.renderWithout key ignored lines = g.render key lines) := by
  refine ⟨withoutEntities_eq_self_iff, ?_, fun g key => ⟨rfl, ?_, ?_, fun h => ?_⟩⟩
  · exact withoutEntities_of_forall_headings fun _ => notMem_of_mem_headings_withoutEntities
  · exact g.renderWithout_eq key ignored lines
  · exact g.renderWithout_eq key ignored lines
  · rw [g.renderWithout_eq, withoutEntities_of_forall_headings h]

/-! ## Headers kept apart -/

/-- Between two headers that follow each other there is a separator. Any other lines may stand in
front of it and behind it. -/
def IsSeparated (lines : List String) : Prop :=
  ∀ i j, i < j → HeaderAt lines i → HeaderAt lines j → (∀ k, i < k → k < j → ¬ HeaderAt lines k) →
    ∃ k, i < k ∧ k < j ∧ recordAt? lines k = some .separator

/-- The last header or separator is a header. -/
def LookBack.inEntity (before : List String) : Bool :=
  (last? Record.isBoundary before).any Record.isHeader

theorem inEntity_iff :
    LookBack.inEntity xs = true ↔
      ∃ kind name, LookBack.last? Record.isBoundary xs = some (.header kind name) := by
  unfold LookBack.inEntity
  cases LookBack.last? Record.isBoundary xs with
  | none => simp
  | some r => cases r <;> simp [Record.isHeader]

theorem inEntity_take_iff {j : Nat} :
    LookBack.inEntity (lines.take j) = true ↔ ∃ i, IsLastBoundary lines j i ∧ HeaderAt lines i := by
  simp only [inEntity_iff, last?_take_eq_some_iff]
  constructor
  · rintro ⟨kind, name, i, hi, hhead⟩
    exact ⟨i, hi, kind, name, hhead⟩
  · rintro ⟨i, hi, kind, name, hhead⟩
    exact ⟨kind, name, i, hi, hhead⟩

theorem isSeparated_iff :
    IsSeparated lines ↔ ∀ j, HeaderAt lines j → LookBack.inEntity (lines.take j) = false := by
  simp only [← Bool.not_eq_true, inEntity_take_iff]
  constructor
  · rintro h j hj ⟨i, hij, hi⟩
    have hfree (k : Nat) (hik : i < k) (hkj : k < j) : ¬ HeaderAt lines k :=
      fun hk => hij.last k hik hkj hk.boundaryAt
    obtain ⟨k, hik, hkj, hsep⟩ := h i j hij.lt hi hj hfree
    exact hij.last k hik hkj ⟨_, hsep, rfl⟩
  · intro h i j hij hi hj _
    obtain ⟨k, hk, hik⟩ := exists_isLastBoundary hi.boundaryAt hij
    have hsep := hk.boundary.separator_or_headerAt.resolve_right fun hhead => h j hj ⟨k, hk, hhead⟩
    rcases Nat.eq_or_lt_of_le hik with rfl | hlt
    · obtain ⟨kind, name, hhead⟩ := hi
      simp [hhead] at hsep
    · exact ⟨k, hlt, hk.lt, hsep⟩

def isSeparatedB (lines : List String) : Bool :=
  (occurrences lines).all fun o => !((Record.ofLine o.line).isHeader && LookBack.inEntity o.before)

theorem isSeparatedB_iff : isSeparatedB lines = true ↔ IsSeparated lines := by
  simp only [isSeparated_iff, isSeparatedB, List.all_eq_true, Bool.not_eq_true',
    Bool.and_eq_false_imp]
  constructor
  · rintro h j ⟨kind, name, hr⟩
    obtain ⟨line, hline, hof⟩ := Option.map_eq_some_iff.mp hr
    exact h ⟨lines.take j, line⟩ (mem_occurrences_iff_getElem?.mpr ⟨j, hline, rfl⟩)
      (by rw [hof]; rfl)
  · intro h o ho hhead
    obtain ⟨j, hline, hbefore⟩ := mem_occurrences_iff_getElem?.mp ho
    rw [hbefore]
    refine h j ?_
    cases hr : Record.ofLine o.line with
    | header kind name => exact ⟨kind, name, by simp [recordAt?, hline, hr]⟩
    | _ => simp [hr, Record.isHeader] at hhead

instance : DecidablePred IsSeparated :=
  fun _ => decidable_of_iff _ isSeparatedB_iff

theorem isSeparated_append_singleton :
    IsSeparated (xs ++ [x]) ↔
      IsSeparated xs ∧ ((Record.ofLine x).isHeader = true → LookBack.inEntity xs = false) := by
  simp only [← isSeparatedB_iff, isSeparatedB, occurrences_append_singleton, List.all_append,
    List.all_cons, List.all_nil, Bool.and_true, Bool.and_eq_true, Bool.not_eq_true',
    Bool.and_eq_false_imp]

/-! ## Other entities after them -/

/-- The header that is last among what is left was last before: what kept it apart from the next
one is still there, or both are gone. -/
theorem last?_withoutEntities_eq_header_iff (h : IsSeparated xs) {kind : EntityKind}
    {name : String} :
    LookBack.last? Record.isBoundary (withoutEntities ignored xs) = some (.header kind name) ↔
      LookBack.last? Record.isBoundary xs = some (.header kind name) ∧
        simpleName name ∉ ignored := by
  induction xs using List.reverseRecOn with
  | nil => simp [LookBack.last?, withoutEntities, Ignoring.filterFrom]
  | append_singleton xs x ih =>
    obtain ⟨hxs, hx⟩ := isSeparated_append_singleton.mp h
    rw [withoutEntities_append_singleton, LookBack.last?_append_singleton]
    cases hr : Record.ofLine x with
    | header k n =>
      have hnone : LookBack.last? Record.isBoundary xs ≠ some (.header kind name) := by
        intro hlast
        have hin := inEntity_iff.mpr ⟨kind, name, hlast⟩
        simp [hx (by rw [hr]; rfl)] at hin
      by_cases hn : simpleName n ∈ ignored
      · have hgone : Occurrence.owned ignored ⟨xs, x⟩ = true := by simp [Occurrence.owned, hr, hn]
        rw [if_pos hgone, List.append_nil, ih hxs]
        simp only [hnone, false_and, Record.isBoundary, if_true, Option.some.injEq,
          Record.header.injEq, false_iff, not_and, not_not, and_imp]
        rintro rfl rfl
        exact hn
      · have hkept : Occurrence.owned ignored ⟨xs, x⟩ = false := by simp [Occurrence.owned, hr, hn]
        rw [hkept, if_neg Bool.false_ne_true, LookBack.last?_append_singleton, hr]
        simp only [Record.isBoundary, if_true, Option.some.injEq, Record.header.injEq,
          iff_self_and, and_imp]
        rintro rfl rfl
        exact hn
    | separator =>
      simp only [Record.isBoundary, if_true, Option.some.injEq, reduceCtorEq, false_and, iff_false]
      split_ifs with ho
      · rw [List.append_nil, ih hxs]
        rintro ⟨hlast, hname⟩
        simp only [Occurrence.owned, hr, inside_iff, hlast] at ho
        obtain ⟨k, n, hkn, hn⟩ := ho
        obtain ⟨rfl, rfl⟩ := Record.header.inj (Option.some.inj hkn)
        exact hname hn
      · simp [LookBack.last?_append_singleton, hr, Record.isBoundary]
    | _ =>
      -- a line of any other kind is no boundary, whether it stays or goes
      simp only [Record.isBoundary, Bool.false_eq_true, if_false, ← ih hxs]
      split_ifs
      · rw [List.append_nil]
      · simp [LookBack.last?_append_singleton, hr, Record.isBoundary]

theorem inside_withoutEntities (h : IsSeparated xs) :
    Ignoring.inside J (withoutEntities I xs) =
      (Ignoring.inside J xs && !Ignoring.inside I xs) := by
  rw [Bool.eq_iff_iff, Bool.and_eq_true, Bool.not_eq_true', ← Bool.not_eq_true, inside_iff,
    inside_iff, inside_iff]
  simp only [last?_withoutEntities_eq_header_iff h]
  constructor
  · rintro ⟨kind, name, ⟨hlast, hI⟩, hJ⟩
    refine ⟨⟨kind, name, hlast, hJ⟩, ?_⟩
    rintro ⟨k, n, hkn, hn⟩
    obtain ⟨rfl, rfl⟩ := Record.header.inj (Option.some.inj (hlast.symm.trans hkn))
    exact hI hn
  · rintro ⟨⟨kind, name, hlast, hJ⟩, hI⟩
    exact ⟨kind, name, ⟨hlast, fun hn => hI ⟨kind, name, hlast, hn⟩⟩, hJ⟩

theorem inside_union (before : List String) :
    Ignoring.inside (I ∪ J) before = (Ignoring.inside I before || Ignoring.inside J before) := by
  rw [Bool.eq_iff_iff, Bool.or_eq_true, inside_iff, inside_iff, inside_iff]
  simp only [List.mem_union_iff, and_or_left, exists_or]

/-- A line that goes with all the entities goes with the first ones, or among what they leave with
the others. -/
theorem owned_union (h : IsSeparated xs) (x : String) :
    Occurrence.owned (I ∪ J) ⟨xs, x⟩ =
      (Occurrence.owned I ⟨xs, x⟩ || Occurrence.owned J ⟨withoutEntities I xs, x⟩) := by
  unfold Occurrence.owned
  cases Record.ofLine x with
  | header kind name => simp [List.contains_eq_mem]
  | _ =>
    simp only [inside_union, inside_withoutEntities h]
    cases Ignoring.inside I xs <;> simp

theorem withoutEntities_withoutEntities (h : IsSeparated lines) :
    withoutEntities J (withoutEntities I lines) = withoutEntities (I ∪ J) lines := by
  induction lines using List.reverseRecOn with
  | nil => rfl
  | append_singleton xs x ih =>
    have hxs := (isSeparated_append_singleton.mp h).1
    simp only [withoutEntities_append_singleton xs x, owned_union hxs, ← ih hxs]
    cases Occurrence.owned I ⟨xs, x⟩ with
    | true => simp
    | false => simp [withoutEntities_append_singleton]

theorem isSeparated_withoutEntities (h : IsSeparated lines) :
    IsSeparated (withoutEntities ignored lines) := by
  induction lines using List.reverseRecOn with
  | nil => exact h
  | append_singleton xs x ih =>
    obtain ⟨hxs, hx⟩ := isSeparated_append_singleton.mp h
    rw [withoutEntities_append_singleton]
    split_ifs
    · rw [List.append_nil]
      exact ih hxs
    · refine isSeparated_append_singleton.mpr ⟨ih hxs, fun hhead => ?_⟩
      rw [← Bool.not_eq_true, inEntity_iff]
      rintro ⟨kind, name, hlast⟩
      have hin := inEntity_iff.mpr
        ⟨kind, name, ((last?_withoutEntities_eq_header_iff hxs).mp hlast).1⟩
      simp [hx hhead] at hin

theorem withoutEntities_congr (h : ∀ name, name ∈ I ↔ name ∈ J) (lines : List String) :
    withoutEntities I lines = withoutEntities J lines := by
  have howned (o : Occurrence) : o.owned I = o.owned J := by
    have hinside : Ignoring.inside I o.before = Ignoring.inside J o.before := by
      rw [Bool.eq_iff_iff, inside_iff, inside_iff]
      simp only [h]
    unfold Occurrence.owned
    cases Record.ofLine o.line with
    | header kind name => simp [List.contains_eq_mem, h]
    | _ => exact hinside
  simp only [withoutEntities_eq_map, remaining, howned]

/-- If the headers of a stream are kept apart, taking out some entities and then others is taking
out all of them at once, in whichever order, and the headers that are left are kept apart again. -/
theorem withoutEntities_union_of_isSeparated (h : IsSeparated lines) (I J : List String) :
    withoutEntities J (withoutEntities I lines) = withoutEntities (I ∪ J) lines ∧
      withoutEntities I (withoutEntities J lines) = withoutEntities (I ∪ J) lines ∧
      IsSeparated (withoutEntities I lines) ∧ IsSeparated (withoutEntities J lines) := by
  refine ⟨withoutEntities_withoutEntities h, ?_, isSeparated_withoutEntities h,
    isSeparated_withoutEntities h⟩
  rw [withoutEntities_withoutEntities h]
  exact withoutEntities_congr (by simp [or_comm]) lines

/-- The separators go with the entities that they end, and the lines between the two are left. -/
theorem two_entities_taken_out :
    IsSeparated ["Class: a.A", "----", "- int x", "Class: B", "Fields:", "----", "Class: C"] ∧
      withoutEntities ["B"] (withoutEntities ["A"]
          ["Class: a.A", "----", "- int x", "Class: B", "Fields:", "----", "Class: C"]) =
        ["- int x", "Class: C"] := by
  have h : IsSeparated
      ["Class: a.A", "----", "- int x", "Class: B", "Fields:", "----", "Class: C"] := by
    decide
  exact ⟨h, (withoutEntities_union_of_isSeparated h ["A"] ["B"]).1.trans (by decide)⟩

/-- Where headers are not kept apart, a line may go that would stay if all entities went at once. -/
example :
    withoutEntities ["A"] (withoutEntities ["B"] ["Class: A", "Class: B", "----", "- int x"]) = [] ∧
      withoutEntities ["A", "B"] ["Class: A", "Class: B", "----", "- int x"] = ["- int x"] := by
  decide

end ClassDiagram
