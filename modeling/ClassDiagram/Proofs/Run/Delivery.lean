import ClassDiagram.Proofs.Drawing.Notation
import ClassDiagram.Proofs.Ignoring.Rendering
import ClassDiagram.Proofs.Run.World
import ClassDiagram.Run

/-! # What becomes of a run

A run fails for one of five reasons, and then it leaves nothing but its complaint. Otherwise the
diagram goes to one place. What a run says and logs on its way makes no difference to that.
-/

namespace ClassDiagram

theorem Text.decode_eq_ok_iff {bytes : ByteArray} {text : String} :
    Text.decode bytes = .ok text ↔ bytes = text.toUTF8 := by
  unfold decode String.fromUTF8?
  constructor
  · intro h
    split_ifs at h
    cases h
    rfl
  · rintro rfl
    have hvalid : text.toUTF8.IsValidUTF8 := text.isValidUTF8
    rw [dif_pos hvalid]
    rfl

/-- Lines as they are delivered: joined by line feeds, and with one line feed behind them unless
nothing stands before it. -/
def delivered (lines : List String) : String :=
  if "\n".intercalate lines = "" then "" else "\n".intercalate lines ++ "\n"

theorem Rendering.terminated_text {r : Rendering} (h : r.text = "" ∨ Text.IsClosed r.text) :
    Text.terminated r.text = delivered r.lines := by
  change _ = if r.text = "" then "" else r.text ++ "\n"
  unfold Text.terminated
  rcases h with hempty | hclosed
  · rw [hempty]
    rfl
  · simp [Text.endsInLineFeed_of_isClosed hclosed, Text.ne_empty_of_isClosed hclosed]

namespace Options

variable {o : Options} {files : FileSystem} {r : Rendering}

/-- The record file holds a text, and this is what its lines are drawn to. -/
def Draws (o : Options) (files : FileSystem) (r : Rendering) : Prop :=
  ∃ text : String, files.read o.input = .ok text.toUTF8 ∧
    Registry.standard.renderWithout o.notationKey o.ignored (Text.lines text) = .ok r

/-- Why a run fails: there is no record file, it holds no text, the notation is not known, a strict
run has met defects, or the diagram cannot be written to the named file. -/
inductive Fails (o : Options) (files : FileSystem) : Prop
  | absent (missing : files.leads o.input = false)
  | unreadable (noText : ∀ text : String, files.read o.input ≠ .ok text.toUTF8)
  | unsupported (unknown : Text.lower o.notationKey ∉ Registry.standard.keys)
  | defective {r : Rendering} (strict : o.strict = true) (drawn : o.Draws files r)
      (defects : r.defects ≠ [])
  | unwritable {r : Rendering} {path : String} {fault : SystemFault} (drawn : o.Draws files r)
      (name : o.output? = some path) (noDash : path ≠ "-")
      (refused : files.write path (delivered r.lines).toUTF8 = .error fault)

/-- A text is printed, or it takes the place of what is in the named file. -/
inductive Delivers (o : Options) (text : String) (before after : World) : Prop
  | unnamed (noName : o.output? = none) (printed : after.output = before.output ++ text)
      (files : after.files = before.files)
  | dash (name : o.output? = some "-") (printed : after.output = before.output ++ text)
      (files : after.files = before.files)
  | named {path : String} (name : o.output? = some path) (noDash : path ≠ "-")
      (silent : after.output = before.output)
      (files : before.files.Replaces after.files path text.toUTF8)

theorem Delivers.of_agrees {text : String} {before after other : World}
    (h : o.Delivers text before after) (hother : other.Agrees after) :
    o.Delivers text before other := by
  obtain ⟨hfiles, houtput⟩ := hother
  cases h with
  | unnamed noName printed files =>
    exact .unnamed noName (houtput.trans printed) (hfiles.trans files)
  | dash name printed files => exact .dash name (houtput.trans printed) (hfiles.trans files)
  | named name noDash silent files =>
    exact .named name noDash (houtput.trans silent) (hfiles ▸ files)

theorem target?_eq_some_iff {path : String} :
    o.target? = some path ↔ o.output? = some path ∧ path ≠ "-" := by
  simp [target?, Option.filter_eq_some_iff]

theorem target?_eq_none_iff : o.target? = none ↔ o.output? = none ∨ o.output? = some "-" := by
  cases h : o.output? <;> simp [target?, h]

/-- The text of the diagram that the record file comes to. -/
def result (o : Options) (found : Except SystemFault ByteArray) : Except Failure String :=
  ((o.source found).bind o.draw).bind o.deliverable

theorem source_eq_ok_iff {found : Except SystemFault ByteArray} {text : String} :
    o.source found = .ok text ↔ found = .ok text.toUTF8 := by
  cases found with
  | error fault => simp [source, Except.bind, Except.mapError]
  | ok bytes =>
    have hread : o.source (.ok bytes) = (Text.decode bytes).mapError (.unreadableSource o.input) :=
      rfl
    rw [hread, Except.ok.injEq, ← Text.decode_eq_ok_iff]
    cases Text.decode bytes <;> simp [Except.mapError]

theorem draws_iff : o.Draws files r ↔ (o.source (files.read o.input)).bind o.draw = .ok r := by
  constructor
  · rintro ⟨text, hread, hr⟩
    rw [source_eq_ok_iff.mpr hread]
    exact hr
  · intro h
    cases ht : o.source (files.read o.input) with
    | error e => simp [ht, Except.bind] at h
    | ok text =>
      rw [ht] at h
      exact ⟨text, source_eq_ok_iff.mp ht, h⟩

theorem Draws.terminated_text (h : o.Draws files r) :
    Text.terminated r.text = delivered r.lines := by
  obtain ⟨text, -, hr⟩ := h
  rw [Registry.renderWithout_eq] at hr
  exact Rendering.terminated_text (Registry.text_eq_or_isClosed hr)

theorem fails_of_not_draws (h : ∀ r, ¬ o.Draws files r) : o.Fails files := by
  by_cases htext : ∃ text : String, files.read o.input = .ok text.toUTF8
  · obtain ⟨text, hread⟩ := htext
    by_cases hkey : Text.lower o.notationKey ∈ Registry.standard.keys
    · obtain ⟨draw, -, hrender⟩ := Registry.render_standard_of_mem hkey
      exact absurd ⟨text, hread, by rw [Registry.renderWithout_eq, hrender]⟩ (h _)
    · exact .unsupported hkey
  · exact .unreadable fun text hread => htext ⟨text, hread⟩

theorem not_fails (hdrawn : o.Draws files r) (hstrict : o.strict = true → r.defects = [])
    (hwrite : ∀ path fault, o.target? = some path →
      files.write path (delivered r.lines).toUTF8 ≠ .error fault) : ¬ o.Fails files := by
  have hunique (d : Rendering) (hd : o.Draws files d) : d = r :=
    Except.ok.inj ((draws_iff.mp hd).symm.trans (draws_iff.mp hdrawn))
  intro h
  obtain ⟨text, hread, hr⟩ := hdrawn
  cases h with
  | absent missing => simp [FileSystem.leads_of_read_eq_ok hread] at missing
  | unreadable noText => exact noText text hread
  | unsupported unknown =>
    rw [Registry.renderWithout_eq, Registry.render_standard_of_notMem unknown] at hr
    cases hr
  | defective strict drawn defects => exact defects (hunique _ drawn ▸ hstrict strict)
  | unwritable drawn name noDash refused =>
    rw [hunique _ drawn] at refused
    exact hwrite _ _ (target?_eq_some_iff.mpr ⟨name, noDash⟩) refused

theorem deliverable_eq (hdrawn : o.Draws files r) (hstrict : o.strict = true → r.defects = []) :
    o.deliverable r = .ok (delivered r.lines) := by
  unfold deliverable
  rw [if_neg, hdrawn.terminated_text]
  simpa [Rendering.isClean] using hstrict

theorem deliverable_eq_error (hstrict : o.strict = true) (hdefects : r.defects ≠ []) :
    o.deliverable r = .error (.strictDefects r.defects.length o.input) := by
  unfold deliverable
  rw [if_pos]
  simpa [Rendering.isClean, hstrict] using hdefects

/-- The steps of a delivery but for the complaint if it fails. -/
def handOver (o : Options) (text : String) : Plan :=
  match o.target? with
  | none => .print text (.finish 0)
  | some path =>
    .write path text.toUTF8 fun
      | .ok _ => .finish 0
      | .error _ => .finish 1

/-- The steps of a run but for those that only talk. -/
def deed (o : Options) : Plan :=
  .look o.input fun isThere =>
    if isThere then
      .read o.input fun found =>
        match o.result found with
        | .error _ => .finish 1
        | .ok text => o.handOver text
    else .finish 1

section Talk

open Plan (ActsAs)

variable {p q : Plan}

theorem actsAs_note (text : String) (h : ActsAs p q) : ActsAs (o.note text p) q := by
  unfold note
  split_ifs
  · exact .say h
  · exact h

theorem actsAs_notes (texts : List String) (h : ActsAs p q) : ActsAs (o.notes texts p) q := by
  induction texts with
  | nil => exact h
  | cons text texts ih => exact actsAs_note text ih

theorem actsAs_withLogger (h : ActsAs p q) : ActsAs (o.withLogger p) q := by
  refine .ask fun level? => .ask fun filter? => .ask fun format? => .install fun answer => ?_
  cases answer with
  | ok _ => exact h
  | error e => exact .log h

theorem actsAs_fail (e : Failure) : ActsAs (.fail e) (.finish 1) :=
  .say (.finish 1)

theorem actsAs_deliver (o : Options) (text : String) :
    ActsAs (o.deliver text) (o.handOver text) := by
  unfold deliver handOver
  cases o.target? with
  | none => exact .print (.finish 0)
  | some path =>
    refine .write fun answer => ?_
    cases answer with
    | ok _ => exact .finish 0
    | error fault => exact actsAs_fail _

theorem actsAs_plan (o : Options) : ActsAs o.plan o.deed := by
  refine actsAs_withLogger (actsAs_note _ (.look fun isThere => ?_))
  cases isThere with
  | false => exact actsAs_fail _
  | true =>
    refine .read fun found => ?_
    unfold result
    cases hsource : o.source found with
    | error e => exact actsAs_fail e
    | ok text =>
      refine actsAs_note _ ?_
      simp only [Except.bind]
      cases hdraw : o.draw text with
      | error e => exact actsAs_fail e
      | ok r =>
        refine actsAs_notes _ (.log ?_)
        simp only
        cases hdeliverable : o.deliverable r with
        | error e => exact actsAs_fail e
        | ok text => exact actsAs_deliver o text

end Talk

section Deed

variable {w : World}

theorem run_deed_of_error {e : Failure} (h : o.result (w.files.read o.input) = .error e) :
    o.deed.run w = (1, w) := by
  rw [deed, Plan.run_look]
  split_ifs
  · rw [Plan.run_read, h]
    rfl
  · rfl

theorem run_deed_of_draws (hdrawn : o.Draws w.files r)
    (h : o.result (w.files.read o.input) = .ok (delivered r.lines)) :
    o.deed.run w = (o.handOver (delivered r.lines)).run w := by
  obtain ⟨text, hread, -⟩ := hdrawn
  rw [deed, Plan.run_look, if_pos (FileSystem.leads_of_read_eq_ok hread), Plan.run_read, h]

theorem result_of_draws (hdrawn : o.Draws files r) :
    o.result (files.read o.input) = o.deliverable r := by
  rw [result, draws_iff.mp hdrawn]
  rfl

theorem result_of_not_draws (h : ∀ r, ¬ o.Draws files r) :
    ∃ e, o.result (files.read o.input) = .error e := by
  cases hr : (o.source (files.read o.input)).bind o.draw with
  | error e => exact ⟨e, by rw [result, hr]; rfl⟩
  | ok r => exact absurd (draws_iff.mpr hr) (h r)

theorem run_handOver (o : Options) (text : String) (w : World) :
    (∃ path fault, o.target? = some path ∧ w.files.write path text.toUTF8 = .error fault ∧
      (o.handOver text).run w = (1, w)) ∨
    (∀ path fault, o.target? = some path → w.files.write path text.toUTF8 ≠ .error fault) ∧
      ∃ after, (o.handOver text).run w = (0, after) ∧ o.Delivers text w after := by
  unfold handOver
  cases ht : o.target? with
  | none =>
    refine .inr ⟨by simp, _, rfl, ?_⟩
    rcases target?_eq_none_iff.mp ht with hnone | hdash
    · exact .unnamed hnone rfl rfl
    · exact .dash hdash rfl rfl
  | some path =>
    obtain ⟨hname, hdash⟩ := target?_eq_some_iff.mp ht
    cases hw : w.files.write path text.toUTF8 with
    | error fault => exact .inl ⟨path, fault, rfl, hw, Plan.run_write_of_error w hw _⟩
    | ok files =>
      refine .inr ⟨fun path' fault hpath hfault => ?_, _, Plan.run_write_of_ok w hw _,
        .named hname hdash rfl (FileSystem.replaces_of_write_eq_ok hw)⟩
      cases hpath
      cases hw.symm.trans hfault

/-- A run fails and changes nothing, or it delivers its diagram. -/
theorem fails_or_delivers (o : Options) (w : World) :
    (o.Fails w.files ∧ o.deed.run w = (1, w)) ∨
    ¬ o.Fails w.files ∧ ∃ r after, o.Draws w.files r ∧ o.deed.run w = (0, after) ∧
      o.Delivers (delivered r.lines) w after := by
  by_cases hdraws : ∃ r, o.Draws w.files r
  · obtain ⟨r, hdrawn⟩ := hdraws
    by_cases hstrict : o.strict = true ∧ r.defects ≠ []
    · have hresult := (result_of_draws hdrawn).trans (deliverable_eq_error hstrict.1 hstrict.2)
      exact .inl ⟨.defective hstrict.1 hdrawn hstrict.2, run_deed_of_error hresult⟩
    · have hclean : o.strict = true → r.defects = [] := by simpa using hstrict
      have hresult := (result_of_draws hdrawn).trans (deliverable_eq hdrawn hclean)
      rw [run_deed_of_draws hdrawn hresult]
      rcases run_handOver o (delivered r.lines) w with
        ⟨path, fault, ht, hrefused, hrun⟩ | ⟨hwrite, after, hrun, hdelivers⟩
      · obtain ⟨hname, hdash⟩ := target?_eq_some_iff.mp ht
        exact .inl ⟨.unwritable hdrawn hname hdash hrefused, hrun⟩
      · exact .inr ⟨not_fails hdrawn hclean hwrite, r, after, hdrawn, hrun, hdelivers⟩
  · have hnone := not_exists.mp hdraws
    obtain ⟨e, hresult⟩ := result_of_not_draws hnone
    exact .inl ⟨fails_of_not_draws hnone, run_deed_of_error hresult⟩

end Deed

/-- A run fails with exit code 1, for one of the five reasons and no other, and then nothing is
printed and the files are as they were. Any other run delivers its diagram to one place. Runs that
differ in their verbosity and their logger only have the same exit code and output and leave the
same files, whatever the environment and the logger that is there before. -/
theorem run_fails_or_delivers (o : Options) (before : World) :
    ((o.plan.run before).1 = 1 ↔ o.Fails before.files) ∧
    (o.Fails before.files → (o.plan.run before).2.output = before.output ∧
      (o.plan.run before).2.files = before.files) ∧
    (¬ o.Fails before.files → (o.plan.run before).1 = 0 ∧
      ∃ r, o.Draws before.files r ∧ o.Delivers (delivered r.lines) before (o.plan.run before).2) ∧
    ∀ (verbose : Bool) (level : LogLevel) (format : LogFormat) (other : World),
      other.Agrees before →
        let run :=
          { o with verbose := verbose, logLevel := level, logFormat := format }.plan.run other
        run.1 = (o.plan.run before).1 ∧ run.2.Agrees (o.plan.run before).2 := by
  obtain ⟨hcode, hafter⟩ := (actsAs_plan o).run (World.Agrees.refl before)
  rw [← and_assoc, ← and_assoc]
  refine ⟨?_, fun verbose level format other hother => ?_⟩
  · rw [hcode]
    rcases o.fails_or_delivers before with
      ⟨hfails, hrun⟩ | ⟨hfails, r, after, hdrawn, hrun, hdelivers⟩
    · rw [hrun] at hafter ⊢
      exact ⟨⟨iff_of_true rfl hfails, fun _ => ⟨hafter.2, hafter.1⟩⟩, absurd hfails⟩
    · rw [hrun] at hafter ⊢
      exact ⟨⟨iff_of_false Nat.zero_ne_one hfails, fun h => absurd h hfails⟩,
        fun _ => ⟨rfl, r, hdrawn, hdelivers.of_agrees hafter⟩⟩
  · -- both runs come down to the same deed, which knows nothing of verbosity and loggers
    obtain ⟨hother, hagrees⟩ := (actsAs_plan { o with
      verbose := verbose, logLevel := level, logFormat := format }).run hother
    exact ⟨hother.trans hcode.symm, hagrees.1.trans hafter.1.symm, hagrees.2.trans hafter.2.symm⟩

/-- A record file that is its own target, under another path, where it can be written and where it
cannot. -/
theorem record_file_replaced :
    let o : Options := ⟨"a", "yuml", [], some "./a", true, true, .warn, .compact⟩
    let world (fault? : Option SystemFault) := World.ofFiles
      [(["a", "./a"], "Class: A\n".toUTF8), (["b"], "Class: B\n".toUTF8)] fault?
    (¬ o.Fails (world none).files ∧
      (∃ r, o.Draws (world none).files r ∧
        o.Delivers (delivered r.lines) (world none) (o.plan.run (world none)).2) ∧
      (o.plan.run (world none)).2.files.read "a" = .ok "[A]\n".toUTF8 ∧
      (o.plan.run (world none)).2.files.read "b" = .ok "Class: B\n".toUTF8) ∧
    o.Fails (world (some (.code 13))).files ∧
      (o.plan.run (world (some (.code 13)))).2.files = (world (some (.code 13))).files := by
  intro o world
  obtain ⟨hwritten, -, hdelivers, -⟩ := run_fails_or_delivers o (world none)
  obtain ⟨hrefused, hunchanged, -⟩ := run_fails_or_delivers o (world (some (.code 13)))
  have hfine : ¬ o.Fails (world none).files := by
    rw [← hwritten]
    decide
  have hfails : o.Fails (world (some (.code 13))).files := by
    rw [← hrefused]
    decide
  exact ⟨⟨hfine, (hdelivers hfine).2, by decide, by decide⟩, hfails, (hunchanged hfails).2⟩

end Options

end ClassDiagram
