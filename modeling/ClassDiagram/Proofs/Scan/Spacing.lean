import ClassDiagram.Proofs.Ignoring.Payload
import ClassDiagram.Proofs.Member.Reading

/-! # Spacing behind the dash

What stands behind the dash of a content line is read without the spaces in front of it. A field
line is also asked for three words, though, and there the dash is a word of its own only if a blank
follows it: a type and a name by themselves are a field behind a dash and a space, and they are
reported right behind a dash. Nowhere else does the space make a difference.
-/

namespace ClassDiagram

/-! ## Reading the two lines -/

namespace Chars

variable {c d : Char}

theorem trimStart_trimEnd_cons (h : isBlank c = true) (cs : List Char) :
    trimStart (trimEnd (c :: cs)) = trimStart (trimEnd cs) := by
  rw [trimEnd_cons]
  split_ifs with hempty
  · rw [Bool.and_eq_true, List.isEmpty_iff] at hempty
    rw [hempty.1]
  · exact List.dropWhile_cons_of_pos h

theorem length_words_cons (hc : isBlank c = false) (hd : isBlank d = false) (cs : List Char) :
    (words (c :: d :: cs)).length = (words (d :: cs)).length := by
  simp only [words, splitWhere_cons, hc, hd]
  cases splitWhere isBlank cs <;> rfl

end Chars

theorem stripBullet_append_space (p : String) :
    stripBullet ("- " ++ p) = stripBullet ("-" ++ p) := by
  have hspaced : ("- " ++ p).toList = '-' :: ' ' :: p.toList := by simp
  have htight : ("-" ++ p).toList = '-' :: p.toList := by simp
  rw [stripBullet, stripBullet, hspaced, htight, Chars.stripBullet_dash, Chars.stripBullet_dash,
    Chars.trimStart_trimEnd_cons (by decide)]

theorem stripBullet_trim (s : String) : stripBullet (Text.trim s) = stripBullet s := by
  rw [stripBullet, Chars.stripBullet, Text.toList_trim, Chars.trim_trim]
  rfl

theorem Signature.ofLine?_trim (s : String) : ofLine? (Text.trim s) = ofLine? s := by
  rw [ofLine?, stripBullet_trim, ofLine?]

theorem Field.ofLine?_trim (s : String) : ofLine? (Text.trim s) = ofLine? s := by
  rw [ofLine?, stripBullet_trim, Text.words_trim, ofLine?]

namespace Text

variable {p : String} {c : Char}

theorem words_spaced (p : String) : words ("- " ++ p) = "-" :: words p :=
  words_append_space "-" p

theorem words_tight_of_isBlank (hc : c ∈ p.toList.head?) (h : ClassDiagram.isBlank c = true) :
    words ("-" ++ p) = "-" :: words p := by
  obtain ⟨cs, hcs⟩ := List.head?_eq_some_iff.mp hc
  have htight : ("-" ++ p).toList = ['-'] ++ c :: cs := by simp [hcs]
  rw [words, htight, Chars.words_append_cons h, words, hcs, Chars.words_cons h]
  rfl

theorem length_words_tight (hc : c ∈ p.toList.head?) (h : ClassDiagram.isBlank c = false) :
    (words ("-" ++ p)).length = (words p).length := by
  obtain ⟨cs, hcs⟩ := List.head?_eq_some_iff.mp hc
  have htight : ("-" ++ p).toList = '-' :: c :: cs := by simp [hcs]
  rw [words, words, List.length_map, List.length_map, htight, hcs]
  exact Chars.length_words_cons (by decide) h cs

end Text

/-- The payload is a type of one word and a name, with no modifier and no blank in front. -/
structure IsBareField (p type name : String) : Prop where
  words : Text.words p = [type, name]
  front : ∀ c ∈ p.toList.head?, isBlank c = false
  plain : Modifier.ofKeyword? type = none

theorem Signature.ofLine?_append_space (p : String) : ofLine? ("- " ++ p) = ofLine? ("-" ++ p) := by
  rw [ofLine?, stripBullet_append_space, ofLine?]

namespace Field

variable {p type name : String}

theorem ofWords?_pair (v w : String) :
    ofWords? [v, w] =
      if Modifier.ofKeyword? v = none then some ⟨⟨.package, []⟩, v, w⟩ else none := by
  cases hv : Modifier.ofKeyword? v with
  | none => simp [ofWords?, Modifier.leading, hv, Qualifiers.ofModifiers, Text.unwords]
  | some m =>
    cases hw : Modifier.ofKeyword? w <;> simp [ofWords?, Modifier.leading, hv, hw]

theorem ofLine?_dash (p : String) :
    ofLine? ("-" ++ p) =
      if (Text.words ("-" ++ p)).length < 3 then none else ofWords? (Text.words p) := by
  rw [ofLine?, words_stripBullet_append]

theorem ofLine?_dash_space (p : String) :
    ofLine? ("- " ++ p) =
      if (Text.words p).length < 2 then none else ofWords? (Text.words p) := by
  rw [ofLine?, stripBullet_append_space, words_stripBullet_append, Text.words_spaced,
    List.length_cons]
  exact if_congr (by omega) rfl rfl

theorem ofLine?_tight_of_bare (h : IsBareField p type name) : ofLine? ("-" ++ p) = none := by
  have hlength : (Text.words ("-" ++ p)).length < 3 := by
    cases hc : p.toList.head? with
    | none =>
      have hwords := h.words
      rw [String.toList_eq_nil_iff.mp (List.head?_eq_none_iff.mp hc)] at hwords
      cases hwords
    | some c =>
      rw [Text.length_words_tight hc (h.front c hc), h.words]
      exact Nat.lt_add_one 2
  rw [ofLine?_dash, if_pos hlength]

theorem ofLine?_spaced_of_bare (h : IsBareField p type name) :
    ofLine? ("- " ++ p) = some ⟨⟨.package, []⟩, type, name⟩ := by
  rw [ofLine?_dash_space, h.words, ofWords?_pair, if_pos h.plain]
  rfl

/-- Any other payload is a field, or none, in both lines. -/
theorem ofLine?_tight_eq (h : ¬ ∃ type name, IsBareField p type name) :
    ofLine? ("-" ++ p) = ofLine? ("- " ++ p) := by
  rw [ofLine?_dash, ofLine?_dash_space]
  cases hc : p.toList.head? with
  | none =>
    obtain rfl := String.toList_eq_nil_iff.mp (List.head?_eq_none_iff.mp hc)
    rfl
  | some c =>
    by_cases hb : isBlank c = true
    · rw [Text.words_tight_of_isBlank hc hb, List.length_cons]
      exact if_congr (by omega) rfl rfl
    · rw [Text.length_words_tight hc (by simpa using hb)]
      -- the lengths part over payloads of two words, and there the first must be a modifier
      by_cases htwo : (Text.words p).length = 2
      · obtain ⟨v, w, hwords⟩ := List.length_eq_two.mp htwo
        have hv : Modifier.ofKeyword? v ≠ none := fun hv =>
          h ⟨v, w, hwords, fun d hd => by simpa [Option.mem_unique hd hc] using hb, hv⟩
        rw [hwords, ofWords?_pair, if_neg hv, ite_self, ite_self]
      · exact if_congr (by omega) rfl rfl

theorem ofLine?_tight_eq_iff :
    ofLine? ("-" ++ p) = ofLine? ("- " ++ p) ↔ ¬ ∃ type name, IsBareField p type name := by
  refine ⟨?_, ofLine?_tight_eq⟩
  rintro heq ⟨type, name, h⟩
  rw [ofLine?_tight_of_bare h, ofLine?_spaced_of_bare h] at heq
  cases heq

end Field

/-! ## The two lines in a scan -/

theorem Chars.not_isDashes_trim_dash {cs : List Char} (h : cs.head? ≠ some '-') :
    isDashes (trim ('-' :: cs)) = false := by
  rw [trim_dash]
  cases ht : trimEnd cs with
  | nil => rfl
  | cons d ds =>
    have hfront : d :: ds <+: cs := by
      rw [← ht, trimEnd_eq_rdropWhile]
      exact List.rdropWhile_prefix _ cs
    obtain ⟨rest, rfl⟩ := hfront
    have hd : d ≠ '-' := by simpa using h
    simp [isDashes, hd]

theorem isBulleted_dash {s : String} (h : s.toList.head? ≠ some '-') :
    isBulleted ("-" ++ s) = true := by
  have hdash : ("-" ++ s).toList = '-' :: s.toList := by simp
  rw [isBulleted, isSeparator, Text.toList_trim, hdash, Chars.not_isDashes_trim_dash h,
    Chars.trim_dash]
  rfl

theorem isBulleted_dash_space (p : String) : isBulleted ("- " ++ p) = true := by
  have h := isBulleted_dash (s := " " ++ p) (by simp)
  rwa [← String.append_assoc] at h

theorem isBlank_of_isBulleted {line : String} (h : isBulleted line = true) :
    Text.isBlank line = false := by
  rw [← Bool.not_eq_true, Text.isBlank, ← Chars.trim_eq_nil_iff]
  intro hnil
  simp [isBulleted, Text.toList_trim, hnil] at h

namespace Cursor

variable {c : Cursor} {owner line p : String} {members : MemberSection}

theorem memberEffect_trim (owner line : String) (members : MemberSection) :
    memberEffect owner (Text.trim line) members = memberEffect owner line members := by
  cases members <;>
    simp only [memberEffect, stripBullet_trim, Signature.ofLine?_trim, Field.ofLine?_trim]

theorem effect_of_isBulleted (he : c.entity? = some owner) (hm : c.members? = some members)
    (h : isBulleted line = true) : c.effect line = memberEffect owner line members := by
  have hb : ¬ Text.isBlank line = true := by simp [isBlank_of_isBulleted h]
  simp only [effect, ofLine_of_isBulleted h, if_neg hb, contentEffect, he, hm, memberEffect_trim]

theorem ending_of_isBulleted (h : isBulleted line = true) : c.ending line = [] := by
  rw [ending, ofLine_of_isBulleted h]
  rfl

theorem memberEffect_dash_space (h : ¬ (members = .fields ∧ ∃ type name, IsBareField p type name)) :
    memberEffect owner ("-" ++ p) members = memberEffect owner ("- " ++ p) members := by
  cases members with
  | fields =>
    have hbare : ¬ ∃ type name, IsBareField p type name := fun hbare => h ⟨rfl, hbare⟩
    simp only [memberEffect, Field.ofLine?_tight_eq hbare]
  | _ => simp only [memberEffect, stripBullet_append_space, Signature.ofLine?_append_space]

end Cursor

namespace Occurrence

/-- Two lines add the same to the diagram, and they are reported alike but for the text that is
shown. -/
structure TreatedAlike (o q : Occurrence) : Prop where
  events : Finding.events o.findings = Finding.events q.findings
  relations : o.relations = q.relations
  reports : o.defects.map (fun d => (d.number, d.entity?, d.reason)) =
    q.defects.map fun d => (d.number, d.entity?, d.reason)

variable {before : List String} {owner line : String} {members : MemberSection}

theorem findings_of_isBulleted (he : LookBack.entity? before = some owner)
    (hm : LookBack.members? before = some members) (h : isBulleted line = true) :
    findings ⟨before, line⟩ =
      (Cursor.memberEffect owner line members).findings (before.length + 1, line) := by
  rw [findings, Cursor.findings_eq]
  change (cursor ⟨before, line⟩).ending line ++ ((cursor ⟨before, line⟩).effect line).findings _ = _
  rw [Cursor.ending_of_isBulleted h, Cursor.effect_of_isBulleted he hm h]
  rfl

theorem treatedAlike_of_memberEffect_eq {x y : String} (he : LookBack.entity? before = some owner)
    (hm : LookBack.members? before = some members) (hx : isBulleted x = true)
    (hy : isBulleted y = true)
    (h : Cursor.memberEffect owner x members = Cursor.memberEffect owner y members) :
    TreatedAlike ⟨before, x⟩ ⟨before, y⟩ := by
  constructor
  · rw [findings_of_isBulleted he hm hx, findings_of_isBulleted he hm hy, h,
      Effect.events_findings, Effect.events_findings]
  · rw [relations, relations, findings_of_isBulleted he hm hx, findings_of_isBulleted he hm hy, h,
      Effect.relations_findings, Effect.relations_findings]
  · rw [defects, defects, findings_of_isBulleted he hm hx, findings_of_isBulleted he hm hy, h,
      Effect.defects_findings, Effect.defects_findings, List.map_map, List.map_map]
    rfl

variable {p type name : String}

theorem findings_tight_of_bare (he : LookBack.entity? before = some owner)
    (hm : LookBack.members? before = some .fields) (hp : p.toList.head? ≠ some '-')
    (h : IsBareField p type name) :
    findings ⟨before, "-" ++ p⟩ =
      [.defect ⟨before.length + 1, Text.trim ("-" ++ p), some owner, .incompleteField⟩] := by
  rw [findings_of_isBulleted he hm (isBulleted_dash hp), Cursor.memberEffect]
  simp only [Field.ofLine?_tight_of_bare h]
  rfl

theorem findings_spaced_of_bare (he : LookBack.entity? before = some owner)
    (hm : LookBack.members? before = some .fields) (h : IsBareField p type name) :
    findings ⟨before, "- " ++ p⟩ =
      ((compositionTarget? type).map fun target =>
        Finding.relation ⟨.composition, owner, target⟩).toList ++
        [.event (.member (.field ⟨⟨.package, []⟩, type, name⟩))] := by
  rw [findings_of_isBulleted he hm (isBulleted_dash_space p), Cursor.memberEffect]
  simp only [Field.ofLine?_spaced_of_bare h, Field.target?]
  cases compositionTarget? type <;> rfl

theorem not_treatedAlike_of_bare (he : LookBack.entity? before = some owner)
    (hm : LookBack.members? before = some .fields) (hp : p.toList.head? ≠ some '-')
    (h : IsBareField p type name) : ¬ TreatedAlike ⟨before, "-" ++ p⟩ ⟨before, "- " ++ p⟩ := by
  intro halike
  have hevents := halike.events
  rw [findings_tight_of_bare he hm hp h, findings_spaced_of_bare he hm h,
    Finding.events_append] at hevents
  exact List.concat_ne_nil _ _ hevents.symm

end Occurrence

/-! ## Streams that differ in one line -/

section

variable {x y : String} {before before' : List String}

theorem flatMap_findings_occurrencesFrom (h : List.Forall₂ SameButPayload before before')
    (after : List String) :
    (occurrencesFrom before after).flatMap Occurrence.findings =
      (occurrencesFrom before' after).flatMap Occurrence.findings := by
  induction after generalizing before before' with
  | nil => rfl
  | cons l ls ih =>
    have hline : Occurrence.SameButPayload ⟨before, l⟩ ⟨before', l⟩ := ⟨h, .inl rfl⟩
    rw [occurrencesFrom, occurrencesFrom, List.flatMap_cons, List.flatMap_cons,
      hline.findings rfl, ih (List.rel_append h (.cons (.inl rfl) .nil))]

/-- What a payload does to a scan, it does at its own line. -/
theorem exists_scan_eq (h : SameButPayload x y) (before after : List String) :
    ∃ us vs,
      Cursor.start.scan (numbered (before ++ x :: after)) =
        us ++ Occurrence.findings ⟨before, x⟩ ++ vs ∧
      Cursor.start.scan (numbered (before ++ y :: after)) =
        us ++ Occurrence.findings ⟨before, y⟩ ++ vs := by
  have hsame (ls : List String) : List.Forall₂ SameButPayload ls ls :=
    List.forall₂_same.mpr fun _ _ => .inl rfl
  have hsplit (l : String) : occurrences (before ++ l :: after) =
      occurrences before ++ ⟨before, l⟩ :: occurrencesFrom (before ++ [l]) after :=
    occurrencesFrom_append [] before (l :: after)
  have hafter := flatMap_findings_occurrencesFrom
    (List.rel_append (hsame before) (.cons h .nil)) after
  have hend : LookBack.cursor (before ++ x :: after) = LookBack.cursor (before ++ y :: after) := by
    rw [← LookBack.run_start, ← LookBack.run_start]
    exact run_eq_of_forall₂ (List.rel_append (hsame before) (.cons h (hsame after))) _
  refine ⟨(occurrences before).flatMap Occurrence.findings,
    (occurrencesFrom (before ++ [x]) after).flatMap Occurrence.findings ++
      (LookBack.cursor (before ++ x :: after)).closing, ?_, ?_⟩
  · rw [scan_numbered, hsplit, List.flatMap_append, List.flatMap_cons]
    simp only [List.append_assoc]
  · rw [scan_numbered, hsplit, List.flatMap_append, List.flatMap_cons, hafter, hend]
    simp only [List.append_assoc]

end

/-- A space behind the dash counts for nothing but the third word of a field. Signatures are read
alike with it and without, and so are fields, but for a type and a name alone. In a section of an
open entity the two lines are treated alike, in any stream, unless the section is that of the fields
and there is a type and a name alone: right behind the dash these are reported, and behind the space
they are a field. -/
theorem spacing_behind_dash {before : List String} {owner p : String} {members : MemberSection}
    (he : LookBack.entity? before = some owner) (hm : LookBack.members? before = some members)
    (hp : p.toList.head? ≠ some '-') :
    Signature.ofLine? ("-" ++ p) = Signature.ofLine? ("- " ++ p) ∧
    (Field.ofLine? ("-" ++ p) = Field.ofLine? ("- " ++ p) ↔
      ¬ ∃ type name, IsBareField p type name) ∧
    (Occurrence.TreatedAlike ⟨before, "-" ++ p⟩ ⟨before, "- " ++ p⟩ ↔
      ¬ (members = .fields ∧ ∃ type name, IsBareField p type name)) ∧
    (members = .fields → ∀ type name, IsBareField p type name →
      Occurrence.findings ⟨before, "-" ++ p⟩ =
        [.defect ⟨before.length + 1, Text.trim ("-" ++ p), some owner, .incompleteField⟩] ∧
      Occurrence.findings ⟨before, "- " ++ p⟩ =
        ((compositionTarget? type).map fun target =>
          Finding.relation ⟨.composition, owner, target⟩).toList ++
          [.event (.member (.field ⟨⟨.package, []⟩, type, name⟩))]) ∧
    ∀ after, ∃ us vs,
      Cursor.start.scan (numbered (before ++ ("-" ++ p) :: after)) =
        us ++ Occurrence.findings ⟨before, "-" ++ p⟩ ++ vs ∧
      Cursor.start.scan (numbered (before ++ ("- " ++ p) :: after)) =
        us ++ Occurrence.findings ⟨before, "- " ++ p⟩ ++ vs := by
  have htight := isBulleted_dash hp
  have hspaced := isBulleted_dash_space p
  refine ⟨(Signature.ofLine?_append_space p).symm, Field.ofLine?_tight_eq_iff, ⟨?_, fun h => ?_⟩,
    ?_, exists_scan_eq (.inr ⟨htight, hspaced⟩) before⟩
  · rintro halike ⟨rfl, type, name, hbare⟩
    exact Occurrence.not_treatedAlike_of_bare he hm hp hbare halike
  · exact Occurrence.treatedAlike_of_memberEffect_eq he hm htight hspaced
      (Cursor.memberEffect_dash_space h)
  · rintro rfl type name hbare
    exact ⟨Occurrence.findings_tight_of_bare he hm hp hbare,
      Occurrence.findings_spaced_of_bare he hm hbare⟩

/-- A field of another class, right behind the dash and behind a space. -/
theorem bare_field_behind_dash :
    LookBack.entity? ["Class: A", "Fields:"] = some "A" ∧
      LookBack.members? ["Class: A", "Fields:"] = some .fields ∧
      "B b".toList.head? ≠ some '-' ∧ IsBareField "B b" "B" "b" ∧
      Occurrence.findings ⟨["Class: A", "Fields:"], "-B b"⟩ =
        [.defect ⟨3, "-B b", some "A", .incompleteField⟩] ∧
      Occurrence.findings ⟨["Class: A", "Fields:"], "- B b"⟩ =
        [.relation ⟨.composition, "A", "B"⟩,
          .event (.member (.field ⟨⟨.package, []⟩, "B", "b"⟩))] := by
  have he : LookBack.entity? ["Class: A", "Fields:"] = some "A" := by decide
  have hm : LookBack.members? ["Class: A", "Fields:"] = some .fields := by decide
  have hp : "B b".toList.head? ≠ some '-' := by decide
  have hbare : IsBareField "B b" "B" "b" := by
    refine ⟨by decide, ?_, by decide⟩
    rintro c ⟨⟩
    rfl
  obtain ⟨-, -, -, hfindings, -⟩ :=
    @spacing_behind_dash ["Class: A", "Fields:"] "A" "B b" .fields he hm hp
  obtain ⟨htight, hspaced⟩ := hfindings rfl "B" "b" hbare
  exact ⟨he, hm, hp, hbare, htight, hspaced⟩

/-- The fewest words that are a field are one too few right behind the dash. -/
theorem not_forall_treatedAlike :
    ¬ ∀ (before : List String) (owner : String) (members : MemberSection) (p : String),
      LookBack.entity? before = some owner → LookBack.members? before = some members →
      p ≠ "" → p.toList.head? ≠ some '-' →
      Occurrence.TreatedAlike ⟨before, "-" ++ p⟩ ⟨before, "- " ++ p⟩ := by
  intro h
  have halike := h ["Class: A", "Fields:"] "A" .fields "int x" (by decide) (by decide) (by decide)
    (by decide)
  have hevents : Finding.events (Occurrence.findings ⟨["Class: A", "Fields:"], "-" ++ "int x"⟩) ≠
      Finding.events (Occurrence.findings ⟨["Class: A", "Fields:"], "- " ++ "int x"⟩) := by
    decide +kernel
  exact hevents halike.events

end ClassDiagram
