import ClassDiagram.Proofs.Text.Lines
import ClassDiagram.Proofs.Text.Words

/-! # Joined words

A blank ends one word and begins the next, wherever it stands. The words of texts that are joined
with spaces are therefore the words of the first, then those of the second and so on, and a list of
words can be read back from what it is joined to.
-/

namespace ClassDiagram

namespace Chars

variable {c : Char}

/-- No word goes on beyond a blank. -/
theorem words_append_cons (h : isBlank c = true) (xs ys : List Char) :
    words (xs ++ c :: ys) = words xs ++ words ys := by
  simp only [words, splitWhere_eq_splitOnP]
  rw [List.splitOnP_append_cons xs ys h, List.filter_append]

theorem words_cons (h : isBlank c = true) (cs : List Char) : words (c :: cs) = words cs :=
  words_append_cons h [] cs

theorem words_append_singleton (h : isBlank c = true) (cs : List Char) :
    words (cs ++ [c]) = words cs := by
  rw [words_append_cons h]
  exact List.append_nil _

theorem words_eq_singleton {w : List Char} (hne : w ≠ []) (h : ∀ c ∈ w, isBlank c = false) :
    words w = [w] := by
  rw [words, splitWhere_eq_splitOnP, List.splitOnP_eq_singleton h]
  simpa using hne

theorem words_trimStart (cs : List Char) : words (trimStart cs) = words cs := by
  induction cs with
  | nil => rfl
  | cons c cs ih =>
    rw [trimStart] at ih ⊢
    by_cases h : isBlank c = true
    · rw [List.dropWhile_cons_of_pos h, ih, words_cons h]
    · rw [List.dropWhile_cons_of_neg h]

theorem words_trimEnd (cs : List Char) : words (trimEnd cs) = words cs := by
  induction cs using List.reverseRecOn with
  | nil => rfl
  | append_singleton cs c ih =>
    rw [trimEnd_append_singleton]
    split_ifs with h
    · rw [ih, words_append_singleton h]
    · rfl

end Chars

namespace Text

/-- The text is one word. -/
structure IsWord (s : String) : Prop where
  ne_empty : s ≠ ""
  unbroken : ∀ c ∈ s.toList, ClassDiagram.isBlank c = false

instance (s : String) : Decidable (IsWord s) :=
  have : Decidable (∀ c ∈ s.toList, ClassDiagram.isBlank c = false) :=
    List.decidableBAll (fun c => ClassDiagram.isBlank c = false) s.toList
  decidable_of_iff (s ≠ "" ∧ ∀ c ∈ s.toList, ClassDiagram.isBlank c = false)
    ⟨fun h => ⟨h.1, h.2⟩, fun h => ⟨h.1, h.2⟩⟩

variable {s w : String} {ws : List String}

theorem isWord_of_mem_words (h : w ∈ words s) : IsWord w := by
  obtain ⟨cs, hcs, rfl⟩ := List.mem_map.mp h
  refine ⟨?_, fun c hc => ?_⟩
  · simpa using (List.mem_filter.mp hcs).2
  · rw [String.toList_ofList] at hc
    exact (Chars.of_mem_words hcs hc).2

theorem IsWord.words_eq (h : IsWord w) : words w = [w] := by
  rw [words, Chars.words_eq_singleton (by simpa using h.ne_empty) h.unbroken, List.map_singleton,
    String.ofList_toList]

theorem words_trim (s : String) : words (trim s) = words s := by
  rw [words, toList_trim, Chars.trim, Chars.words_trimEnd, Chars.words_trimStart, words]

@[simp] theorem words_append_space (s t : String) : words (s ++ " " ++ t) = words s ++ words t := by
  have hspace : (s ++ " " ++ t).toList = s.toList ++ ' ' :: t.toList := by simp
  rw [words, hspace, Chars.words_append_cons (by decide), List.map_append]
  rfl

@[simp] theorem words_space_append (s : String) : words (" " ++ s) = words s := by
  have h := words_append_space "" s
  rwa [String.empty_append] at h

theorem words_unwords (ss : List String) : words (unwords ss) = ss.flatMap words := by
  induction ss with
  | nil => rfl
  | cons s ss ih =>
    cases ss with
    | nil => rw [unwords, String.intercalate_singleton, List.flatMap_singleton]
    | cons t ts =>
      rw [unwords_cons_cons, words_append_space, ih]
      rfl

theorem flatMap_words (h : ∀ w ∈ ws, IsWord w) : ws.flatMap words = ws := by
  rw [List.flatMap_congr fun w hw => (h w hw).words_eq]
  exact List.flatMap_pure_eq_map id ws |>.trans (List.map_id ws)

theorem words_unwords_eq (h : ∀ w ∈ ws, IsWord w) : words (unwords ws) = ws := by
  rw [words_unwords, flatMap_words h]

end Text

/-! ## Words behind a dash -/

namespace Chars

theorem trim_dash (cs : List Char) : trim ('-' :: cs) = '-' :: trimEnd cs := by
  have hstart : trimStart ('-' :: cs) = '-' :: cs := rfl
  have hdash : isBlank '-' = false := by decide
  rw [trim, hstart, trimEnd_cons, if_neg (by simp [hdash])]

theorem stripBullet_dash (cs : List Char) : stripBullet ('-' :: cs) = trimStart (trimEnd cs) := by
  rw [stripBullet, trim_dash]
  rfl

end Chars

theorem words_stripBullet_append (s : String) :
    Text.words (stripBullet ("-" ++ s)) = Text.words s := by
  have hdash : ("-" ++ s).toList = '-' :: s.toList := by simp
  rw [Text.words, stripBullet, String.toList_ofList, hdash, Chars.stripBullet_dash,
    Chars.words_trimStart, Chars.words_trimEnd, Text.words]

theorem words_stripBullet_unwords (ss : List String) :
    Text.words (stripBullet (Text.unwords ("-" :: ss))) = ss.flatMap Text.words := by
  cases ss with
  | nil => rfl
  | cons s ss =>
    rw [Text.unwords_cons_cons, String.append_assoc, words_stripBullet_append,
      Text.words_space_append, Text.words_unwords]

end ClassDiagram
