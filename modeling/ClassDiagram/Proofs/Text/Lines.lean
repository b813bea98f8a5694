import ClassDiagram.Proofs.Text.Trim

/-! # Lines joined and cut

Lines that are joined to a text are the lines of that text, but for carriage returns at their ends
and for an empty line in the last place. Carriage returns added in front of all line feeds do not
change the lines beyond their ends either.
-/

namespace ClassDiagram

namespace Chars

theorem extendFirst_eq_modifyHead {ps : List (List Char)} (h : ps ≠ []) (c : Char) :
    extendFirst c ps = ps.modifyHead (List.cons c) := by
  cases ps with
  | nil => exact absurd rfl h
  | cons p ps => rfl

theorem splitWhere_eq_splitOnP (p : Char → Bool) (cs : List Char) :
    splitWhere p cs = cs.splitOnP p := by
  induction cs with
  | nil => rfl
  | cons c cs ih =>
    rw [splitWhere_cons, List.splitOnP_cons_eq_if_modifyHead, ih,
      extendFirst_eq_modifyHead (List.splitOnP_ne_nil p cs)]

theorem splitWhere_ne_nil (p : Char → Bool) (cs : List Char) : splitWhere p cs ≠ [] := by
  rw [splitWhere_eq_splitOnP]
  exact List.splitOnP_ne_nil p cs

theorem closeLines_concat (ps : List (List Char)) (p : List Char) :
    closeLines (ps ++ [p]) = ps.map dropCarriageReturn ++ if p = [] then [] else [p] := by
  rw [closeLines, List.dropLast_concat, List.getLast?_concat]
  cases p <;> rfl

theorem closeLines_cons_cons (p q : List Char) (ps : List (List Char)) :
    closeLines (p :: q :: ps) = dropCarriageReturn p :: closeLines (q :: ps) := by
  rw [closeLines, closeLines, List.dropLast_cons_cons, List.getLast?_cons_cons]
  rfl

/-- A carriage return in front of every line feed. -/
def returned (cs : List Char) : List Char :=
  cs.flatMap fun c => if c = '\n' then ['\r', '\n'] else [c]

/-- A carriage return at the end of every piece but the last. -/
def returnedPieces : List (List Char) → List (List Char)
  | [] => []
  | [p] => [p]
  | p :: q :: ps => (p ++ ['\r']) :: returnedPieces (q :: ps)

theorem extendFirst_returnedPieces {ps : List (List Char)} (h : ps ≠ []) (c : Char) :
    extendFirst c (returnedPieces ps) = returnedPieces (extendFirst c ps) := by
  match ps with
  | [] => exact absurd rfl h
  | [p] => rfl
  | p :: q :: ps => rfl

theorem splitWhere_returned (cs : List Char) :
    splitWhere (· == '\n') (returned cs) = returnedPieces (splitWhere (· == '\n') cs) := by
  induction cs with
  | nil => rfl
  | cons c cs ih =>
    have hne := splitWhere_ne_nil (· == '\n') cs
    rw [returned, List.flatMap_cons, ← returned]
    by_cases hc : c = '\n'
    · obtain ⟨p, ps, hps⟩ := List.exists_cons_of_ne_nil hne
      rw [hps] at ih
      simp [hc, splitWhere_cons, ih, hps, extendFirst, returnedPieces]
    · simp [hc, splitWhere_cons, ih, extendFirst_returnedPieces hne]

theorem map_trim_closeLines_returnedPieces (ps : List (List Char)) :
    (closeLines (returnedPieces ps)).map trim = (closeLines ps).map trim := by
  match ps with
  | [] => rfl
  | [p] => rfl
  | p :: q :: ps =>
    have ih := map_trim_closeLines_returnedPieces (q :: ps)
    have hdrop : dropCarriageReturn (p ++ ['\r']) = p := by simp [dropCarriageReturn]
    obtain ⟨r, rs, hr⟩ : ∃ r rs, returnedPieces (q :: ps) = r :: rs := by
      cases ps <;> exact ⟨_, _, rfl⟩
    rw [returnedPieces, hr, closeLines_cons_cons, closeLines_cons_cons, List.map_cons, ← hr, ih,
      hdrop, List.map_cons, trim_dropCarriageReturn]

end Chars

namespace Text

/-- The text with the other kind of line ends. -/
def withCarriageReturns (s : String) : String :=
  String.ofList (Chars.returned s.toList)

theorem map_trim_ofList (ls : List (List Char)) :
    (ls.map String.ofList).map trim = (ls.map Chars.trim).map String.ofList := by
  simp [trim, Function.comp_def]

theorem map_trim_lines_withCarriageReturns (s : String) :
    (lines (withCarriageReturns s)).map trim = (lines s).map trim := by
  rw [lines, lines, map_trim_ofList, map_trim_ofList, withCarriageReturns, String.toList_ofList,
    Chars.lines, Chars.lines, Chars.splitWhere_returned, Chars.map_trim_closeLines_returnedPieces]

theorem map_trim_lines_unlines {ls : List String} (h : ∀ l ∈ ls, '\n' ∉ l.toList) :
    ∃ ends, (ends = [] ∨ ends = [""]) ∧ (lines (unlines ls) ++ ends).map trim = ls.map trim := by
  rcases List.eq_nil_or_concat' ls with rfl | ⟨rest, last, rfl⟩
  · exact ⟨[], .inl rfl, rfl⟩
  · have hpieces : Chars.splitWhere (· == '\n') (unlines (rest ++ [last])).toList =
        rest.map String.toList ++ [last.toList] := by
      rw [Chars.splitWhere_eq_splitOnP, ← List.splitOn_eq_splitOnP, unlines,
        String.toList_intercalate, List.map_append]
      apply List.splitOn_intercalate '\n' _ (by simp)
      intro l hl
      obtain ⟨s, hs, rfl⟩ := List.mem_map.mp (List.map_append ▸ hl)
      exact h s hs
    have hrest : ((rest.map String.toList).map Chars.dropCarriageReturn).map Chars.trim =
        (rest.map String.toList).map Chars.trim := by
      simp [Chars.trim_dropCarriageReturn, Function.comp_def]
    rw [lines, Chars.lines, hpieces, Chars.closeLines_concat]
    split_ifs with hlast
    · refine ⟨[""], .inr rfl, ?_⟩
      obtain rfl : last = "" := by simpa using hlast
      rw [List.map_append, List.append_nil, map_trim_ofList, hrest, List.map_append]
      simp [trim, Function.comp_def]
    · refine ⟨[], .inl rfl, ?_⟩
      rw [List.append_nil, map_trim_ofList, List.map_append, hrest]
      simp [trim, Function.comp_def]

end Text

end ClassDiagram
