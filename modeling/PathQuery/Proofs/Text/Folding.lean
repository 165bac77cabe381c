import PathQuery.Proofs.Function.Core
import PathQuery.Proofs.Text.Words

/-! Normal forms of texts. Folding blanks and removing those at the ends leaves the runs of other
characters, joined by single spaces. Spaces that are no blanks belong to the runs.
-/

namespace PathQuery

namespace Text

variable {text gaps word rest : List Char} {runs : List (List Char)} {c : Char}

-----------------------------------------------------------------------------------------
-- Folded texts
-----------------------------------------------------------------------------------------

/-- A text neither begins nor ends with a blank, and no two blanks stand side by side. -/
structure IsFolded (text : List Char) : Prop where
  first : ∀ c ∈ text.head?, ¬ isBlank c
  last : ∀ c ∈ text.getLast?, ¬ isBlank c
  apart : text.IsChain fun c next => ¬ (isBlank c ∧ isBlank next)

theorem isFolded_of_gapless (gapless : ∀ c ∈ word, ¬ isBlank c) : IsFolded word where
  first c here := gapless c (List.mem_of_head? here)
  last c here := gapless c (List.mem_of_getLast? here)
  apart := by
    refine List.Pairwise.isChain (List.pairwise_of_forall_mem_list fun c member next _ both => ?_)
    exact gapless c member both.1

/-- A word may stand before a folded text, with one space between them. -/
theorem IsFolded.append (folded : IsFolded rest) (more : rest ≠ []) (some : word ≠ [])
    (gapless : ∀ c ∈ word, ¬ isBlank c)
    : IsFolded (word ++ ' ' :: rest) where
  first c here := by
    rw [List.head?_append_of_ne_nil _ some] at here
    exact gapless c (List.mem_of_head? here)
  last c here := by
    rw [List.getLast?_append_of_ne_nil _ (List.cons_ne_nil ' ' rest),
      List.getLast?_cons_of_ne_nil more] at here
    exact folded.last c here
  apart := by
    refine List.isChain_append.mpr ⟨(isFolded_of_gapless gapless).apart, ?_, ?_⟩
    · exact List.isChain_cons.mpr ⟨fun c here both => folded.first c here both.2, folded.apart⟩
    · exact fun c here _ _ both => gapless c (List.mem_of_getLast? here) both.1

/-- Runs with single spaces between them are folded, and they are the runs of that text. -/
theorem isFolded_intercalate (areRuns : ∀ run ∈ runs, run ≠ [] ∧ ∀ c ∈ run, ¬ isBlank c)
    : IsFolded ([' '].intercalate runs) ∧ Runs isBlank ([' '].intercalate runs) runs := by
  induction runs with
  | nil => exact ⟨isFolded_of_gapless (by simp), .nil (by simp)⟩
  | cons run others ih =>
      obtain ⟨⟨some, gapless⟩, later⟩ := List.forall_mem_cons.mp areRuns
      obtain ⟨folded, hasRuns⟩ := ih later
      cases others with
      | nil =>
          rw [List.intercalate_singleton]
          refine ⟨isFolded_of_gapless gapless, ?_⟩
          have hasRuns : Runs isBlank (run ++ []) [run] :=
            .cons_word some gapless (by simp) (.nil (List.forall_mem_nil _))
          rwa [List.append_nil] at hasRuns
      | cons next others =>
          have more : [' '].intercalate (next :: others) ≠ [] := by
            intro none
            rw [none] at hasRuns
            have parts := hasRuns.flatten_eq
            simp [(areRuns next (by simp)).1] at parts
          rw [List.intercalate_cons_cons, List.append_assoc]
          refine ⟨folded.append more some gapless, ?_⟩
          exact .cons_word some gapless (by simp [isBlank]) (hasRuns.cons_gap rfl)

-----------------------------------------------------------------------------------------
-- Folding
-----------------------------------------------------------------------------------------

theorem foldBlanksFrom_append_of_blanks (blank : ∀ c ∈ gaps, isBlank c) (rest : List Char)
    : foldBlanksFrom true (gaps ++ rest) = foldBlanksFrom true rest := by
  induction gaps with
  | nil => rfl
  | cons c gaps ih =>
      obtain ⟨here, later⟩ := List.forall_mem_cons.mp blank
      rw [List.cons_append, foldBlanksFrom, if_pos here, if_pos rfl, ih later]

theorem foldBlanksFrom_append_of_gapless (some : word ≠ []) (gapless : ∀ c ∈ word, ¬ isBlank c)
    (after : Bool) (rest : List Char)
    : foldBlanksFrom after (word ++ rest) = word ++ foldBlanksFrom false rest := by
  induction word generalizing after with
  | nil => exact absurd rfl some
  | cons c word ih =>
      obtain ⟨here, later⟩ := List.forall_mem_cons.mp gapless
      rw [List.cons_append, foldBlanksFrom, if_neg here]
      cases word with
      | nil => rfl
      | cons => rw [ih (List.cons_ne_nil _ _) later]; rfl

theorem foldBlanksFrom_false_eq (blank : isBlank c) (rest : List Char)
    : foldBlanksFrom false (c :: rest) = ' ' :: foldBlanksFrom true (c :: rest) := by
  rw [foldBlanksFrom, foldBlanksFrom, if_pos blank, if_pos blank]
  rfl

/-- After a blank, folding leaves the runs, and a space where blanks end the text after them. -/
theorem Runs.foldBlanksFrom_eq (hasRuns : Runs isBlank text runs)
    : ∃ trailing, (∀ c ∈ trailing, isBlank c) ∧ (runs = [] → trailing = [])
      ∧ foldBlanksFrom true text = [' '].intercalate runs ++ trailing := by
  induction hasRuns with
  | @nil gaps blank =>
      have same := foldBlanksFrom_append_of_blanks blank []
      rw [List.append_nil] at same
      exact ⟨[], by simp, fun _ => rfl, same⟩
  | @cons gaps word rest others blank some gapless ends further ih =>
      obtain ⟨trailing, areBlank, none, folded⟩ := ih
      rw [foldBlanksFrom_append_of_blanks blank, foldBlanksFrom_append_of_gapless some gapless]
      cases rest with
      | nil =>
          have last : others = [] := by simpa [words, wordsFrom] using runs_iff.mp further
          subst last
          exact ⟨[], by simp, by simp, by rw [List.intercalate_singleton]; rfl⟩
      | cons c rest =>
          rw [foldBlanksFrom_false_eq (ends c rfl), folded]
          cases others with
          | nil => exact ⟨[' '], by simp [isBlank], by simp, by simp [none]⟩
          | cons => exact ⟨trailing, areBlank, by simp, by simp [List.intercalate_cons_cons]⟩

-----------------------------------------------------------------------------------------
-- Trimming
-----------------------------------------------------------------------------------------

theorem dropWhile_append_eq (blank : ∀ c ∈ gaps, isBlank c) (first : ∀ c ∈ rest.head?, ¬ isBlank c)
    : (gaps ++ rest).dropWhile isBlank = rest := by
  rw [List.dropWhile_append_of_pos blank]
  cases rest with
  | nil => rfl
  | cons c rest => exact List.dropWhile_cons_of_neg (first c rfl)

/-- Trimming removes the blanks around a folded text. -/
theorem IsFolded.trimBlanks_eq (folded : IsFolded text) {leading trailing : List Char}
    (before : ∀ c ∈ leading, isBlank c) (after : ∀ c ∈ trailing, isBlank c)
    : trimBlanks (leading ++ (text ++ trailing)) = text := by
  rw [trimBlanks]
  by_cases none : text = []
  · subst none
    have all : ∀ c ∈ leading ++ ([] ++ trailing), isBlank c := by
      simpa [or_imp, forall_and] using And.intro before after
    rw [List.dropWhile_eq_nil_iff.mpr all]
    rfl
  · rw [dropWhile_append_eq before (by rw [List.head?_append_of_ne_nil _ none]; exact folded.first),
      List.reverse_append, dropWhile_append_eq (by simpa using after) (by simpa using folded.last),
      List.reverse_reverse]

/-- The normal form of a text are its runs with single spaces between them. -/
theorem Runs.normalizeSpace_eq {text : String} (hasRuns : Runs isBlank text.toList runs)
    : (normalizeSpace text).toList = [' '].intercalate runs := by
  obtain ⟨trailing, after, -, folded⟩ := hasRuns.foldBlanksFrom_eq
  obtain ⟨leading, before, same⟩ : ∃ leading, (∀ c ∈ leading, isBlank c)
      ∧ foldBlanks text.toList = leading ++ foldBlanksFrom true text.toList := by
    rw [foldBlanks]
    cases text.toList with
    | nil => exact ⟨[], by simp, rfl⟩
    | cons c rest =>
        by_cases blank : isBlank c
        · exact ⟨[' '], by simp [isBlank], foldBlanksFrom_false_eq blank rest⟩
        · exact ⟨[], by simp, by simp [foldBlanksFrom, blank]⟩
  rw [normalizeSpace, String.toList_ofList, same, folded,
    (isFolded_intercalate fun run => hasRuns.of_mem).1.trimBlanks_eq before after]

end Text

/-- The function `normalize-space` gives the runs of characters that are no blanks, in order and
joined by single spaces. So it keeps the other characters, its results are folded, and it leaves
these as they are.
-/
theorem Library.call_normalizeSpace (context : Context) (text : String)
    : ∃ function runs result, core.find? "normalize-space" = some function
      ∧ (∀ other, Text.Runs Text.isBlank text.toList other ↔ other = runs)
      ∧ function.call context [.string text] = .ok (.string result)
      ∧ result.toList = [' '].intercalate runs
      ∧ result.toList.filter (!Text.isBlank ·) = text.toList.filter (!Text.isBlank ·)
      ∧ Text.IsFolded result.toList
      ∧ function.call context [.string result] = .ok (.string result) := by
  have hasRuns : Text.Runs Text.isBlank text.toList (Text.words Text.isBlank text.toList) :=
    Text.runs_iff.mpr rfl
  have joined := hasRuns.normalizeSpace_eq
  obtain ⟨folded, again⟩ := Text.isFolded_intercalate fun run => hasRuns.of_mem
  rw [← joined] at folded again
  refine ⟨_, _, Text.normalizeSpace text, rfl, fun _ => Text.runs_iff, ?_, joined, ?_, folded, ?_⟩
  · rw [Function.call_ofValue]
    rfl
  · rw [← hasRuns.flatten_eq, ← again.flatten_eq]
  · have kept : Text.normalizeSpace (Text.normalizeSpace text) = Text.normalizeSpace text :=
      String.toList_inj.mp (again.normalizeSpace_eq.trans joined.symm)
    rw [Function.call_ofValue, Core.onText, kept]

end PathQuery
