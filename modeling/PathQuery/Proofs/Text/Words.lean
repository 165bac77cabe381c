import PathQuery.Text.Words

/-! The words of a text are its maximal runs of characters outside of gaps. They also are what is
left of its parts between gaps when empty parts are dropped.
-/

namespace PathQuery.Text

variable {isGap : Char → Bool}

/-- What was read of the first word stands before the first gap, by induction on the text. -/
theorem wordsFrom_eq (word text : List Char)
    : wordsFrom isGap word text = (text.splitOnPPrepend isGap word).filter (!·.isEmpty) := by
  induction text generalizing word with
  | nil => cases word <;> simp [wordsFrom]
  | cons c rest ih =>
      rw [wordsFrom, List.splitOnPPrepend_cons_eq_if]
      split
      case isFalse => exact ih (c :: word)
      case isTrue =>
          rw [ih [], List.splitOnPPrepend_nil_right]
          cases word <;> simp

theorem words_eq (isGap : Char → Bool) (text : List Char)
    : words isGap text = (text.splitOnP isGap).filter (!·.isEmpty) :=
  wordsFrom_eq [] text

-----------------------------------------------------------------------------------------
-- Maximal runs
-----------------------------------------------------------------------------------------

/-- The runs of characters outside of gaps, in order. Each has gaps only before it, up to the one
before, and ends with the text or at a gap.
-/
inductive Runs (isGap : Char → Bool) : List Char → List (List Char) → Prop
  | nil {gaps : List Char} (areGaps : ∀ c ∈ gaps, isGap c) : Runs isGap gaps []
  | cons {gaps word rest : List Char} {others : List (List Char)} (areGaps : ∀ c ∈ gaps, isGap c)
    (some : word ≠ []) (gapless : ∀ c ∈ word, ¬ isGap c) (ends : ∀ c ∈ rest.head?, isGap c)
    (further : Runs isGap rest others)
    : Runs isGap (gaps ++ (word ++ rest)) (word :: others)

namespace Runs

variable {text word rest : List Char} {runs : List (List Char)} {c : Char}

theorem cons_gap (hasRuns : Runs isGap text runs) (gap : isGap c)
    : Runs isGap (c :: text) runs := by
  cases hasRuns with
  | nil areGaps => exact .nil (List.forall_mem_cons.mpr ⟨gap, areGaps⟩)
  | cons areGaps some gapless ends further =>
      exact .cons (List.forall_mem_cons.mpr ⟨gap, areGaps⟩) some gapless ends further

theorem of_mem {run : List Char} (hasRuns : Runs isGap text runs) (member : run ∈ runs)
    : run ≠ [] ∧ ∀ c ∈ run, ¬ isGap c := by
  induction hasRuns with
  | nil => cases member
  | cons _ some gapless _ _ ih =>
      rcases List.mem_cons.mp member with rfl | later
      · exact ⟨some, gapless⟩
      · exact ih later

/-- The runs hold all characters that are no gaps, and no others. -/
theorem flatten_eq (hasRuns : Runs isGap text runs) : runs.flatten = text.filter (!isGap ·) := by
  induction hasRuns with
  | @nil gaps areGaps =>
      rw [List.flatten_nil, eq_comm, List.filter_eq_nil_iff]
      simpa using areGaps
  | @cons gaps word rest others areGaps _ gapless _ _ ih =>
      have none : gaps.filter (!isGap ·) = [] := List.filter_eq_nil_iff.mpr (by simpa using areGaps)
      have all : word.filter (!isGap ·) = word := List.filter_eq_self.mpr (by simpa using gapless)
      rw [List.filter_append, List.filter_append, none, all, ← ih]
      rfl

/-- A run before the others, without gaps before it. -/
theorem cons_word (some : word ≠ []) (gapless : ∀ c ∈ word, ¬ isGap c)
    (ends : ∀ c ∈ rest.head?, isGap c) (hasRuns : Runs isGap rest runs)
    : Runs isGap (word ++ rest) (word :: runs) :=
  .cons (List.forall_mem_nil _) some gapless ends hasRuns

/-- What is read of a word ends at a gap or with the text. -/
theorem reverse_append (gapless : ∀ c ∈ word, ¬ isGap c) (ends : ∀ c ∈ rest.head?, isGap c)
    (hasRuns : Runs isGap rest runs)
    : Runs isGap (word.reverse ++ rest)
        (if word.isEmpty then runs else word.reverse :: runs) := by
  split
  case isTrue none =>
      rw [List.isEmpty_iff.mp none]
      exact hasRuns
  case isFalse some =>
      exact .cons_word (by simpa using some) (by simpa using gapless) ends hasRuns

end Runs

/-- The words are runs, by induction on the text after what was read of the first word. -/
theorem runs_wordsFrom (word text : List Char) (gapless : ∀ c ∈ word, ¬ isGap c)
    : Runs isGap (word.reverse ++ text) (wordsFrom isGap word text) := by
  induction text generalizing word with
  | nil => exact .reverse_append gapless (by simp) (.nil (by simp))
  | cons c rest ih =>
      rw [wordsFrom]
      split
      case isTrue gap =>
          have further : Runs isGap (c :: rest) (wordsFrom isGap [] rest) :=
            (ih [] (List.forall_mem_nil _)).cons_gap gap
          exact further.reverse_append gapless (by simpa using gap)
      case isFalse other =>
          have hasRuns := ih (c :: word) (List.forall_mem_cons.mpr ⟨other, gapless⟩)
          rwa [List.reverse_cons, List.append_assoc] at hasRuns

theorem wordsFrom_append_of_gaps {gaps : List Char} (areGaps : ∀ c ∈ gaps, isGap c)
    (rest : List Char)
    : wordsFrom isGap [] (gaps ++ rest) = wordsFrom isGap [] rest := by
  induction gaps with
  | nil => rfl
  | cons c gaps ih =>
      obtain ⟨here, later⟩ := List.forall_mem_cons.mp areGaps
      rw [List.cons_append, wordsFrom, if_pos here, if_pos List.isEmpty_nil, ih later]

theorem wordsFrom_append_of_gapless {more : List Char} (gapless : ∀ c ∈ more, ¬ isGap c)
    (word rest : List Char)
    : wordsFrom isGap word (more ++ rest) = wordsFrom isGap (more.reverse ++ word) rest := by
  induction more generalizing word with
  | nil => rfl
  | cons c more ih =>
      obtain ⟨here, later⟩ := List.forall_mem_cons.mp gapless
      rw [List.cons_append, wordsFrom, if_neg here, ih later, List.reverse_cons, List.append_assoc]
      rfl

/-- The runs of a text are its words. -/
theorem runs_iff {text : List Char} {runs : List (List Char)}
    : Runs isGap text runs ↔ runs = words isGap text := by
  constructor
  · intro hasRuns
    induction hasRuns with
    | nil areGaps =>
        have same := wordsFrom_append_of_gaps areGaps []
        rw [List.append_nil] at same
        exact same.symm
    | @cons gaps word rest others areGaps some gapless ends further ih =>
        have started : word.reverse.isEmpty = false := by simpa using some
        rw [words, wordsFrom_append_of_gaps areGaps, wordsFrom_append_of_gapless gapless,
          List.append_nil, ih]
        cases rest with
        | nil => simp [wordsFrom, words, started]
        | cons c rest =>
            have gap : isGap c := ends c rfl
            simp [wordsFrom, words, started, gap]
  · rintro rfl
    exact runs_wordsFrom [] text (List.forall_mem_nil _)

end PathQuery.Text
