import PathQuery.Proofs.Function.Core

/-! Where a text first occurs in another one. What stands before that place is the shortest text
that an occurrence can follow, also where occurrences overlap or are empty, and the functions that
ask for occurrences or take texts apart agree on it.
-/

namespace PathQuery

namespace Text

-----------------------------------------------------------------------------------------
-- The search
-----------------------------------------------------------------------------------------

section

variable {part text before after : List Char} {offset : Nat}

theorem find?_of_isPrefix (starts : part <+: text) : find? part text = some 0 := by
  cases text with
  | nil =>
      obtain rfl := List.prefix_nil.mp starts
      rfl
  | cons c rest => rw [find?, if_pos (List.isPrefixOf_iff_prefix.mpr starts)]

/-- Every occurrence is found or comes after one that is, by induction on what stands before
it.
-/
theorem exists_find?_le (occurs : text = before ++ (part ++ after))
    : ∃ offset ≤ before.length, find? part text = some offset := by
  induction before generalizing text with
  | nil => exact ⟨0, le_rfl, find?_of_isPrefix ⟨after, occurs.symm⟩⟩
  | cons c before ih =>
      by_cases starts : part <+: text
      · exact ⟨0, Nat.zero_le _, find?_of_isPrefix starts⟩
      · subst occurs
        obtain ⟨offset, bound, found⟩ := ih rfl
        refine ⟨offset + 1, Nat.succ_le_succ bound, ?_⟩
        rw [List.cons_append] at starts ⊢
        rw [find?, if_neg (mt List.isPrefixOf_iff_prefix.mp starts), found]
        rfl

/-- There is an occurrence at the offset that is found. -/
theorem eq_append_of_find? (found : find? part text = some offset)
    : text = text.take offset ++ (part ++ text.drop (offset + part.length)) := by
  induction text generalizing offset with
  | nil =>
      obtain ⟨isEmpty, rfl⟩ : part.isEmpty ∧ 0 = offset := by simpa [find?] using found
      rw [List.isEmpty_iff.mp isEmpty]
      rfl
  | cons c rest ih =>
      rw [find?] at found
      split at found
      case isTrue starts =>
          obtain ⟨after, same⟩ := List.isPrefixOf_iff_prefix.mp starts
          obtain rfl : 0 = offset := Option.some.inj found
          rw [← same, List.take_zero, Nat.zero_add, List.drop_left]
          rfl
      case isFalse =>
          obtain ⟨offset, later, rfl⟩ := Option.map_eq_some_iff.mp found
          rw [List.take_succ_cons, Nat.add_right_comm, List.drop_succ_cons, List.cons_append,
            ← ih later]

end

-----------------------------------------------------------------------------------------
-- Texts around an occurrence
-----------------------------------------------------------------------------------------

variable {text part left right : String}

/-- Where a text occurs, the texts around its first occurrence are those around one. -/
theorem before_append_after (occurs : contains text part)
    : before text part ++ part ++ after text part = text := by
  obtain ⟨offset, found⟩ := Option.isSome_iff_exists.mp occurs
  rw [before, after, found, ← String.toList_inj]
  simp only [String.toList_append, String.toList_ofList, List.append_assoc]
  exact (eq_append_of_find? found).symm

/-- Where a text occurs after another one, its first occurrence comes after one no longer. -/
theorem length_before_le (occurs : text = left ++ part ++ right)
    : contains text part ∧ (before text part).length ≤ left.length := by
  have split : text.toList = left.toList ++ (part.toList ++ right.toList) := by
    rw [occurs, String.toList_append, String.toList_append, List.append_assoc]
  obtain ⟨offset, bound, found⟩ := exists_find?_le split
  rw [contains, before, found, String.length_ofList, List.length_take, ← String.length_toList]
  exact ⟨rfl, (Nat.min_le_left ..).trans bound⟩

theorem contains_iff : contains text part ↔ ∃ left right, text = left ++ part ++ right := by
  constructor
  · exact fun occurs => ⟨_, _, (before_append_after occurs).symm⟩
  · rintro ⟨left, right, occurs⟩
    exact (length_before_le occurs).1

theorem before_of_not_contains (missing : ¬ contains text part) : before text part = "" := by
  rw [before, Option.not_isSome_iff_eq_none.mp missing]

theorem after_of_not_contains (missing : ¬ contains text part) : after text part = "" := by
  rw [after, Option.not_isSome_iff_eq_none.mp missing]

/-- A text begins with what occurs in it after nothing. -/
theorem startsWith_iff : startsWith text part ↔ contains text part ∧ before text part = "" := by
  rw [startsWith, List.isPrefixOf_iff_prefix]
  constructor
  · intro starts
    have found := find?_of_isPrefix starts
    rw [contains, before, found]
    exact ⟨rfl, rfl⟩
  · rintro ⟨occurs, none⟩
    have split := before_append_after occurs
    rw [none, String.empty_append, ← String.toList_inj, String.toList_append] at split
    exact ⟨_, split⟩

end Text

-----------------------------------------------------------------------------------------
-- The functions
-----------------------------------------------------------------------------------------

/-- A function of the library returns a value for some arguments. -/
def Library.Returns (library : Library) (context : Context) (name : String)
    (arguments : List Value) (value : Value) : Prop :=
  ∃ function, library.find? name = some function ∧ function.call context arguments = .ok value

/-- The functions `contains`, `substring-before`, `substring-after` and `starts-with` agree on where
a text first occurs in another one. If it occurs, the texts before and after that place are around
an occurrence, and no text before an occurrence is shorter; else they are empty. A text starts with
what occurs in it after the empty text.
-/
theorem Library.returns_firstOccurrence (context : Context) (text part : String)
    : ∃ occurs starts before after,
      core.Returns context "contains" [.string text, .string part] (.boolean occurs)
      ∧ core.Returns context "starts-with" [.string text, .string part] (.boolean starts)
      ∧ core.Returns context "substring-before" [.string text, .string part] (.string before)
      ∧ core.Returns context "substring-after" [.string text, .string part] (.string after)
      ∧ (occurs ↔ ∃ left right, text = left ++ part ++ right)
      ∧ (occurs →
        core.Returns context "concat" [.string before, .string part, .string after] (.string text)
        ∧ ∀ left right, text = left ++ part ++ right → before.length ≤ left.length)
      ∧ (¬ occurs → before = "" ∧ after = "")
      ∧ (starts ↔ occurs ∧ before = "") := by
  refine ⟨Text.contains text part, Text.startsWith text part, Text.before text part,
    Text.after text part, ⟨_, rfl, Function.call_ofValue ..⟩, ⟨_, rfl, Function.call_ofValue ..⟩,
    ⟨_, rfl, Function.call_ofValue ..⟩, ⟨_, rfl, Function.call_ofValue ..⟩, Text.contains_iff,
    ?_, ?_, Text.startsWith_iff⟩
  · intro occurs
    refine ⟨⟨_, rfl, ?_⟩, fun left right split => (Text.length_before_le split).2⟩
    have joined := Text.before_append_after occurs
    rw [Function.call_ofValue, Core.concat]
    simp [Core.texts?, String.join, joined]
  · exact fun missing => ⟨Text.before_of_not_contains missing, Text.after_of_not_contains missing⟩

/-- Of two occurrences that overlap the first one counts. -/
example : Text.before "xababa" "aba" = "x" ∧ Text.after "xababa" "aba" = "ba" := by decide

/-- The empty text occurs before the first character. -/
example : Text.before "x" "" = "" ∧ Text.after "x" "" = "x" ∧ Text.startsWith "x" "" := by decide

end PathQuery
