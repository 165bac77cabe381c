import PathQuery.Proofs.Function.Core
import PathQuery.Proofs.Number.ExactSums

/-! The function `substring` and the positions it takes characters from. For positions below 2^53
the comparison with a rounded sum gives the same as the one with the exact sum, and in any text
the characters that are taken are adjacent.
-/

namespace PathQuery

/-- A text is the slice of another one at some positions, counted from one. -/
def Text.IsSliceAt (positions : Set Nat) (text slice : String) : Prop :=
  ∃ before after, text.toList = before ++ slice.toList ++ after
    ∧ positions = Set.Ioc before.length (before.length + slice.length)

/-- Connected indexes select adjacent elements of a list. -/
theorem exists_filterMap_zipIdx_eq {selects : Nat → Bool}
    (connected : {index | selects index}.OrdConnected) (items : List α) (first : Nat)
    : ∃ before after : List α, ∃ selected,
      (items.zipIdx first).filterMap (fun (it, index) => if selects index then some it else none)
          = selected
        ∧ items = before ++ selected ++ after
        ∧ ∀ index, first ≤ index → index < first + items.length →
          (selects index ↔ first + before.length ≤ index
            ∧ index < first + before.length + selected.length) := by
  induction items generalizing first with
  | nil => exact ⟨[], [], [], rfl, rfl, fun index least below => by simp at below; omega⟩
  | cons item rest ih =>
      obtain ⟨before, after, selected, others, same, range⟩ := ih (first + 1)
      have length : (before ++ selected ++ after).length = rest.length := by rw [same]
      simp only [List.length_append] at length
      rw [List.zipIdx_cons, List.filterMap_cons]
      by_cases here : selects first
      · -- what is selected further on begins with the next item
        obtain ⟨after, same, range⟩ : ∃ after, rest = selected ++ after
            ∧ ∀ index, first + 1 ≤ index → index < first + 1 + rest.length →
              (selects index ↔ index < first + 1 + selected.length) := by
          rcases Nat.eq_zero_or_pos selected.length with none | some
          · obtain rfl := List.length_eq_zero_iff.mp none
            refine ⟨rest, rfl, fun index least below => ?_⟩
            rw [range index least below, List.length_nil]
            omega
          · have there := (range (first + 1 + before.length) (by omega) (by omega)).mpr (by omega)
            have next := connected.out here there ⟨Nat.le_succ first, by omega⟩
            have none := (range (first + 1) le_rfl (by omega)).mp next
            obtain rfl : before = [] := List.length_eq_zero_iff.mp (by omega)
            refine ⟨after, same, fun index least below => ?_⟩
            simpa [least] using range index least below
        refine ⟨[], after, item :: selected, by simp [here, others], by simp [same], ?_⟩
        intro index least below
        rw [List.length_cons] at below ⊢
        rcases least.eq_or_lt with rfl | past
        · simp [here]
        · rw [range index past (by omega), List.length_nil]
          omega
      · refine ⟨item :: before, after, selected, by simp [here, others], by simp [same], ?_⟩
        intro index least below
        rw [List.length_cons] at below ⊢
        rcases least.eq_or_lt with rfl | past
        · simp [here]
        · rw [range index past (by omega)]
          omega

/-- The characters at connected positions are a slice. -/
theorem Core.charactersAt_isSliceAt (text : String) (condition : Number → Bool)
    (connected : {position : Nat | condition (.ofNat position)}.OrdConnected)
    : ∃ positions, Text.IsSliceAt positions text (charactersAt condition text)
      ∧ ∀ position, 0 < position → position ≤ text.length →
        (position ∈ positions ↔ condition (.ofNat position)) := by
  obtain ⟨before, after, selected, taken, same, range⟩ :=
    exists_filterMap_zipIdx_eq connected text.toList 1
  refine ⟨_, ⟨before, after, ?_, rfl⟩, fun position some upTo => ?_⟩
  · rw [charactersAt, String.toList_ofList, taken, same]
  · rw [range position some (by rw [String.length_toList]; omega), charactersAt,
      String.length_ofList, taken, Set.mem_Ioc]
    omega

/-- The function `substring` gives the slice of a text at the positions from the rounded start on.
If a length is given, they are below the exact sum of the rounded start and the rounded length.
This goes for positions below 2^53, which no text in a memory exceeds. From there on sums of
integers need not be exact.
-/
theorem Library.call_substring (context : Context) (text : String) (start : Number)
    (length? : Option Number)
    : ∃ function slice positions, core.find? "substring" = some function
      ∧ function.call context ([.string text, .number start] ++ (length?.map .number).toList)
        = .ok (.string slice)
      ∧ Text.IsSliceAt positions text slice
      ∧ ∀ position, 0 < position → position ≤ text.length → position < 2 ^ 53 →
        (position ∈ positions ↔ start.round.UpTo position
          ∧ ∀ length ∈ length?, start.round.SumAbove length.round position) := by
  have fromStart := start.round.isUpperSet_atMost.ordConnected
  cases length? with
  | none =>
      obtain ⟨positions, isSlice, taken⟩ := Core.charactersAt_isSliceAt text _ fromStart
      refine ⟨_, _, positions, rfl, Function.call_ofValue .., isSlice, ?_⟩
      intro position some upTo short
      rw [taken position some upTo, Number.atMost_ofNat_iff short]
      simp
  | some length =>
      have between := fromStart.inter (start.round.add length.round).isLowerSet_less.ordConnected
      simp only [← Set.ofPred_and, ← Bool.and_eq_true] at between
      obtain ⟨positions, isSlice, taken⟩ := Core.charactersAt_isSliceAt text
        (fun it => start.round.atMost it && it.less (start.round.add length.round)) between
      refine ⟨_, _, positions, rfl, Function.call_ofValue .., isSlice, ?_⟩
      intro position some upTo short
      rw [taken position some upTo, Bool.and_eq_true, Number.atMost_ofNat_iff short,
        Number.ofNat_less_iff short,
        Number.above_add_iff short start.isWhole_round length.isWhole_round]
      simp

/-- The start 3/2 and the length 13/5 are rounded up. -/
example (context : Context)
    : Core.substring context [.string "12345", .number (.ofRatio false (3 * unitsPerOne) 2),
        .number (.ofRatio false (13 * unitsPerOne) 5)]
      = .ok (.string "234") := by
  rw [Core.substring]
  decide +kernel

end PathQuery
