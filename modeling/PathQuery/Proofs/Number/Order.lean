import Mathlib
import PathQuery.Number.Basic

/-! The order of numbers. Each has a place among the whole counts of units and both infinities,
where the zeros share one; what is no number has none.
-/

namespace PathQuery.Number

/-- The places of numbers: counts of units between the infinities. -/
abbrev Places : Type :=
  WithBot (WithTop Int)

/-- The place of a number. -/
def place? : Number → Option Places
  | .nan => none
  | .infinite negative => some (if negative then ⊥ else ⊤)
  | .finite negative magnitude => some ((signedUnits negative magnitude : WithTop Int) : Places)

/-- Both numbers have places, which are related. -/
def Placed (relation : Places → Places → Prop) (left right : Number) : Prop :=
  ∃ place ∈ left.place?, ∃ other ∈ right.place?, relation place other

theorem placed_comm {relation : Places → Places → Prop} {left right : Number}
    : Placed relation left right ↔ Placed (fun place other => relation other place) right left :=
  ⟨fun ⟨place, here, other, there, related⟩ => ⟨other, there, place, here, related⟩,
    fun ⟨other, there, place, here, related⟩ => ⟨place, here, other, there, related⟩⟩

/-- Numbers are equal that have one place. -/
theorem equals_iff (left right : Number)
    : left.equals right ↔ Placed (· = ·) left right := by
  rcases left with _ | (_ | _) | _ <;> rcases right with _ | (_ | _) | _ <;>
    simp [equals, Placed, place?]

/-- A number is less than those that have a later place. -/
theorem less_iff (left right : Number)
    : left.less right ↔ Placed (· < ·) left right := by
  rcases left with _ | (_ | _) | _ <;> rcases right with _ | (_ | _) | _ <;>
    simp [less, Placed, place?, lt_top_iff_ne_top]

theorem atMost_iff (left right : Number)
    : left.atMost right ↔ Placed (· ≤ ·) left right := by
  rw [atMost, Bool.or_eq_true, less_iff, equals_iff]
  constructor
  · rintro (⟨place, here, other, there, before⟩ | ⟨place, here, other, there, same⟩)
    · exact ⟨place, here, other, there, before.le⟩
    · exact ⟨place, here, other, there, same.le⟩
  · rintro ⟨place, here, other, there, upTo⟩
    rcases upTo.lt_or_eq with before | same
    · exact .inl ⟨place, here, other, there, before⟩
    · exact .inr ⟨place, here, other, there, same⟩

end PathQuery.Number
