/-! How outcomes of consecutive computations come about, and what they meet: a property of
the value, or the fault that ends the computation is one of those that are allowed. Two
computations are alike if they end with the same fault or with related values.
-/

namespace PathQuery

/-- What follows a computation succeeds if that has succeeded before. -/
theorem bind_eq_ok {ε α β : Type} {first : Except ε α} {next : α → Except ε β} {result : β}
    : (first >>= next) = .ok result ↔ ∃ value, first = .ok value ∧ next value = .ok result := by
  cases first with
  | error fault => simp [bind, Except.bind]
  | ok value => simp [bind, Except.bind]

/-- A sequence fails with the first fault. -/
theorem bind_eq_error {ε α β : Type} {first : Except ε α} {next : α → Except ε β} {fault : ε}
    : (first >>= next) = .error fault
      ↔ first = .error fault ∨ ∃ value, first = .ok value ∧ next value = .error fault := by
  cases first with
  | error other => simp [bind, Except.bind]
  | ok value => simp [bind, Except.bind]

/-- A changed value comes from a computation that has succeeded. -/
theorem map_eq_ok {ε α β : Type} {change : α → β} {outcome : Except ε α} {result : β}
    : outcome.map change = .ok result ↔ ∃ value, outcome = .ok value ∧ change value = result := by
  cases outcome <;> simp [Except.map]

theorem map_eq_error {ε α β : Type} {change : α → β} {outcome : Except ε α} {fault : ε}
    : outcome.map change = .error fault ↔ outcome = .error fault := by
  cases outcome <;> simp [Except.map]

/-- The value of a computation is good, or the fault is allowed. -/
def Meets {ε α : Type} (Allowed : ε → Prop) (Good : α → Prop) : Except ε α → Prop
  | .ok value => Good value
  | .error fault => Allowed fault

namespace Meets

variable {ε α β : Type} {Allowed : ε → Prop} {Good : α → Prop} {Fine : β → Prop}

/-- What follows a good value meets what it should if it does so for all good values. -/
theorem bind {first : Except ε α} {next : α → Except ε β} (meets : Meets Allowed Good first)
    (follows : ∀ value, first = .ok value → Good value → Meets Allowed Fine (next value))
    : Meets Allowed Fine (first >>= next) := by
  cases first with
  | error fault => exact meets
  | ok value => exact follows value rfl meets

theorem imp {Better : α → Prop} {outcome : Except ε α} (meets : Meets Allowed Good outcome)
    (better : ∀ value, outcome = .ok value → Good value → Better value)
    : Meets Allowed Better outcome := by
  cases outcome with
  | error fault => exact meets
  | ok value => exact better value rfl meets

theorem map {outcome : Except ε α} {change : α → β} (meets : Meets Allowed Good outcome)
    (fine : ∀ value, Good value → Fine (change value))
    : Meets Allowed Fine (outcome.map change) := by
  cases outcome with
  | error fault => exact meets
  | ok value => exact fine value meets

end Meets

/-- Two computations end with the same fault, or with values that are related. -/
def Alike {ε α β : Type} (Related : α → β → Prop) : Except ε α → Except ε β → Prop
  | .ok value, .ok other => Related value other
  | .error fault, .error other => fault = other
  | _, _ => False

namespace Alike

variable {ε α β α' β' : Type} {Related : α → β → Prop} {Further : α' → β' → Prop}
  {first : Except ε α} {second : Except ε β}

/-- Both computations end in one of two ways. -/
theorem fault_or_values (alike : Alike Related first second)
    : (∃ fault, first = .error fault ∧ second = .error fault)
      ∨ ∃ value other, first = .ok value ∧ second = .ok other ∧ Related value other := by
  cases first with
  | error fault =>
      cases second with
      | error other => exact .inl ⟨fault, rfl, congrArg Except.error (Eq.symm alike)⟩
      | ok other => exact alike.elim
  | ok value =>
      cases second with
      | error other => exact alike.elim
      | ok other => exact .inr ⟨value, other, rfl, rfl, alike⟩

/-- What follows related values is alike if it is so for all related values. -/
theorem bind {next : α → Except ε α'} {further : β → Except ε β'}
    (alike : Alike Related first second)
    (follows : ∀ value other, first = .ok value → Related value other →
      Alike Further (next value) (further other))
    : Alike Further (first >>= next) (second >>= further) := by
  obtain ⟨fault, rfl, rfl⟩ | ⟨value, other, rfl, rfl, related⟩ := alike.fault_or_values
  · rfl
  · exact follows value other rfl related

theorem of_eq {first second : Except ε α} (same : first = second)
    : Alike (· = ·) first second := by
  subst same
  cases first <;> exact rfl

/-- Faults that are reported in the same way stay alike. -/
theorem mapError {ζ : Type} (alike : Alike Related first second) (report : ε → ζ)
    : Alike Related (first.mapError report) (second.mapError report) := by
  obtain ⟨fault, rfl, rfl⟩ | ⟨value, other, rfl, rfl, related⟩ := alike.fault_or_values
  · rfl
  · exact related

/-- A computation with values that are images of another one's is the image of that. -/
theorem eq_map {change : α → β} (alike : Alike Related first second)
    (images : ∀ value other, Related value other → other = change value)
    : second = first.map change := by
  obtain ⟨fault, rfl, rfl⟩ | ⟨value, other, rfl, rfl, related⟩ := alike.fault_or_values
  · rfl
  · exact congrArg Except.ok (images value other related)

/-- What is read alike off related values is the same for the computations. -/
theorem toOption_map_eq {γ : Type} {read : α → γ} {readOther : β → γ}
    (alike : Alike Related first second)
    (same : ∀ value other, Related value other → read value = readOther other)
    : first.toOption.map read = second.toOption.map readOther := by
  obtain ⟨fault, rfl, rfl⟩ | ⟨value, other, rfl, rfl, related⟩ := alike.fault_or_values
  · rfl
  · exact congrArg some (same value other related)

/-- A computation that is alike one with a value has a related one. -/
theorem exists_ok {value : α} (alike : Alike Related first second) (result : first = .ok value)
    : ∃ other, second = .ok other ∧ Related value other := by
  obtain ⟨fault, rfl, -⟩ | ⟨_, other, rfl, found, related⟩ := alike.fault_or_values
  · cases result
  · cases result
    exact ⟨other, found, related⟩

end Alike

end PathQuery
