import Mathlib
import PathQuery.Number.Decimal
import PathQuery.Proofs.Number.Shortest

/-! The text of a number, which is read back as the number. The notation has a sign, digits and a
point with digits, and denotes the exact value of an integer and otherwise the shortest decimal
that the number has.
-/

namespace PathQuery

-----------------------------------------------------------------------------------------
-- Digits
-----------------------------------------------------------------------------------------

theorem Text.isDigit_of_mem_toDigits {value : Nat} {c : Char} (member : c ∈ Nat.toDigits 10 value)
    : isDigit c := by
  have digit := Nat.isDigit_of_mem_toDigits (by decide) le_rfl member
  simpa [Char.isDigit, isDigit, Char.le_def] using digit

theorem Text.not_isBlank_of_isDigit {c : Char} (digit : isDigit c) : ¬isBlank c := by
  simp only [isBlank, Bool.or_eq_true, beq_iff_eq]
  rintro (((rfl | rfl) | rfl) | rfl) <;> exact absurd digit (by decide)

/-- The value of digits is that of the standard notation, with any zeros before it. -/
theorem digitsValue_padded (zeros value : Nat)
    : digitsValue (List.replicate zeros '0' ++ Nat.toDigits 10 value) = value := by
  change Nat.ofDigitChars 10 _ 0 = value
  rw [Nat.ofDigitChars_append, Nat.ofDigitChars_replicate_zero, Nat.mul_zero,
    Nat.ofDigitChars_toDigits (by decide) le_rfl]

/-- The spellings of values: digits, with a point before the last ones where some stand for a
fraction.
-/
inductive Denotes : List Char → ℚ → Prop
  | whole {digits : List Char} (present : digits ≠ []) (all : ∀ c ∈ digits, Text.isDigit c)
    : Denotes digits (digitsValue digits)
  | decimal {whole fraction : List Char} (present : whole ≠ []) (also : fraction ≠ [])
    (all : ∀ c ∈ whole ++ fraction, Text.isDigit c)
    : Denotes (whole ++ '.' :: fraction) (digitsValue (whole ++ fraction) / 10 ^ fraction.length)

namespace Denotes

variable {text : List Char} {value : ℚ}

/-- The notation begins with a digit. -/
theorem exists_cons (denotes : Denotes text value)
    : ∃ first rest, text = first :: rest ∧ Text.isDigit first := by
  cases denotes with
  | whole present all =>
      obtain ⟨first, rest, rfl⟩ := List.exists_cons_of_ne_nil present
      exact ⟨first, rest, rfl, all first List.mem_cons_self⟩
  | decimal present also all =>
      obtain ⟨first, rest, rfl⟩ := List.exists_cons_of_ne_nil present
      exact ⟨first, _, rfl, all first List.mem_cons_self⟩

theorem not_isBlank (denotes : Denotes text value) : ∀ c ∈ text, ¬Text.isBlank c := by
  intro c member
  cases denotes with
  | whole present all => exact Text.not_isBlank_of_isDigit (all c member)
  | decimal present also all =>
      rcases List.mem_append.mp member with before | after
      · exact Text.not_isBlank_of_isDigit (all c (List.mem_append_left _ before))
      · rcases List.mem_cons.mp after with rfl | after
        · decide
        · exact Text.not_isBlank_of_isDigit (all c (List.mem_append_right _ after))

/-- What denotes a value is read as a numeral with that value. -/
theorem exists_numeral (denotes : Denotes text value)
    : ∃ numeral, Numeral.ofChars? text = some numeral
      ∧ (numeral.digits / 10 ^ numeral.scale : ℚ) = value := by
  cases denotes with
  | whole present all =>
      refine ⟨⟨digitsValue text, 0⟩, ?_, by simp⟩
      simp [Numeral.ofChars?, List.takeWhile_eq_self_iff.mpr all, List.dropWhile_eq_nil_iff.mpr all,
        present]
  | @decimal whole fraction present also all =>
      refine ⟨⟨digitsValue (whole ++ fraction), fraction.length⟩, ?_, rfl⟩
      have before : ∀ c ∈ whole, Text.isDigit c := fun c member =>
        all c (List.mem_append_left _ member)
      have after : fraction.all Text.isDigit := List.all_eq_true.mpr fun c member =>
        all c (List.mem_append_right _ member)
      have point : ¬Text.isDigit '.' := by decide
      simp [Numeral.ofChars?, List.takeWhile_append_of_pos before, point,
        List.dropWhile_append_of_pos before, after, present, also]

end Denotes

theorem denotes_toString (value : Nat) : Denotes (toString value).toList value := by
  have denotes := Denotes.whole (@Nat.toDigits_ne_nil value 10) fun _ => Text.isDigit_of_mem_toDigits
  have same := digitsValue_padded 0 value
  rw [List.replicate_zero, List.nil_append] at same
  rwa [same, ← String.toList_ofList (l := Nat.toDigits 10 value),
    ← Nat.toString_eq_ofList_toDigits] at denotes

/-- A point before the last digits makes them a fraction. -/
theorem Denotes.split {digits : List Char} {places : Nat} (some : 0 < places)
    (more : places < digits.length) (all : ∀ c ∈ digits, Text.isDigit c)
    : Denotes (digits.take (digits.length - places) ++ '.' :: digits.drop (digits.length - places))
      (digitsValue digits / 10 ^ places) := by
  have length : (digits.drop (digits.length - places)).length = places := by
    rw [List.length_drop]
    omega
  have present : digits.take (digits.length - places) ≠ [] := by
    rw [← List.length_pos_iff_ne_nil, List.length_take]
    omega
  have also : digits.drop (digits.length - places) ≠ [] :=
    List.length_pos_iff_ne_nil.mp (some.trans_eq length.symm)
  have denotes := Denotes.decimal present also
  rw [List.take_append_drop, length] at denotes
  exact denotes all

/-- The positional notation denotes the value of the decimal. -/
theorem Decimal.denotes_positional (decimal : Decimal)
    : Denotes decimal.positional.toList decimal.value := by
  obtain ⟨digits, exponent⟩ := decimal
  rw [positional, value, ten_zpow_eq]
  rcases lt_or_ge exponent 0 with below | above
  · obtain ⟨none, some⟩ : exponent.toNat = 0 ∧ 0 < (-exponent).toNat := by omega
    rw [if_neg below.not_ge, none, pow_zero, mul_one_div]
    generalize (-exponent).toNat = places at some ⊢
    simp only
    generalize padding : List.replicate (places + 1 - (Nat.toDigits 10 digits).length) '0'
      ++ Nat.toDigits 10 digits = padded
    have valued : digitsValue padded = digits := padding ▸ digitsValue_padded _ digits
    have long : places < padded.length := by
      rw [← padding, List.length_append, List.length_replicate]
      omega
    have all : ∀ c ∈ padded, Text.isDigit c := by
      rw [← padding]
      intro c member
      rcases List.mem_append.mp member with zero | digit
      · rw [List.eq_of_mem_replicate zero]
        decide
      · exact Text.isDigit_of_mem_toDigits digit
    have denotes := Denotes.split some long all
    rw [valued] at denotes
    simpa using denotes
  · have none : (-exponent).toNat = 0 := by omega
    rw [if_pos above, none, pow_zero, div_one]
    have denotes := denotes_toString (digits * Nat.pow 10 exponent.toNat)
    rwa [Nat.cast_mul, Nat.pow_eq, Nat.cast_pow, Nat.cast_ofNat] at denotes

-----------------------------------------------------------------------------------------
-- Reading
-----------------------------------------------------------------------------------------

/-- Blanks before a text that does not begin with one are dropped. -/
theorem dropWhile_isBlank {blanks text : List Char} (blank : ∀ c ∈ blanks, Text.isBlank c)
    (none : ∀ c ∈ text.head?, ¬Text.isBlank c)
    : (blanks ++ text).dropWhile Text.isBlank = text := by
  rw [List.dropWhile_append_of_pos blank]
  cases text with
  | nil => rfl
  | cons first rest => rw [List.dropWhile_cons_of_neg (none first rfl)]

/-- Blanks on both sides of a text without any are dropped. -/
theorem strip_isBlank {left text right : List Char} (before : ∀ c ∈ left, Text.isBlank c)
    (present : text ≠ []) (none : ∀ c ∈ text, ¬Text.isBlank c)
    (after : ∀ c ∈ right, Text.isBlank c)
    : (((left ++ text ++ right).dropWhile Text.isBlank).reverse.dropWhile Text.isBlank).reverse
      = text := by
  have outside (rest : List Char) : ∀ c ∈ (text ++ rest).head?, ¬Text.isBlank c := by
    rw [List.head?_append_of_ne_nil _ present]
    exact fun c member => none c (List.mem_of_head? member)
  rw [List.append_assoc, dropWhile_isBlank before (outside right), List.reverse_append,
    dropWhile_isBlank, List.reverse_reverse]
  · exact fun c member => after c (List.mem_reverse.mp member)
  · rw [List.head?_reverse]
    exact fun c member => none c (List.mem_of_getLast? member)

theorem strip_self {text : List Char} (present : text ≠ []) (none : ∀ c ∈ text, ¬Text.isBlank c)
    : ((text.dropWhile Text.isBlank).reverse.dropWhile Text.isBlank).reverse = text := by
  have bare := @strip_isBlank [] text [] nofun present none nofun
  rwa [List.nil_append, List.append_nil] at bare

/-- Blanks around a text without any do not change the number that is read. -/
theorem Number.ofText_padded {left text right : String} (before : ∀ c ∈ left.toList, Text.isBlank c)
    (present : text.toList ≠ []) (none : ∀ c ∈ text.toList, ¬Text.isBlank c)
    (after : ∀ c ∈ right.toList, Text.isBlank c)
    : ofText (left ++ text ++ right) = ofText text := by
  rw [ofText, ofText, String.toList_append, String.toList_append,
    strip_isBlank before present none after, strip_self present none]

namespace Denotes

variable {text : String} {value : ℚ}

theorem signed_ne_nil (denotes : Denotes text.toList value) (negative : Bool)
    : ((if negative then "-" else "") ++ text).toList ≠ [] := by
  obtain ⟨first, rest, shape, -⟩ := denotes.exists_cons
  simp [shape]

theorem signed_not_isBlank (denotes : Denotes text.toList value) (negative : Bool)
    : ∀ c ∈ ((if negative then "-" else "") ++ text).toList, ¬Text.isBlank c := by
  rw [String.toList_append]
  refine List.forall_mem_append.mpr ⟨?_, denotes.not_isBlank⟩
  cases negative <;> simp [Text.isBlank]

/-- A sign and what denotes a value are read as the number that the value is rounded to. -/
theorem ofText_eq_iff (denotes : Denotes text.toList value) (negative : Bool)
    (magnitude : Magnitude)
    : Number.ofText ((if negative then "-" else "") ++ text) = .finite negative magnitude
      ↔ RoundsTo magnitude.units (value * unitsPerOne) := by
  obtain ⟨numeral, read, same⟩ := denotes.exists_numeral
  obtain ⟨first, rest, shape, digit⟩ := denotes.exists_cons
  have reads : Number.ofText ((if negative then "-" else "") ++ text)
      = numeral.toNumber negative := by
    rw [Number.ofText, strip_self (denotes.signed_ne_nil negative)
      (denotes.signed_not_isBlank negative)]
    cases negative with
    | true => simp [read]
    | false =>
        have unsigned : first ≠ '-' := by
          rintro rfl
          exact absurd digit (by decide)
        rw [shape] at read
        simp [shape, unsigned, read]
  have ratio : value * unitsPerOne
      = (numeral.digits * unitsPerOne : Nat) / (Nat.pow 10 numeral.scale : Nat) := by
    rw [← same, Nat.cast_mul, Nat.pow_eq, Nat.cast_pow, Nat.cast_ofNat]
    ring
  have positive : 0 < Nat.pow 10 numeral.scale := Nat.pow_pos (by decide)
  rw [reads, Numeral.toNumber, Number.ofRatio_eq_iff, ratio,
    nearestUnits_eq_iff_roundsTo positive magnitude.representable]

end Denotes

-----------------------------------------------------------------------------------------
-- Texts of numbers
-----------------------------------------------------------------------------------------

/-- The value that the text of a magnitude denotes: that of an integer itself, and otherwise that
of its shortest decimal.
-/
def Magnitude.writtenValue (magnitude : Magnitude) : ℚ :=
  if magnitude.units % unitsPerOne = 0 then magnitude.units / unitsPerOne
  else (shortestDecimal magnitude.units).value

theorem Magnitude.roundsTo_writtenValue (magnitude : Magnitude)
    : RoundsTo magnitude.units (magnitude.writtenValue * unitsPerOne) := by
  rw [writtenValue]
  split
  case isTrue =>
      rw [div_mul_cancel₀ _ (Nat.cast_ne_zero.mpr unitsPerOne_pos.ne')]
      exact .self _
  case isFalse fraction =>
      have positive : 0 < magnitude.units :=
        Nat.pos_of_ne_zero fun zero => fraction (by rw [zero, Nat.zero_mod])
      exact Decimal.toNumber_eq_iff.mp (isShortest_shortestDecimal positive).reads

/-- The text of a finite number is a sign, which zero has none of, and denotes its value. -/
theorem Number.exists_denotes (negative : Bool) (magnitude : Magnitude)
    : ∃ text : String, Denotes text.toList magnitude.writtenValue
      ∧ (finite negative magnitude).toText
        = (if negative && 0 < magnitude.units then "-" else "") ++ text := by
  rw [toText, Magnitude.writtenValue]
  by_cases zero : magnitude.units = 0
  · rw [if_pos zero, zero, Nat.zero_mod, if_pos rfl, Nat.cast_zero, zero_div]
    refine ⟨toString 0, ?_, by rw [Bool.and_comm]; rfl⟩
    exact_mod_cast denotes_toString 0
  · rw [if_neg zero, decide_eq_true (Nat.pos_of_ne_zero zero), Bool.and_true]
    split
    case isTrue whole =>
        refine ⟨_, ?_, rfl⟩
        have denotes := denotes_toString (magnitude.units / unitsPerOne)
        rwa [Nat.cast_div (Nat.dvd_of_mod_eq_zero whole)
          (Nat.cast_ne_zero.mpr unitsPerOne_pos.ne')] at denotes
    case isFalse => exact ⟨_, Decimal.denotes_positional _, rfl⟩

/-- Signed counts are equal if the numbers are, and the sign of zero does not count. -/
theorem Number.equals_of_units_eq {left right : Bool} {a b : Magnitude} (units : a.units = b.units)
    (signs : 0 < b.units → left = right)
    : (finite left a).equals (finite right b) := by
  rw [equals, beq_iff_eq, signedUnits, signedUnits, units]
  rcases Nat.eq_zero_or_pos b.units with zero | some
  · simp [zero]
  · rw [signs some]

/-- The text of a number that is not finite is read as no number. -/
theorem Number.ofText_toText_of_not_finite {x : Number} (special : x.isFinite = false)
    {left right : String} (before : ∀ c ∈ left.toList, Text.isBlank c)
    (after : ∀ c ∈ right.toList, Text.isBlank c)
    : ofText (left ++ x.toText ++ right) = .nan := by
  have text : ofText x.toText = .nan ∧ x.toText.toList ≠ []
      ∧ ∀ c ∈ x.toText.toList, ¬Text.isBlank c := by
    rcases x with _ | (_ | _) | _
    case finite => cases special
    all_goals exact ⟨by decide, by decide, by simp [toText, Text.isBlank]⟩
  rw [ofText_padded before text.2.1 text.2.2 after, text.1]

/-- The text of a finite number is made of digits after a sign, with a point before those of a
fraction, and denotes the value of an integer or else the shortest decimal of the number. It is
read back as the number, also between blanks; the texts of the other numbers are read as no number.
-/
theorem Number.ofText_toText (x : Number) {left right : String}
    (before : ∀ c ∈ left.toList, Text.isBlank c) (after : ∀ c ∈ right.toList, Text.isBlank c)
    : match x with
      | .finite negative magnitude =>
          (∃ text : String, Denotes text.toList magnitude.writtenValue
            ∧ x.toText = (if negative && 0 < magnitude.units then "-" else "") ++ text)
          ∧ (0 < magnitude.units → (shortestDecimal magnitude.units).IsShortest magnitude)
          ∧ (ofText (left ++ x.toText ++ right)).equals x
      | _ => ofText (left ++ x.toText ++ right) = .nan := by
  cases x with
  | finite negative magnitude =>
      obtain ⟨text, denotes, same⟩ := exists_denotes negative magnitude
      refine ⟨⟨text, denotes, same⟩, isShortest_shortestDecimal, ?_⟩
      rw [same, ofText_padded before (denotes.signed_ne_nil _) (denotes.signed_not_isBlank _) after,
        (denotes.ofText_eq_iff _ magnitude).mpr magnitude.roundsTo_writtenValue]
      exact equals_of_units_eq rfl fun some => by simp [some]
  | nan => exact ofText_toText_of_not_finite rfl before after
  | infinite => exact ofText_toText_of_not_finite rfl before after

/-- The negative number next to zero is read back between a space and a line feed. -/
theorem Number.ofText_toText_least
    : (∀ c ∈ " ".toList, Text.isBlank c) ∧ (∀ c ∈ "\n".toList, Text.isBlank c)
      ∧ ∃ magnitude : Magnitude, magnitude.units = 1
        ∧ (ofText (" " ++ (finite true magnitude).toText ++ "\n")).equals
          (finite true magnitude) := by
  have space : ∀ c ∈ " ".toList, Text.isBlank c := by simp [Text.isBlank]
  have lineFeed : ∀ c ∈ "\n".toList, Text.isBlank c := by simp [Text.isBlank]
  have representable : Representable 1 := ⟨1, 0, by decide, rfl, by decide +kernel⟩
  exact ⟨space, lineFeed, ⟨1, representable⟩, rfl,
    (ofText_toText (finite true ⟨1, representable⟩) space lineFeed).2.2⟩

end PathQuery
