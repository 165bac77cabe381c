import PathQuery.Proofs.Grammar.Continuation
import PathQuery.Proofs.Number.Notation
import PathQuery.Proofs.Token.Joining

/-! What is read has the structure of itself. That could fail for numbers alone, as what is no
number equals nothing, but a numeral among the tokens of a text always denotes a number.
-/

namespace PathQuery

-----------------------------------------------------------------------------------------
-- Numerals
-----------------------------------------------------------------------------------------

/-- The lexemes of numbers are numerals. -/
theorem Token.exists_numeral {text : List Char} (spelled : TokenKind.Spells .number text)
    : ∃ numeral, Numeral.ofChars? text = some numeral := by
  cases spelled with
  | @whole text present all =>
      refine ⟨⟨digitsValue text, 0⟩, ?_⟩
      simp only [Numeral.ofChars?, List.takeWhile_eq_self_iff.mpr all,
        List.dropWhile_eq_nil_iff.mpr all]
      rw [if_neg (by simpa using present)]
  | @decimal whole fraction present all also =>
      have point : ¬ Text.isDigit '.' := by decide
      have digits : (whole ++ '.' :: fraction).takeWhile Text.isDigit = whole := by
        rw [List.takeWhile_append_of_pos all, List.takeWhile_cons_of_neg point, List.append_nil]
      have after : (whole ++ '.' :: fraction).dropWhile Text.isDigit = '.' :: fraction := by
        rw [List.dropWhile_append_of_pos all, List.dropWhile_cons_of_neg point]
      refine ⟨⟨digitsValue (whole ++ fraction), fraction.length⟩, ?_⟩
      simp only [Numeral.ofChars?, digits, after]
      refine if_pos ⟨trivial, List.all_eq_true.mpr also, ?_⟩
      rintro ⟨none, other⟩
      exact present.elim (· (List.isEmpty_iff.mp none)) (· (List.isEmpty_iff.mp other))
  | mark listed => simp [TokenKind.marks] at listed

theorem Token.head?_ne_minus {text : List Char} (spelled : TokenKind.Spells .number text)
    : text.head? ≠ some '-' := by
  have noDigit : ¬ Text.isDigit '-' := by decide
  intro minus
  cases spelled with
  | whole present all => exact noDigit (all _ (List.mem_of_head? minus))
  | @decimal whole fraction present all also =>
      cases whole with
      | nil => cases minus
      | cons first whole =>
          cases minus
          exact noDigit (all _ List.mem_cons_self)
  | mark listed => simp [TokenKind.marks] at listed

/-- A numeral is read as the number nearest to its value. -/
theorem Number.ofText_eq_toNumber {text : String} {numeral : Numeral}
    (spelled : TokenKind.Spells .number text.toList)
    (read : Numeral.ofChars? text.toList = some numeral)
    : Number.ofText text = numeral.toNumber false := by
  have unsigned := Token.head?_ne_minus spelled
  obtain ⟨first, rest, shape, -⟩ := Token.exists_start spelled
  have stripped := strip_self (shape ▸ List.cons_ne_nil _ _)
    (Token.unblank_of_spells spelled (by decide))
  rw [Number.ofText, stripped]
  split
  case h_1 signed =>
      split at signed
      case h_1 minus =>
          rw [minus] at unsigned
          exact absurd rfl unsigned
      case h_2 =>
          cases signed
          rw [read]

theorem Number.equals_self {x : Number} (some : x ≠ .nan) : x.equals x := by
  cases x with
  | nan => exact absurd rfl some
  | infinite | finite => simp [equals]

theorem Number.toNumber_ne_nan (numeral : Numeral) (negative : Bool)
    : numeral.toNumber negative ≠ .nan := by
  rw [Numeral.toNumber, ofRatio]
  split <;> exact Number.noConfusion

/-- The numbers among some tokens are numerals. -/
def Token.HaveNumerals (tokens : List Token) : Prop :=
  ∀ token ∈ tokens, token.kind = .number → TokenKind.Spells .number token.text.toList

theorem Token.HaveNumerals.suffix {tokens rest : List Token} (numerals : HaveNumerals tokens)
    (suffix : rest <:+ tokens)
    : HaveNumerals rest :=
  fun token member => numerals token (suffix.subset member)

theorem Token.HaveNumerals.tail {token : Token} {rest : List Token}
    (numerals : HaveNumerals (token :: rest))
    : HaveNumerals rest :=
  numerals.suffix (List.suffix_cons _ _)

theorem Token.haveNumerals_of_ofText {source : String} {tokens : List Token}
    (split : Token.ofText source = .ok tokens)
    : HaveNumerals tokens := by
  intro token member isNumber
  have longest : Longest (source.toList.drop token.position) token.kind token.text.toList :=
    (reads_of_ofText split).longest (by simp) token member
  exact isNumber ▸ longest.spells

-----------------------------------------------------------------------------------------
-- Trees
-----------------------------------------------------------------------------------------

namespace Grammar

variable {grammar : Grammar} {part : Part} {tokens rest : List Token}

/-- What is derived as a part has the structure of itself. -/
def SelfSame : (part : Part) → part.Value → Prop
  | .expression _, tree => tree.same tree
  | .operations _, extend => ∀ left : Expr, left.same left → (extend left).same (extend left)
  | .location, tree => tree.same tree
  | .relative, steps => Step.sameAll steps steps
  | .further, steps => Step.sameAll steps steps
  | .step, step => step.same step
  | .test, _ => True
  | .predicates, list => Expr.sameAll list list
  | .primary, tree => tree.same tree
  | .arguments _, list => Expr.sameAll list list
  | .furtherArguments _, list => Expr.sameAll list list

theorem sameAll_between {separator : Token} {between steps : List Step}
    (separates : separatorSteps? separator = some between) (same : Step.sameAll steps steps)
    : Step.sameAll (between ++ steps) (between ++ steps) := by
  rw [separatorSteps?] at separates
  split at separates
  · cases separates
    exact same
  · split at separates
    · cases separates
      simpa [Step.sameAll, Step.anywhereBelow, Step.same, Expr.sameAll] using same
    · cases separates

theorem same_filter {primary : Expr} {predicates : List Expr} (same : primary.same primary)
    (others : Expr.sameAll predicates predicates)
    : (Derivation.filter primary predicates).same (Derivation.filter primary predicates) := by
  rw [Derivation.filter]
  split
  · exact same
  · simp [Expr.same, same, others]

theorem same_operation {level : Level} {token : Token} {combine : Expr → Expr → Expr}
    (operator : level.operation? token = some combine) {left right : Expr}
    (same : left.same left) (others : right.same right)
    : (combine left right).same (combine left right) := by
  have combined : combine = .union ∨ ∃ symbol, combine = .binary symbol := by
    cases level <;> simp only [Level.operation?] at operator <;> grind
  obtain rfl | ⟨symbol, rfl⟩ := combined <;> simp [Expr.same, same, others]

theorem Derivation.suffix (derivation : grammar.Derivation part tokens rest) : rest <:+ tokens := by
  obtain ⟨taken, rfl, -⟩ := derivation.follows (Admits.refl grammar)
  exact List.suffix_append _ _

/-- What is derived has the structure of itself, by induction on the derivation. -/
theorem Derivation.selfSame (derivation : grammar.Derivation part tokens rest)
    (numerals : Token.HaveNumerals tokens)
    : SelfSame part derivation.tree := by
  induction derivation with
  | operands first _ same others => exact others (numerals.suffix first.suffix) _ (same numerals)
  | noOperation => exact fun left same => same
  | operation combine operator right _ same others =>
      intro left before
      exact others (numerals.tail.suffix right.suffix) _
        (same_operation operator before (same numerals.tail))
  | negated _ _ same =>
      show Expr.same (.negate _) (.negate _)
      rw [Expr.same]
      exact same numerals.tail
  | plain _ same | located _ same => exact same numerals
  | filtered primary _ same others =>
      exact same_filter (same numerals) (others (numerals.suffix primary.suffix))
  | continued between primary predicates separates _ same others steps =>
      have later := numerals.suffix primary.suffix
      have filtered := same_filter (same numerals) (others later)
      have further := sameAll_between separates (steps (later.suffix predicates.suffix).tail)
      show Expr.same (.continued _ _) (.continued _ _)
      rw [Expr.same, filtered, further]
      rfl
  | fromContext _ same =>
      show Expr.same (.path _ _) (.path _ _)
      rw [Expr.same, same numerals]
      rfl
  | root =>
      show Expr.same (.path true []) (.path true [])
      rw [Expr.same, Step.sameAll]
      rfl
  | fromRoot _ _ same =>
      show Expr.same (.path _ _) (.path _ _)
      rw [Expr.same, same numerals.tail]
      rfl
  | anywhere _ _ same =>
      show Expr.same (.path _ (.anywhereBelow :: _)) (.path _ (.anywhereBelow :: _))
      rw [Expr.same]
      have separates : separatorSteps? ⟨0, "//", .doubleSlash⟩ = some [.anywhereBelow] := rfl
      exact sameAll_between separates (same numerals.tail)
  | stepwise first _ same others =>
      show Step.sameAll (_ :: _) (_ :: _)
      rw [Step.sameAll, same numerals, others (numerals.suffix first.suffix)]
      rfl
  | noStep =>
      show Step.sameAll [] []
      rw [Step.sameAll]
  | furtherStep between separates next _ same others =>
      apply sameAll_between separates
      rw [Step.sameAll, same numerals.tail, others (numerals.tail.suffix next.suffix)]
      rfl
  | self | parent =>
      show Step.same (.mk _ _ []) (.mk _ _ [])
      rw [Step.same, Expr.sameAll]
      simp
  | onAttributes _ test _ _ others =>
      show Step.same (.mk _ _ _) (.mk _ _ _)
      rw [Step.same, others (numerals.tail.suffix test.suffix)]
      simp
  | onAxis _ _ _ _ test _ _ others =>
      show Step.same (.mk _ _ _) (.mk _ _ _)
      rw [Step.same, others (numerals.tail.tail.suffix test.suffix)]
      simp
  | onChildren test _ _ others =>
      show Step.same (.mk _ _ _) (.mk _ _ _)
      rw [Step.same, others (numerals.suffix test.suffix)]
      simp
  | noPredicate =>
      show Expr.sameAll [] []
      rw [Expr.sameAll]
  | predicate _ inside _ _ same others =>
      show Expr.sameAll (_ :: _) (_ :: _)
      rw [Expr.sameAll, same numerals.tail, others (numerals.tail.suffix inside.suffix).tail]
      rfl
  | anyName | plainName | qualified | nodeType | target => trivial
  | number numeral isNumber =>
      have spelled := numerals numeral List.mem_cons_self isNumber
      obtain ⟨read, value⟩ := Token.exists_numeral spelled
      show Expr.same (.number _) (.number _)
      rw [Expr.same, Number.ofText_eq_toNumber spelled value]
      exact Number.equals_self (Number.toNumber_ne_nan read false)
  | string =>
      show Expr.same (.string _) (.string _)
      rw [Expr.same, beq_self_eq_true]
  | reference =>
      show Expr.same (.reference _) (.reference _)
      rw [Expr.same, beq_self_eq_true]
  | enclosed _ _ _ same => exact same numerals.tail
  | call name _ _ _ _ _ _ same =>
      show Expr.same (.call _ _) (.call _ _)
      rw [Expr.same, same numerals.tail.tail]
      simp
  | qualifiedCall name part _ _ _ _ _ _ _ _ same =>
      show Expr.same (.call _ _) (.call _ _)
      rw [Expr.same, same numerals.tail.tail.tail.tail]
      simp
  | noArgument | noFurtherArgument =>
      show Expr.sameAll [] []
      rw [Expr.sameAll]
  | someArguments first _ same others =>
      show Expr.sameAll (_ :: _) (_ :: _)
      rw [Expr.sameAll, same numerals, others (numerals.suffix first.suffix)]
      rfl
  | furtherArgument _ next _ same others =>
      show Expr.sameAll (_ :: _) (_ :: _)
      rw [Expr.sameAll, same numerals.tail, others (numerals.tail.suffix next.suffix)]
      rfl

theorem same_of_whole {root : Expr} (read : grammar.whole tokens = .ok root)
    (numerals : Token.HaveNumerals tokens)
    : root.same root := by
  obtain ⟨derivation, rfl⟩ := derives_whole read
  exact derivation.selfSame numerals

end Grammar

end PathQuery
