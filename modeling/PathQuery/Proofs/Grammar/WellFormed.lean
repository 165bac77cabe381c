import Mathlib.Tactic.SplitIfs
import PathQuery.Proofs.Grammar.Soundness
import PathQuery.Value.Comparison

/-! What the grammar lets into expressions: operators, axes and types of nodes that an
evaluation knows, calls with accepted numbers of arguments, and relative paths with at least
one step.
-/

namespace PathQuery

-----------------------------------------------------------------------------------------
-- Well-formed expressions
-----------------------------------------------------------------------------------------

/-- A symbol that an evaluation has an operator for. -/
def IsOperator (symbol : String) : Prop :=
  symbol = "or" ∨ symbol = "and" ∨ (Comparison.ofSymbol? symbol).isSome
    ∨ (Operation.ofSymbol? symbol).isSome

/-- A type of nodes that a test names is one that an evaluation can tell. -/
def NodeTest.WellFormed : NodeTest → Prop
  | .nodeType typeName => typeName = "node" ∨ typeName = "text" ∨ typeName = "comment"
  | _ => True

mutual

/-- An expression that names only what is there to be named, where functions have the given
arities, and in which no relative path is without steps.
-/
def Expr.WellFormed (arityOf : String → Option Arity) : Expr → Prop
  | .binary operator left right =>
      IsOperator operator ∧ left.WellFormed arityOf ∧ right.WellFormed arityOf
  | .negate operand => operand.WellFormed arityOf
  | .union left right => left.WellFormed arityOf ∧ right.WellFormed arityOf
  | .number _ | .string _ | .reference _ => True
  | .call name list =>
      checkCall arityOf name list.length = .ok () ∧ Expr.AllWellFormed arityOf list
  | .filter primary predicates =>
      primary.WellFormed arityOf ∧ Expr.AllWellFormed arityOf predicates
  | .path absolute steps => (absolute ∨ steps ≠ []) ∧ Step.AllWellFormed arityOf steps
  | .continued first steps => first.WellFormed arityOf ∧ Step.AllWellFormed arityOf steps

def Expr.AllWellFormed (arityOf : String → Option Arity) : List Expr → Prop
  | [] => True
  | first :: rest => first.WellFormed arityOf ∧ Expr.AllWellFormed arityOf rest

/-- A step on an axis that is there, with a test and predicates that are well-formed. -/
def Step.WellFormed (arityOf : String → Option Arity) : Step → Prop
  | .mk axis test predicates =>
      (Axis.ofName? axis).isSome ∧ test.WellFormed ∧ Expr.AllWellFormed arityOf predicates

def Step.AllWellFormed (arityOf : String → Option Arity) : List Step → Prop
  | [] => True
  | first :: rest => first.WellFormed arityOf ∧ Step.AllWellFormed arityOf rest

end

theorem Step.allWellFormed_append {arityOf : String → Option Arity} {steps more : List Step}
    (formed : Step.AllWellFormed arityOf steps) (further : Step.AllWellFormed arityOf more)
    : Step.AllWellFormed arityOf (steps ++ more) := by
  induction steps with
  | nil => exact further
  | cons step steps ih => exact ⟨formed.1, ih formed.2⟩

/-- What a separator stands for is well-formed. -/
theorem Step.allWellFormed_between {arityOf : String → Option Arity} {separator : Token}
    {between : List Step} (separates : Grammar.separatorSteps? separator = some between)
    : Step.AllWellFormed arityOf between := by
  rw [Grammar.separatorSteps?] at separates
  split at separates
  · cases separates
    trivial
  · split at separates
    · cases separates
      exact ⟨⟨by decide, .inl rfl, trivial⟩, trivial⟩
    · cases separates

-----------------------------------------------------------------------------------------
-- Derivations
-----------------------------------------------------------------------------------------

def Part.WellFormed (arityOf : String → Option Arity) : (part : Part) → part.Value → Prop
  | .expression _, tree => tree.WellFormed arityOf
  | .operations _, extend =>
      ∀ left : Expr, left.WellFormed arityOf → (extend left).WellFormed arityOf
  | .location, tree => tree.WellFormed arityOf
  | .relative, steps => steps ≠ [] ∧ Step.AllWellFormed arityOf steps
  | .further, steps => Step.AllWellFormed arityOf steps
  | .step, it => it.WellFormed arityOf
  | .test, it => it.WellFormed
  | .predicates, list => Expr.AllWellFormed arityOf list
  | .primary, tree => tree.WellFormed arityOf
  | .arguments count, list => list.length = count ∧ Expr.AllWellFormed arityOf list
  | .furtherArguments count, list => list.length = count ∧ Expr.AllWellFormed arityOf list

/-- An operation makes a well-formed expression of well-formed operands. -/
theorem Level.wellFormed_operation {arityOf : String → Option Arity} {level : Level} {token : Token}
    {combine : Expr → Expr → Expr} (operator : level.operation? token = some combine)
    {left right : Expr} (formed : left.WellFormed arityOf) (others : right.WellFormed arityOf)
    : (combine left right).WellFormed arityOf := by
  have binary {symbol : String} (known : IsOperator symbol)
      : (Expr.binary symbol left right).WellFormed arityOf := ⟨known, formed, others⟩
  have compares {symbol : String} (known : (Comparison.ofSymbol? symbol).isSome)
      : (Expr.binary symbol left right).WellFormed arityOf := binary (.inr (.inr (.inl known)))
  have computes {symbol : String} (known : (Operation.ofSymbol? symbol).isSome)
      : (Expr.binary symbol left right).WellFormed arityOf := binary (.inr (.inr (.inr known)))
  cases level with
  | or =>
      obtain ⟨-, ⟨⟩⟩ := Option.ite_none_right_eq_some.mp operator
      exact binary (.inl rfl)
  | and =>
      obtain ⟨-, ⟨⟩⟩ := Option.ite_none_right_eq_some.mp operator
      exact binary (.inr (.inl rfl))
  | equality | order =>
      simp only [operation?] at operator
      split_ifs at operator <;> (cases operator; exact compares (by decide))
  | sum | product =>
      simp only [operation?] at operator
      split_ifs at operator <;> (cases operator; exact computes (by decide))
  | union =>
      obtain ⟨-, ⟨⟩⟩ := Option.ite_none_right_eq_some.mp operator
      exact ⟨formed, others⟩

theorem wellFormed_nodeTypeTest {name : String} (known : Grammar.isNodeTypeName name)
    : (Grammar.nodeTypeTest name).WellFormed := by
  rw [Grammar.nodeTypeTest]
  split
  · trivial
  · simp only [Grammar.isNodeTypeName, Bool.or_eq_true, beq_iff_eq] at known
    simp only [NodeTest.WellFormed]
    grind

namespace Grammar

variable {grammar : Grammar} {part : Part} {tokens rest : List Token}

theorem Derivation.wellFormed_filter {primary : Expr} {predicates : List Expr}
    (formed : primary.WellFormed grammar.arityOf)
    (others : Expr.AllWellFormed grammar.arityOf predicates)
    : (filter primary predicates).WellFormed grammar.arityOf := by
  rw [filter]
  split
  · exact formed
  · exact ⟨formed, others⟩

/-- What is derived is well-formed. -/
theorem Derivation.wellFormed (derivation : grammar.Derivation part tokens rest)
    : part.WellFormed grammar.arityOf derivation.tree := by
  induction derivation with
  | operands first others formed more => exact more _ formed
  | noOperation => exact fun left formed => formed
  | operation combine operator right others formed more =>
      exact fun left before => more _ (Level.wellFormed_operation operator before formed)
  | negated _ _ formed => exact formed
  | plain _ formed => exact formed
  | located _ formed => exact formed
  | filtered _ _ formed others => exact wellFormed_filter formed others
  | continued between _ _ separates _ formed others steps =>
      exact ⟨wellFormed_filter formed others,
        Step.allWellFormed_append (Step.allWellFormed_between separates) steps.2⟩
  | fromContext _ formed => exact ⟨.inr formed.1, formed.2⟩
  | root => exact ⟨.inl rfl, trivial⟩
  | fromRoot _ _ formed => exact ⟨.inl rfl, formed.2⟩
  | anywhere _ _ formed =>
      exact ⟨.inl rfl, ⟨by decide, .inl rfl, trivial⟩, formed.2⟩
  | stepwise _ _ formed others => exact ⟨List.cons_ne_nil _ _, formed, others⟩
  | noStep => trivial
  | furtherStep between separates _ _ formed others =>
      exact Step.allWellFormed_append (Step.allWellFormed_between separates) ⟨formed, others⟩
  | self | parent => exact ⟨by decide, .inl rfl, trivial⟩
  | onAttributes _ _ _ formed others => exact ⟨by decide, formed, others⟩
  | onAxis _ _ known _ _ _ formed others => exact ⟨known, formed, others⟩
  | onChildren _ _ formed others => exact ⟨by decide, formed, others⟩
  | noPredicate => trivial
  | predicate _ _ _ _ formed others => exact ⟨formed, others⟩
  | anyName | plainName | target => trivial
  | qualified =>
      show NodeTest.WellFormed (if _ then _ else _)
      split <;> trivial
  | nodeType name isName known => exact wellFormed_nodeTypeTest known
  | number | string | reference => trivial
  | enclosed _ _ _ formed => exact formed
  | call name _ _ _ _ _ accepted formed | qualifiedCall name part _ _ _ _ _ _ _ accepted formed =>
      exact ⟨formed.1.symm ▸ accepted, formed.2⟩
  | noArgument | noFurtherArgument => exact ⟨rfl, trivial⟩
  | someArguments _ _ formed others | furtherArgument _ _ _ formed others =>
      exact ⟨congrArg Nat.succ others.1, formed, others.2⟩

end Grammar

/-- A text that has tokens is read as these are. -/
theorem Expression.ofText_eq_map {source : String} {tokens : List Token}
    (split : Token.ofText source = .ok tokens) (arityOf : String → Option Arity)
    : Expression.ofText arityOf source
      = (Grammar.whole ⟨source.length, arityOf⟩ tokens).map (fun root => ⟨root, source⟩) := by
  rw [ofText, split]

/-- An expression is read from the tokens of a text. -/
theorem Expression.ofText_eq_ok_iff (arityOf : String → Option Arity) (source : String)
    (expression : Expression)
    : Expression.ofText arityOf source = .ok expression
      ↔ ∃ tokens, Token.ofText source = .ok tokens
        ∧ Grammar.whole ⟨source.length, arityOf⟩ tokens = .ok expression.root
        ∧ expression.source = source := by
  rw [ofText]
  cases Token.ofText source with
  | error fault => simp
  | ok tokens =>
      obtain ⟨root, text⟩ := expression
      cases whole : Grammar.whole ⟨source.length, arityOf⟩ tokens with
      | error fault => simp [whole, Except.map]
      | ok other => simp [whole, Except.map, eq_comm]

/-- An expression that is read from a text is well-formed. -/
theorem Expression.wellFormed_of_ofText {arityOf : String → Option Arity} {source : String}
    {expression : Expression} (read : Expression.ofText arityOf source = .ok expression)
    : expression.root.WellFormed arityOf := by
  obtain ⟨tokens, -, whole, -⟩ := (ofText_eq_ok_iff arityOf source expression).mp read
  obtain ⟨derivation, same⟩ := Grammar.derives_whole whole
  exact same ▸ derivation.wellFormed

end PathQuery
