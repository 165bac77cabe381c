import PathQuery.Proofs.Grammar.Derivation
import PathQuery.Proofs.Outcome

/-! The readers of operators as one family over the layers of the grammar. Each level reads the
operators that the grammar has on it, and no token is an operator of two levels.
-/

namespace PathQuery

namespace Level

/-- The operators that the reader of a level takes. -/
def read? : Level → Token → Option (Expr → Expr → Expr)
  | .or => Grammar.orOperator?
  | .and => Grammar.andOperator?
  | .equality => Grammar.equalityOperator?
  | .order => Grammar.orderOperator?
  | .sum => Grammar.sumOperator?
  | .product => Grammar.productOperator?
  | .union => Grammar.unionOperator?

/-- The operators that are read on a level are those of the grammar. -/
theorem read?_eq (level : Level) (token : Token) : level.read? token = level.operation? token := by
  cases level with
  | or | and | equality | order | sum =>
      simp only [read?, operation?, Grammar.orOperator?, Grammar.andOperator?,
        Grammar.equalityOperator?, Grammar.orderOperator?, Grammar.sumOperator?,
        Grammar.operatorIn]
      grind
  | product =>
      simp only [read?, operation?, Grammar.productOperator?, Grammar.operatorIn]
      grind
  | union => rfl

/-- The only level that a token can be an operator of. -/
def of (token : Token) : Level :=
  match token.kind with
  | .name => if token.text = "or" then .or else if token.text = "and" then .and else .product
  | .operator =>
      if token.text = "=" ∨ token.text = "!=" then .equality
      else if token.text = "+" ∨ token.text = "-" then .sum
      else .order
  | .bar => .union
  | _ => .product

/-- An operator of a level is no operator of another one. -/
theorem eq_of_operation? {level : Level} {token : Token} {combine : Expr → Expr → Expr}
    (operator : level.operation? token = some combine)
    : level = of token := by
  cases level <;> simp only [operation?] at operator <;> grind [of]

theorem kind_of_operation? {level : Level} {token : Token} {combine : Expr → Expr → Expr}
    (operator : level.operation? token = some combine)
    : token.kind = .name ∨ token.kind = .operator ∨ token.kind = .asterisk ∨ token.kind = .bar := by
  cases level <;> simp only [operation?] at operator <;> grind

end Level

def Layer.height : Layer → Nat
  | .path => 0
  | .binary .union => 1
  | .negation => 2
  | .binary level => 8 - level.rank

theorem Level.height_operand (level : Level)
    : level.operand.height < (Layer.binary level).height := by
  cases level <;> decide

namespace Grammar

def layer {bound : Nat} (grammar : Grammar) (inner : InnerReader bound)
    : Layer → Reader Expr bound
  | .path => grammar.pathExpression inner
  | .negation => negation (grammar.layer inner (.binary .union))
  | .binary level => Grammar.level level.read? (grammar.layer inner level.operand)
termination_by layer => layer.height
decreasing_by
  · decide
  · exact level.height_operand

/-- Expressions are read as the loosest layer. -/
theorem operators_eq {bound : Nat} (grammar : Grammar) (inner : InnerReader bound)
    : grammar.operators inner = grammar.layer inner (.binary .or) := by
  simp only [layer, Level.read?, Level.operand, operators]

end Grammar

end PathQuery
