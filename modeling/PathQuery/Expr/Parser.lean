import PathQuery.Expr.Arity
import PathQuery.Expr.Basic
import PathQuery.Expr.Token
import PathQuery.Number.Decimal
import PathQuery.Tree.Axis

/-! Expressions read from tokens, from the loosest operators to the tightest. Each part of the
grammar is a reader that leaves fewer tokens than it was given; what stands in parentheses and
brackets is read by a reader for whole expressions that is handed down. Whether an asterisk or one
of the names `and`, `or`, `div` and `mod` is an operator depends on its place alone: operators are
expected after complete operands.
-/

namespace PathQuery

/-- Why tokens are no expression. -/
inductive ParseFault where
  | malformed (fault : Malformed)
  | call (fault : CallFault)
deriving DecidableEq, Repr

-----------------------------------------------------------------------------------------
-- Readers
-----------------------------------------------------------------------------------------

/-- What a reader took from tokens, and the fewer than `bound` that it left. -/
structure Taken (α : Type) (bound : Nat) where
  value : α
  rest : List Token
  fewer : rest.length < bound

/-- The outcome of reading from tokens. -/
abbrev Reading (α : Type) (bound : Nat) :=
  Except ParseFault (Taken α bound)

/-- Reads tokens of which there are fewer than `bound`. -/
abbrev InnerReader (bound : Nat) :=
  (tokens : List Token) → tokens.length < bound → Reading Expr tokens.length

/-- Reads tokens of which there are `bound` at most. -/
abbrev Reader (α : Type) (bound : Nat) :=
  (tokens : List Token) → tokens.length ≤ bound → Reading α tokens.length

/-- What all readers know: the length of the text and which functions there are. -/
structure Grammar where
  sourceLength : Nat
  arityOf : String → Option Arity

/-- Leaves no more tokens than before, counted against a larger bound. -/
def Taken.weaken {α : Type} {bound larger : Nat} (taken : Taken α bound) (h : bound ≤ larger)
    : Taken α larger :=
  ⟨taken.value, taken.rest, Nat.lt_of_lt_of_le taken.fewer h⟩

/-- Changes what was taken. -/
def Taken.map {α β : Type} {bound : Nat} (f : α → β) (taken : Taken α bound) : Taken β bound :=
  ⟨f taken.value, taken.rest, taken.fewer⟩

namespace Grammar

/-- The position of the next token, the end of the text if there is none. -/
def positionOf (grammar : Grammar) (tokens : List Token) : Nat :=
  match tokens with
  | [] => grammar.sourceLength
  | token :: _ => token.position

/-- Fails at the next token. -/
def fail {α : Type} (grammar : Grammar) (tokens : List Token) (problem : Problem)
    : Except ParseFault α :=
  .error (.malformed ⟨grammar.positionOf tokens, problem⟩)

/-- Fails because what a token opened is not closed. -/
def failUnclosed {α : Type} (grammar : Grammar) (opener : Token) : Except ParseFault α :=
  grammar.fail [] (.neverClosed opener.text opener.position)

/-- Takes the token that closes what another one opened. -/
def closing (grammar : Grammar) (opener : Token) (kind : TokenKind) (closer : String)
    (tokens : List Token) : Reading Unit tokens.length :=
  match tokens with
  | [] => grammar.failUnclosed opener
  | token :: rest =>
      if token.kind = kind then .ok ⟨(), rest, Nat.lt_succ_self _⟩
      else grammar.fail (token :: rest) (.expectedClosing closer)

-----------------------------------------------------------------------------------------
-- Operators
-----------------------------------------------------------------------------------------

/-- Reads the operators of one level and their right operands, which group to the left. -/
def operations {bound : Nat} (operator? : Token → Option (Expr → Expr → Expr))
    (operand : Reader Expr bound) (left : Expr) (tokens : List Token)
    (h : tokens.length ≤ bound) : Reading Expr (tokens.length + 1) :=
  match tokens with
  | [] => .ok ⟨left, [], Nat.lt_succ_self _⟩
  | token :: rest =>
      match operator? token with
      | none => .ok ⟨left, token :: rest, Nat.lt_succ_self _⟩
      | some combine => do
          let right ← operand rest (Nat.le_of_succ_le h)
          have fewer := right.fewer
          let whole ← operations operator? operand (combine left right.value) right.rest
            (by simp only [List.length_cons] at h; omega)
          .ok (whole.weaken (by simp only [List.length_cons] at *; omega))
termination_by tokens.length
decreasing_by simp only [List.length_cons] at *; omega

/-- Reads a level of operators that group to the left. -/
def level {bound : Nat} (operator? : Token → Option (Expr → Expr → Expr))
    (operand : Reader Expr bound) : Reader Expr bound := fun tokens h => do
  let left ← operand tokens h
  have fewer := left.fewer
  let whole ← operations operator? operand left.value left.rest (by omega)
  .ok (whole.weaken (by omega))

/-- The operator that a token of a kind is, if its text is one of the symbols of a level. -/
def operatorIn (kind : TokenKind) (symbols : List String) (token : Token)
    : Option (Expr → Expr → Expr) :=
  if token.kind = kind ∧ token.text ∈ symbols then some (.binary token.text) else none

/-- The operator of alternatives. -/
def orOperator? : Token → Option (Expr → Expr → Expr) :=
  operatorIn .name ["or"]

/-- The operator of conjunctions. -/
def andOperator? : Token → Option (Expr → Expr → Expr) :=
  operatorIn .name ["and"]

/-- The operators of equality. -/
def equalityOperator? : Token → Option (Expr → Expr → Expr) :=
  operatorIn .operator ["=", "!="]

/-- The operators of order. -/
def orderOperator? : Token → Option (Expr → Expr → Expr) :=
  operatorIn .operator ["<", "<=", ">", ">="]

/-- The operators of sums. -/
def sumOperator? : Token → Option (Expr → Expr → Expr) :=
  operatorIn .operator ["+", "-"]

/-- The operators of products: a symbol and two names. -/
def productOperator? (token : Token) : Option (Expr → Expr → Expr) :=
  if token.kind = .asterisk then some (.binary "*")
  else operatorIn .name ["div", "mod"] token

/-- The operator of unions. -/
def unionOperator? (token : Token) : Option (Expr → Expr → Expr) :=
  if token.kind = .bar then some .union else none

/-- Reads any number of minus signs before an operand. -/
def negation {bound : Nat} (operand : Reader Expr bound) (tokens : List Token)
    (h : tokens.length ≤ bound) : Reading Expr tokens.length :=
  match tokens with
  | [] => operand [] h
  | token :: rest =>
      if token.kind = .operator ∧ token.text = "-" then do
        let taken ← negation operand rest (Nat.le_of_succ_le h)
        .ok ((taken.map .negate).weaken (Nat.le_succ _))
      else operand (token :: rest) h

-----------------------------------------------------------------------------------------
-- Steps
-----------------------------------------------------------------------------------------

/-- Reads predicates, each in brackets. -/
def predicates {bound : Nat} (grammar : Grammar) (inner : InnerReader bound)
    (tokens : List Token) (h : tokens.length ≤ bound) : Reading (List Expr) (tokens.length + 1) :=
  match tokens with
  | [] => .ok ⟨[], [], Nat.lt_succ_self _⟩
  | token :: rest =>
      if token.kind ≠ .openBracket then .ok ⟨[], token :: rest, Nat.lt_succ_self _⟩
      else
        match rest with
        | [] => grammar.failUnclosed token
        | next :: more =>
            if next.kind = .closeBracket then grammar.fail (next :: more) .missingPredicate
            else do
              let predicate ← inner (next :: more) h
              have fewer := predicate.fewer
              let closed ← grammar.closing token .closeBracket "]" predicate.rest
              have fewerStill := closed.fewer
              let others ← predicates grammar inner closed.rest
                (by simp only [List.length_cons] at *; omega)
              .ok ((others.map (predicate.value :: ·)).weaken
                (by simp only [List.length_cons] at *; omega))
termination_by tokens.length
decreasing_by simp only [List.length_cons] at *; omega

/-- The names that make node tests with parentheses. -/
def isNodeTypeName (name : String) : Bool :=
  name == "comment" || name == "node" || name == "processing-instruction" || name == "text"

/-- The node test of a type name without argument. -/
def nodeTypeTest (name : String) : NodeTest :=
  if name = "processing-instruction" then .instruction none else .nodeType name

/-- A literal without its quotes. -/
def unquoted (text : String) : String :=
  String.ofList (text.toList.drop 1).dropLast

/-- Whether a colon and a local part follow a name without a gap. -/
def continuesName (name colon part : Token) : Bool :=
  colon.kind = .colon && colon.position == name.position + name.text.length
    && (part.kind = .asterisk || part.kind = .name) && part.position == colon.position + 1

/-- Reads the rest of a node type test after its opening parenthesis. -/
def nodeType (grammar : Grammar) (name opener : Token) (tokens : List Token)
    : Reading NodeTest tokens.length :=
  match tokens with
  | [] => grammar.failUnclosed opener
  | token :: rest =>
      if name.text = "processing-instruction" ∧ token.kind = .string then do
        let closed ← grammar.closing opener .closeParenthesis ")" rest
        .ok ((closed.map fun _ => .instruction (some (unquoted token.text))).weaken
          (Nat.le_succ _))
      else do
        let closed ← grammar.closing opener .closeParenthesis ")" (token :: rest)
        .ok (closed.map fun _ => nodeTypeTest name.text)

/-- Reads the rest of a node test after the name that it begins with. -/
def namedTest (grammar : Grammar) (name : Token) (tokens : List Token)
    : Reading NodeTest (tokens.length + 1) :=
  match tokens with
  | [] => .ok ⟨.name none name.text, [], Nat.lt_succ_self _⟩
  | token :: rest =>
      if token.kind = .openParenthesis ∧ isNodeTypeName name.text then do
        let taken ← grammar.nodeType name token rest
        .ok (taken.weaken (by simp only [List.length_cons] at *; omega))
      else
        match rest with
        | part :: more =>
            if continuesName name token part then
              .ok
                ⟨if part.kind = .asterisk then .anyName (some name.text)
                  else .name (some name.text) part.text,
                  more, by simp only [List.length_cons] at *; omega⟩
            else .ok ⟨.name none name.text, token :: part :: more, Nat.lt_succ_self _⟩
        | [] => .ok ⟨.name none name.text, [token], Nat.lt_succ_self _⟩

/-- Reads a node test. -/
def nodeTest (grammar : Grammar) (tokens : List Token) : Reading NodeTest tokens.length :=
  match tokens with
  | [] => grammar.fail [] .missingNodeTest
  | token :: rest =>
      if token.kind = .asterisk then .ok ⟨.anyName none, rest, Nat.lt_succ_self _⟩
      else if token.kind = .name then grammar.namedTest token rest
      else grammar.fail (token :: rest) .unrecognizedNodeTest

/-- Reads a node test and predicates, which make a step on an axis. -/
def stepOn {bound : Nat} (grammar : Grammar) (inner : InnerReader bound) (axis : String)
    (tokens : List Token) (h : tokens.length ≤ bound) : Reading Step tokens.length := do
  let test ← grammar.nodeTest tokens
  have fewer := test.fewer
  let list ← grammar.predicates inner test.rest (by omega)
  .ok ((list.map (.mk axis test.value)).weaken (by omega))

/-- Reads a location step. -/
def step {bound : Nat} (grammar : Grammar) (inner : InnerReader bound) : Reader Step bound :=
  fun tokens h =>
    match tokens with
    | [] => grammar.fail [] .missingStep
    | token :: rest =>
        if token.kind = .dot then
          .ok ⟨.mk "self" (.nodeType "node") [], rest, Nat.lt_succ_self _⟩
        else if token.kind = .doubleDot then
          .ok ⟨.mk "parent" (.nodeType "node") [], rest, Nat.lt_succ_self _⟩
        else if token.kind = .at then do
          let taken ← grammar.stepOn inner "attribute" rest (Nat.le_of_succ_le h)
          .ok (taken.weaken (Nat.le_succ _))
        else
          match rest with
          | next :: more =>
              if next.kind = .doubleColon then
                if token.kind = .name ∧ (Axis.ofName? token.text).isSome then do
                  let taken ← grammar.stepOn inner token.text more
                    (by simp only [List.length_cons] at *; omega)
                  .ok (taken.weaken (by simp only [List.length_cons] at *; omega))
                else grammar.fail (token :: next :: more) (.invalidAxis token.text)
              else grammar.stepOn inner "child" (token :: next :: more) h
          | [] => grammar.stepOn inner "child" [token] h

/-- The steps that a separator between steps stands for. -/
def separatorSteps? (token : Token) : Option (List Step) :=
  if token.kind = .slash then some []
  else if token.kind = .doubleSlash then some [.anywhereBelow]
  else none

/-- Reads the steps that follow separators. -/
def furtherSteps {bound : Nat} (grammar : Grammar) (inner : InnerReader bound)
    (tokens : List Token) (h : tokens.length ≤ bound) : Reading (List Step) (tokens.length + 1) :=
  match tokens with
  | [] => .ok ⟨[], [], Nat.lt_succ_self _⟩
  | token :: rest =>
      match separatorSteps? token with
      | none => .ok ⟨[], token :: rest, Nat.lt_succ_self _⟩
      | some between => do
          let first ← grammar.step inner rest (Nat.le_of_succ_le h)
          have fewer := first.fewer
          let others ← furtherSteps grammar inner first.rest
            (by simp only [List.length_cons] at *; omega)
          .ok ((others.map (fun steps => between ++ first.value :: steps)).weaken
            (by simp only [List.length_cons] at *; omega))
termination_by tokens.length
decreasing_by simp only [List.length_cons] at *; omega

/-- Reads a step and those that follow it. -/
def steps {bound : Nat} (grammar : Grammar) (inner : InnerReader bound)
    : Reader (List Step) bound := fun tokens h => do
  let first ← grammar.step inner tokens h
  have fewer := first.fewer
  let others ← grammar.furtherSteps inner first.rest (by omega)
  .ok ((others.map (first.value :: ·)).weaken (by omega))

/-- Whether a step can begin with a token. A slash alone is a path if none can. -/
def startsStep (token : Token) : Bool :=
  token.kind = .asterisk || token.kind = .dot || token.kind = .doubleDot || token.kind = .name
    || token.kind = .at

/-- Reads a location path. -/
def locationPath {bound : Nat} (grammar : Grammar) (inner : InnerReader bound)
    : Reader Expr bound := fun tokens h =>
  match tokens with
  | [] => do
      let taken ← grammar.steps inner [] h
      .ok (taken.map (.path false))
  | token :: rest =>
      if token.kind = .slash then
        if (rest.head?.map startsStep).getD false then do
          let taken ← grammar.steps inner rest (Nat.le_of_succ_le h)
          .ok ((taken.map (.path true)).weaken (Nat.le_succ _))
        else .ok ⟨.path true [], rest, Nat.lt_succ_self _⟩
      else if token.kind = .doubleSlash then do
        let taken ← grammar.steps inner rest (Nat.le_of_succ_le h)
        .ok ((taken.map (fun list => .path true (.anywhereBelow :: list))).weaken (Nat.le_succ _))
      else do
        let taken ← grammar.steps inner (token :: rest) h
        .ok (taken.map (.path false))

-----------------------------------------------------------------------------------------
-- Primary expressions
-----------------------------------------------------------------------------------------

/-- Reads the arguments of a call after the first one. -/
def furtherArguments {bound : Nat} (inner : InnerReader bound) (tokens : List Token)
    (h : tokens.length < bound) : Reading (List Expr) (tokens.length + 1) :=
  match tokens with
  | [] => .ok ⟨[], [], Nat.lt_succ_self _⟩
  | token :: rest =>
      if token.kind ≠ .comma then .ok ⟨[], token :: rest, Nat.lt_succ_self _⟩
      else do
        let argument ← inner rest (Nat.lt_of_succ_lt h)
        have fewer := argument.fewer
        let others ← furtherArguments inner argument.rest
          (by simp only [List.length_cons] at *; omega)
        .ok ((others.map (argument.value :: ·)).weaken
            (by simp only [List.length_cons] at *; omega))
termination_by tokens.length
decreasing_by simp only [List.length_cons] at *; omega

/-- Reads the arguments of a call and the closing parenthesis, and checks the call. -/
def callArguments {bound : Nat} (grammar : Grammar) (inner : InnerReader bound) (name : String)
    (opener : Token) (tokens : List Token) (h : tokens.length < bound)
    : Reading Expr tokens.length := do
  let list ← show Reading (List Expr) (tokens.length + 1) from
    match tokens with
    | [] => grammar.failUnclosed opener
    | token :: rest =>
        if token.kind = .closeParenthesis then
          .ok ⟨[], token :: rest, Nat.lt_succ_self _⟩
        else do
          let first ← inner (token :: rest) h
          have fewer := first.fewer
          let others ← furtherArguments inner first.rest (Nat.lt_trans fewer h)
          .ok ((others.map (first.value :: ·)).weaken (by omega))
  let closed ← grammar.closing opener .closeParenthesis ")" list.rest
  match checkCall grammar.arityOf name list.value.length with
  | .error fault => .error (.call fault)
  | .ok () =>
      have fewer := list.fewer
      .ok ((closed.map fun _ => .call name list.value).weaken (by omega))

/-- The name of the function that a call begins with, the token that opens its arguments and
what follows. The name may have a qualifier; the names of node types make no calls.
-/
def callHead? : List Token → Option (String × Token × List Token)
  | name :: token :: rest =>
      if name.kind ≠ .name ∨ isNodeTypeName name.text then none
      else if token.kind = .openParenthesis then some (name.text, token, rest)
      else
        match token.kind, rest with
        | .colon, part :: opener :: more =>
            if part.kind = .name ∧ opener.kind = .openParenthesis then
              some (name.text ++ ":" ++ part.text, opener, more)
            else none
        | _, _ => none
  | _ => none

/-- A call's arguments are fewer tokens than the call. -/
theorem length_of_callHead? {tokens rest : List Token} {name : String} {opener : Token}
    (h : callHead? tokens = some (name, opener, rest)) : rest.length < tokens.length := by
  unfold callHead? at h
  split at h
  · split at h
    · cases h
    · split at h
      · cases h
        simp only [List.length_cons]
        omega
      · split at h
        · split at h
          · cases h
            simp only [List.length_cons]
            omega
          · cases h
        · cases h
  · cases h

/-- Reads a primary expression, or finds that none begins with the tokens. -/
def primary? {bound : Nat} (grammar : Grammar) (inner : InnerReader bound) (tokens : List Token)
    (h : tokens.length ≤ bound) : Option (Reading Expr tokens.length) :=
  match tokens with
  | [] => none
  | token :: rest =>
      match token.kind with
      | .number =>
          some (.ok ⟨.number (Number.ofText token.text), rest, Nat.lt_succ_self _⟩)
      | .string => some (.ok ⟨.string (unquoted token.text), rest, Nat.lt_succ_self _⟩)
      | .variable =>
          some (.ok ⟨.reference (String.ofList (token.text.toList.drop 1)), rest,
            Nat.lt_succ_self _⟩)
      | .openParenthesis =>
          some <|
            if rest.isEmpty then grammar.failUnclosed token
            else do
              let taken ← inner rest h
              have fewer := taken.fewer
              let closed ← grammar.closing token .closeParenthesis ")" taken.rest
              .ok ((closed.map fun _ => taken.value).weaken
                (by simp only [List.length_cons] at *; omega))
      | _ =>
          match head : callHead? (token :: rest) with
          | none => none
          | some (name, opener, arguments) =>
              have fewer := length_of_callHead? head
              some do
                let taken ← grammar.callArguments inner name opener arguments (by omega)
                .ok (taken.weaken (by omega))

/-- Reads a primary expression with its predicates and the path that continues from it, or else a
location path.
-/
def pathExpression {bound : Nat} (grammar : Grammar) (inner : InnerReader bound)
    : Reader Expr bound := fun tokens h =>
  if tokens.isEmpty then grammar.fail [] .missingExpression
  else
    match grammar.primary? inner tokens h with
    | none => grammar.locationPath inner tokens h
    | some reading => do
        let primary ← reading
        have fewer := primary.fewer
        let list ← grammar.predicates inner primary.rest (by omega)
        have fewerStill := list.fewer
        let filtered :=
          if list.value.isEmpty then primary.value else .filter primary.value list.value
        let continuing ← grammar.furtherSteps inner list.rest (by omega)
        .ok
          ((continuing.map fun steps =>
            if steps.isEmpty then filtered else .continued filtered steps).weaken (by omega))

-----------------------------------------------------------------------------------------
-- Whole expressions
-----------------------------------------------------------------------------------------

/-- Reads an expression with a reader for those inside of it. -/
def operators {bound : Nat} (grammar : Grammar) (inner : InnerReader bound)
    : Reader Expr bound :=
  level orOperator? <| level andOperator? <| level equalityOperator? <| level orderOperator? <|
    level sumOperator? <| level productOperator? <| negation <| level unionOperator? <|
      grammar.pathExpression inner

/-- Reads an expression. -/
def expression (grammar : Grammar) (tokens : List Token) : Reading Expr tokens.length :=
  grammar.operators (fun inside _ => expression grammar inside) tokens (Nat.le_refl _)
termination_by tokens.length

/-- Reads all tokens as one expression. -/
def whole (grammar : Grammar) (tokens : List Token) : Except ParseFault Expr :=
  if tokens.isEmpty then grammar.fail [] .missingExpression
  else do
    let taken ← grammar.expression tokens
    if taken.rest.isEmpty then .ok taken.value
    else grammar.fail taken.rest .unexpectedToken

end Grammar

/-- Reads a text as an expression that calls functions of the given arities. -/
def Expression.ofText (arityOf : String → Option Arity) (source : String)
    : Except ParseFault Expression :=
  match Token.ofText source with
  | .error fault => .error (.malformed fault)
  | .ok tokens =>
      (Grammar.whole ⟨source.length, arityOf⟩ tokens).map (fun root => ⟨root, source⟩)

end PathQuery
