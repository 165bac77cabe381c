import PathQuery.Proofs.Grammar.Layers

/-! Expressions read with a cursor that only moves on. It takes the next token without asking
whether there is one, asserts what earlier decisions should have settled, converts numerals and
calls itself for inner expressions, so that it could halt for other reasons than errors in an
expression. A bound on the depth of calls and the rounds of loops makes it run out where it does not
come to an end.
-/

namespace PathQuery

/-- Why reading with a cursor halts: a fault in the expression, a token that is taken past the end,
an assertion that fails, a text that is no numeral, or the end of the depth.
-/
inductive Halt where
  | fault (fault : ParseFault)
  | pastEnd
  | assertion
  | numeral (text : String)
  | depth
deriving DecidableEq, Repr

/-- A computation that moves through tokens, of which those that are left are its state. -/
abbrev Cursor (α : Type) :=
  StateT (List Token) (Except Halt) α

namespace Cursor

-----------------------------------------------------------------------------------------
-- Tokens
-----------------------------------------------------------------------------------------

/-- Takes the next token, which must be there. -/
def consume : Cursor Token := fun tokens =>
  match tokens with
  | [] => .error .pastEnd
  | token :: rest => .ok (token, rest)

/-- The token some places ahead. -/
def lookahead (offset : Nat) : Cursor (Option Token) := fun tokens =>
  .ok (tokens[offset]?, tokens)

/-- Whether the next token has a kind. -/
def follows (kind : TokenKind) : Cursor Bool := fun tokens =>
  .ok (tokens.head?.any (·.kind = kind), tokens)

/-- Whether no token is left. -/
def atEnd : Cursor Bool := fun tokens =>
  .ok (tokens.isEmpty, tokens)

/-- Fails at the next token. -/
def fail {α : Type} (grammar : Grammar) (problem : Problem) : Cursor α := fun tokens =>
  .error (.fault (.malformed ⟨grammar.positionOf tokens, problem⟩))

/-- Takes the token that closes what another one opened. -/
def expectClosing (grammar : Grammar) (opener : Token) (kind : TokenKind) (closer : String)
    : Cursor Unit := do
  if ← atEnd then fail grammar (.neverClosed opener.text opener.position)
  else if ← follows kind then
    let _ ← consume
    return ()
  else fail grammar (.expectedClosing closer)

-----------------------------------------------------------------------------------------
-- Operators
-----------------------------------------------------------------------------------------

/-- Takes operators and their right operands as long as there are some. -/
def operations (operator? : Token → Option (Expr → Expr → Expr)) (operand : Cursor Expr)
    : Nat → Expr → Cursor Expr
  | 0, _ => throw .depth
  | depth + 1, left => do
      let next ← lookahead 0
      match next.bind operator? with
      | none => return left
      | some combine =>
          let _ ← consume
          let right ← operand
          operations operator? operand depth (combine left right)

def level (depth : Nat) (operator? : Token → Option (Expr → Expr → Expr)) (operand : Cursor Expr)
    : Cursor Expr := do
  let left ← operand
  operations operator? operand depth left

/-- Takes minus signs as long as there are some. -/
def negation (operand : Cursor Expr) : Nat → Cursor Expr
  | 0 => throw .depth
  | depth + 1 => do
      let next ← lookahead 0
      if next.any (fun token => token.kind = .operator ∧ token.text = "-") then
        let _ ← consume
        let inside ← negation operand depth
        return .negate inside
      else operand

-----------------------------------------------------------------------------------------
-- Steps
-----------------------------------------------------------------------------------------

/-- Takes predicates as long as there are some. -/
def predicates (grammar : Grammar) (inner : Cursor Expr) : Nat → Cursor (List Expr)
  | 0 => throw .depth
  | depth + 1 => do
      if ← follows .openBracket then
        let opener ← consume
        if ← atEnd then fail grammar (.neverClosed opener.text opener.position)
        else if ← follows .closeBracket then fail grammar .missingPredicate
        else
          let predicate ← inner
          expectClosing grammar opener .closeBracket "]"
          let others ← predicates grammar inner depth
          return predicate :: others
      else return []

/-- Whether a name is that of a node type and opens a test. -/
def opensType (name : Token) : Cursor Bool := do
  let opens ← follows .openParenthesis
  return opens && Grammar.isNodeTypeName name.text

/-- Takes the argument of a node type test, if it has one. -/
def target (name : Token) : Cursor (Option String) := do
  if name.text = "processing-instruction" then
    if ← follows .string then
      let literal ← consume
      return some (Grammar.unquoted literal.text)
    else return none
  else return none

/-- Takes what follows the name in a node type test. -/
def nodeType (grammar : Grammar) (name : Token) : Cursor NodeTest := do
  let opener ← consume
  let argument ← target name
  expectClosing grammar opener .closeParenthesis ")"
  return if name.text = "processing-instruction" then .instruction argument
    else .nodeType name.text

/-- Whether a colon and a local part follow a name without a gap. -/
def qualifies (name : Token) : Cursor Bool := do
  let colon ← lookahead 0
  let part ← lookahead 1
  return colon.any fun colon => part.any fun part => Grammar.continuesName name colon part

/-- Takes the node test that begins with a name. -/
def namedTest (grammar : Grammar) : Cursor NodeTest := do
  let name ← consume
  if ← opensType name then nodeType grammar name
  else if ← qualifies name then
    let _ ← consume
    let part ← consume
    return if part.kind = .asterisk then .anyName (some name.text)
      else .name (some name.text) part.text
  else return .name none name.text

def nodeTest (grammar : Grammar) : Cursor NodeTest := do
  if ← atEnd then fail grammar .missingNodeTest
  else if ← follows .asterisk then
    let _ ← consume
    return .anyName none
  else if ← follows .name then namedTest grammar
  else fail grammar .unrecognizedNodeTest

def stepOn (grammar : Grammar) (inner : Cursor Expr) (depth : Nat) (axis : String)
    : Cursor Step := do
  let test ← nodeTest grammar
  let list ← predicates grammar inner depth
  return .mk axis test list

/-- Takes a step that names its axis. An unknown axis is reported at its name. -/
def stepOnAxis (grammar : Grammar) (inner : Cursor Expr) (depth : Nat) : Cursor Step := do
  let name ← consume
  if name.kind = .name ∧ (Axis.ofName? name.text).isSome then
    let _ ← consume
    stepOn grammar inner depth name.text
  else throw (.fault (.malformed ⟨name.position, .invalidAxis name.text⟩))

def step (grammar : Grammar) (inner : Cursor Expr) (depth : Nat) : Cursor Step := do
  if ← atEnd then fail grammar .missingStep
  else if ← follows .dot then
    let _ ← consume
    return .mk "self" (.nodeType "node") []
  else if ← follows .doubleDot then
    let _ ← consume
    return .mk "parent" (.nodeType "node") []
  else if ← follows .at then
    let _ ← consume
    stepOn grammar inner depth "attribute"
  else
    let following ← lookahead 1
    if following.any (·.kind = .doubleColon) then stepOnAxis grammar inner depth
    else stepOn grammar inner depth "child"

/-- Takes separators and the steps after them as long as there are some. -/
def furtherSteps (grammar : Grammar) (inner : Cursor Expr) : Nat → Cursor (List Step)
  | 0 => throw .depth
  | depth + 1 => do
      let next ← lookahead 0
      match next.bind Grammar.separatorSteps? with
      | none => return []
      | some between =>
          let _ ← consume
          let first ← step grammar inner depth
          let others ← furtherSteps grammar inner depth
          return between ++ first :: others

def relativeSteps (grammar : Grammar) (inner : Cursor Expr) (depth : Nat)
    : Cursor (List Step) := do
  let first ← step grammar inner depth
  let others ← furtherSteps grammar inner depth
  return first :: others

def locationPath (grammar : Grammar) (inner : Cursor Expr) (depth : Nat) : Cursor Expr := do
  if ← follows .slash then
    let _ ← consume
    let next ← lookahead 0
    if next.any Grammar.startsStep then
      let steps ← relativeSteps grammar inner depth
      return .path true steps
    else return .path true []
  else if ← follows .doubleSlash then
    let _ ← consume
    let steps ← relativeSteps grammar inner depth
    return .path true (.anywhereBelow :: steps)
  else
    let steps ← relativeSteps grammar inner depth
    return .path false steps

-----------------------------------------------------------------------------------------
-- Primary expressions
-----------------------------------------------------------------------------------------

/-- Whether a primary expression follows, for which a token must be there: a literal, a reference, a
parenthesis or a call.
-/
def primaryFollows : Cursor Bool := do
  let next ← lookahead 0
  match next with
  | none => throw .assertion
  | some token =>
      if token.kind ∈ [.number, .openParenthesis, .string, .variable] then return true
      else if token.kind ≠ .name ∨ Grammar.isNodeTypeName token.text then return false
      else
        let following ← lookahead 1
        if following.any (·.kind = .colon) then
          let part ← lookahead 2
          let opener ← lookahead 3
          return part.any (·.kind = .name) && opener.any (·.kind = .openParenthesis)
        else return following.any (·.kind = .openParenthesis)

/-- Takes arguments after commas as long as there are some. -/
def furtherArguments (inner : Cursor Expr) : Nat → Cursor (List Expr)
  | 0 => throw .depth
  | depth + 1 => do
      if ← follows .comma then
        let _ ← consume
        let argument ← inner
        let others ← furtherArguments inner depth
        return argument :: others
      else return []

/-- Takes the arguments of a call and the closing parenthesis, and checks the call. -/
def callArguments (grammar : Grammar) (inner : Cursor Expr) (depth : Nat) (name : String)
    (opener : Token) : Cursor Expr := do
  if ← atEnd then fail grammar (.neverClosed opener.text opener.position)
  else
    let list ← show Cursor (List Expr) from do
      if ← follows .closeParenthesis then return []
      else
        let first ← inner
        let others ← furtherArguments inner depth
        return first :: others
    expectClosing grammar opener .closeParenthesis ")"
    match checkCall grammar.arityOf name list.length with
    | .error fault => throw (.fault (.call fault))
    | .ok () => return .call name list

/-- Takes the name of a function, which may have a qualifier. -/
def functionName : Cursor String := do
  let name ← consume
  if ← follows .colon then
    let _ ← consume
    let part ← consume
    return name.text ++ ":" ++ part.text
  else return name.text

/-- Takes a call, which must have a parenthesis after the name. -/
def functionCall (grammar : Grammar) (inner : Cursor Expr) (depth : Nat) : Cursor Expr := do
  let name ← functionName
  let opener ← consume
  if opener.kind = .openParenthesis then callArguments grammar inner depth name opener
  else throw .assertion

/-- Converts a numeral. -/
def number (text : String) : Cursor Expr :=
  match Numeral.ofChars? text.toList with
  | none => throw (.numeral text)
  | some numeral => return .number (numeral.toNumber false)

/-- Takes an expression and the parenthesis that closes it. -/
def enclosed (grammar : Grammar) (inner : Cursor Expr) (opener : Token) : Cursor Expr := do
  if ← atEnd then fail grammar (.neverClosed opener.text opener.position)
  else
    let inside ← inner
    expectClosing grammar opener .closeParenthesis ")"
    return inside

/-- Takes a primary expression, for which a token must be there. -/
def primary (grammar : Grammar) (inner : Cursor Expr) (depth : Nat) : Cursor Expr := do
  let next ← lookahead 0
  match next with
  | none => throw .assertion
  | some token =>
      match token.kind with
      | .number => do
          let _ ← consume
          number token.text
      | .string => do
          let _ ← consume
          return .string (Grammar.unquoted token.text)
      | .variable => do
          let _ ← consume
          return .reference (String.ofList (token.text.toList.drop 1))
      | .openParenthesis => do
          let _ ← consume
          enclosed grammar inner token
      | _ => functionCall grammar inner depth

/-- Takes the path that continues from an expression, if there is one. -/
def continuation (grammar : Grammar) (inner : Cursor Expr) (depth : Nat) (start : Expr)
    : Cursor Expr := do
  if ← follows .slash then
    let _ ← consume
    let steps ← relativeSteps grammar inner depth
    return .continued start steps
  else if ← follows .doubleSlash then
    let _ ← consume
    let steps ← relativeSteps grammar inner depth
    return .continued start (.anywhereBelow :: steps)
  else return start

def pathExpression (grammar : Grammar) (inner : Cursor Expr) (depth : Nat) : Cursor Expr := do
  if ← atEnd then fail grammar .missingExpression
  else if ← primaryFollows then
    let first ← primary grammar inner depth
    let list ← predicates grammar inner depth
    continuation grammar inner depth (if list.isEmpty then first else .filter first list)
  else locationPath grammar inner depth

-----------------------------------------------------------------------------------------
-- Whole expressions
-----------------------------------------------------------------------------------------

/-- Takes an expression of a layer. -/
def layer (grammar : Grammar) (inner : Cursor Expr) (depth : Nat) : Layer → Cursor Expr
  | .path => pathExpression grammar inner depth
  | .negation => negation (layer grammar inner depth (.binary .union)) depth
  | .binary level =>
      Cursor.level depth level.read? (layer grammar inner depth level.operand)
termination_by layer => layer.height
decreasing_by
  · decide
  · exact level.height_operand

/-- Takes an expression, with a depth less for those inside of it. -/
def expression (grammar : Grammar) : Nat → Cursor Expr
  | 0 => throw .depth
  | depth + 1 => layer grammar (expression grammar depth) (depth + 1) (.binary .or)

/-- Takes all tokens as one expression. -/
def whole (grammar : Grammar) (depth : Nat) : Cursor Expr := do
  if ← atEnd then fail grammar .missingExpression
  else
    let root ← expression grammar depth
    if ← atEnd then return root
    else fail grammar .unexpectedToken

/-- Reads a text as an expression with a cursor over its tokens. -/
def ofText (arityOf : String → Option Arity) (depth : Nat) (source : String)
    : Except Halt Expression :=
  match Token.ofText source with
  | .error fault => .error (.fault (.malformed fault))
  | .ok tokens =>
      (whole ⟨source.length, arityOf⟩ depth tokens).map (fun outcome => ⟨outcome.1, source⟩)

end Cursor

end PathQuery
