import PathQuery.Expr.Parser

/-! The grammar of expressions. A derivation takes a part of the grammar from the first of
some tokens on and leaves others; it says which production each part is made by. What it
derives is an expression tree, in which operators of one level group to the left.
-/

namespace PathQuery

-----------------------------------------------------------------------------------------
-- Operators
-----------------------------------------------------------------------------------------

/-- A token has a kind and a text. -/
abbrev Token.Is (token : Token) (kind : TokenKind) (text : String) : Prop :=
  token.kind = kind ∧ token.text = text

/-- The levels of operators with two operands, from the loosest to the tightest. -/
inductive Level where
  | or
  | and
  | equality
  | order
  | sum
  | product
  | union
deriving DecidableEq, Repr

/-- The kinds of expressions that operands can be: of one level or tighter, negations of unions,
or paths.
-/
inductive Layer where
  | binary (level : Level)
  | negation
  | path
deriving DecidableEq, Repr

namespace Level

def rank : Level → Nat
  | .or => 0
  | .and => 1
  | .equality => 2
  | .order => 3
  | .sum => 4
  | .product => 5
  | .union => 6

def operand : Level → Layer
  | .or => .binary .and
  | .and => .binary .equality
  | .equality => .binary .order
  | .order => .binary .sum
  | .sum => .binary .product
  | .product => .negation
  | .union => .path

/-- The operation that a token is on a level. -/
def operation? (level : Level) (token : Token) : Option (Expr → Expr → Expr) :=
  match level with
  | .or => if token.Is .name "or" then some (.binary "or") else none
  | .and => if token.Is .name "and" then some (.binary "and") else none
  | .equality =>
      if token.Is .operator "=" then some (.binary "=")
      else if token.Is .operator "!=" then some (.binary "!=")
      else none
  | .order =>
      if token.Is .operator "<" then some (.binary "<")
      else if token.Is .operator "<=" then some (.binary "<=")
      else if token.Is .operator ">" then some (.binary ">")
      else if token.Is .operator ">=" then some (.binary ">=")
      else none
  | .sum =>
      if token.Is .operator "+" then some (.binary "+")
      else if token.Is .operator "-" then some (.binary "-")
      else none
  | .product =>
      if token.kind = .asterisk then some (.binary "*")
      else if token.Is .name "div" then some (.binary "div")
      else if token.Is .name "mod" then some (.binary "mod")
      else none
  | .union => if token.kind = .bar then some .union else none

end Level

-----------------------------------------------------------------------------------------
-- Parts
-----------------------------------------------------------------------------------------

/-- The parts of the grammar. Arguments are counted, as calls depend on their number. -/
inductive Part where
  | expression (layer : Layer)
  | operations (level : Level)
  | location
  | relative
  | further
  | step
  | test
  | predicates
  | primary
  | arguments (count : Nat)
  | furtherArguments (count : Nat)

/-- What is derived as a part. Operations are applied to the operand before them. -/
abbrev Part.Value : Part → Type
  | .expression _ => Expr
  | .operations _ => Expr → Expr
  | .location => Expr
  | .relative => List Step
  | .further => List Step
  | .step => Step
  | .test => NodeTest
  | .predicates => List Expr
  | .primary => Expr
  | .arguments _ => List Expr
  | .furtherArguments _ => List Expr

abbrev Part.whole : Part :=
  .expression (.binary .or)

namespace Grammar

-----------------------------------------------------------------------------------------
-- Productions
-----------------------------------------------------------------------------------------

/-- The derivations of a part from tokens, apart from the ones that are left. Calls are
derived if there is a function with the name that takes as many arguments.
-/
inductive Derivation (grammar : Grammar) : Part → List Token → List Token → Type where
  | operands {level : Level} {tokens middle rest : List Token}
      (first : Derivation grammar (.expression level.operand) tokens middle)
      (others : Derivation grammar (.operations level) middle rest)
      : Derivation grammar (.expression (.binary level)) tokens rest
  | noOperation {level : Level} {rest : List Token}
      : Derivation grammar (.operations level) rest rest
  | operation {level : Level} {token : Token} {tokens middle rest : List Token}
      (combine : Expr → Expr → Expr) (operator : level.operation? token = some combine)
      (right : Derivation grammar (.expression level.operand) tokens middle)
      (others : Derivation grammar (.operations level) middle rest)
      : Derivation grammar (.operations level) (token :: tokens) rest
  | negated {token : Token} {tokens rest : List Token}
      (minus : token.Is .operator "-")
      (operand : Derivation grammar (.expression .negation) tokens rest)
      : Derivation grammar (.expression .negation) (token :: tokens) rest
  | plain {tokens rest : List Token}
      (operand : Derivation grammar (.expression (.binary .union)) tokens rest)
      : Derivation grammar (.expression .negation) tokens rest
  -- paths
  | located {tokens rest : List Token} (path : Derivation grammar .location tokens rest)
      : Derivation grammar (.expression .path) tokens rest
  | filtered {tokens middle rest : List Token}
      (primary : Derivation grammar .primary tokens middle)
      (predicates : Derivation grammar .predicates middle rest)
      : Derivation grammar (.expression .path) tokens rest
  | continued {separator : Token} {tokens middle further rest : List Token} (between : List Step)
      (primary : Derivation grammar .primary tokens middle)
      (predicates : Derivation grammar .predicates middle (separator :: further))
      (separates : separatorSteps? separator = some between)
      (steps : Derivation grammar .relative further rest)
      : Derivation grammar (.expression .path) tokens rest
  | fromContext {tokens rest : List Token} (steps : Derivation grammar .relative tokens rest)
      : Derivation grammar .location tokens rest
  | root {slash : Token} {rest : List Token} (isSlash : slash.kind = .slash)
      (alone : ∀ next ∈ rest.head?, ¬ startsStep next)
      : Derivation grammar .location (slash :: rest) rest
  | fromRoot {slash : Token} {tokens rest : List Token} (isSlash : slash.kind = .slash)
      (steps : Derivation grammar .relative tokens rest)
      : Derivation grammar .location (slash :: tokens) rest
  | anywhere {slash : Token} {tokens rest : List Token} (isDouble : slash.kind = .doubleSlash)
      (steps : Derivation grammar .relative tokens rest)
      : Derivation grammar .location (slash :: tokens) rest
  | stepwise {tokens middle rest : List Token} (first : Derivation grammar .step tokens middle)
      (others : Derivation grammar .further middle rest)
      : Derivation grammar .relative tokens rest
  | noStep {rest : List Token} : Derivation grammar .further rest rest
  | furtherStep {separator : Token} {tokens middle rest : List Token} (between : List Step)
      (separates : separatorSteps? separator = some between)
      (next : Derivation grammar .step tokens middle)
      (others : Derivation grammar .further middle rest)
      : Derivation grammar .further (separator :: tokens) rest
  -- steps
  | self {dot : Token} {rest : List Token} (isDot : dot.kind = .dot)
      : Derivation grammar .step (dot :: rest) rest
  | parent {dots : Token} {rest : List Token} (isDouble : dots.kind = .doubleDot)
      : Derivation grammar .step (dots :: rest) rest
  | onAttributes {sign : Token} {tokens middle rest : List Token} (isAt : sign.kind = .at)
      (test : Derivation grammar .test tokens middle)
      (predicates : Derivation grammar .predicates middle rest)
      : Derivation grammar .step (sign :: tokens) rest
  | onAxis (name : Token) {colons : Token} {tokens middle rest : List Token}
      (isName : name.kind = .name) (known : (Axis.ofName? name.text).isSome)
      (isDouble : colons.kind = .doubleColon) (test : Derivation grammar .test tokens middle)
      (predicates : Derivation grammar .predicates middle rest)
      : Derivation grammar .step (name :: colons :: tokens) rest
  | onChildren {tokens middle rest : List Token} (test : Derivation grammar .test tokens middle)
      (predicates : Derivation grammar .predicates middle rest)
      : Derivation grammar .step tokens rest
  | noPredicate {rest : List Token} : Derivation grammar .predicates rest rest
  | predicate {opener closer : Token} {tokens middle rest : List Token}
      (opens : opener.kind = .openBracket)
      (inside : Derivation grammar .whole tokens (closer :: middle))
      (closes : closer.kind = .closeBracket)
      (others : Derivation grammar .predicates middle rest)
      : Derivation grammar .predicates (opener :: tokens) rest
  -- node tests
  | anyName {asterisk : Token} {rest : List Token} (isAsterisk : asterisk.kind = .asterisk)
      : Derivation grammar .test (asterisk :: rest) rest
  | plainName (name : Token) {rest : List Token} (isName : name.kind = .name)
      : Derivation grammar .test (name :: rest) rest
  | qualified (name part : Token) {colon : Token} {rest : List Token} (isName : name.kind = .name)
      (continues : continuesName name colon part)
      : Derivation grammar .test (name :: colon :: part :: rest) rest
  | nodeType (name : Token) {opener closer : Token} {rest : List Token}
      (isName : name.kind = .name) (known : isNodeTypeName name.text)
      (opens : opener.kind = .openParenthesis)
      (closes : closer.kind = .closeParenthesis)
      : Derivation grammar .test (name :: opener :: closer :: rest) rest
  | target (literal : Token) {name opener closer : Token} {rest : List Token}
      (isName : name.kind = .name) (known : name.text = "processing-instruction")
      (opens : opener.kind = .openParenthesis)
      (isString : literal.kind = .string) (closes : closer.kind = .closeParenthesis)
      : Derivation grammar .test (name :: opener :: literal :: closer :: rest) rest
  -- primary expressions
  | number (numeral : Token) {rest : List Token} (isNumber : numeral.kind = .number)
      : Derivation grammar .primary (numeral :: rest) rest
  | string (literal : Token) {rest : List Token} (isString : literal.kind = .string)
      : Derivation grammar .primary (literal :: rest) rest
  | reference (dollar : Token) {rest : List Token} (isVariable : dollar.kind = .variable)
      : Derivation grammar .primary (dollar :: rest) rest
  | enclosed {opener closer : Token} {tokens rest : List Token}
      (opens : opener.kind = .openParenthesis)
      (inside : Derivation grammar .whole tokens (closer :: rest))
      (closes : closer.kind = .closeParenthesis)
      : Derivation grammar .primary (opener :: tokens) rest
  | call (name : Token) {opener closer : Token} {tokens rest : List Token} {count : Nat}
      (isName : name.kind = .name) (noType : ¬ isNodeTypeName name.text)
      (opens : opener.kind = .openParenthesis)
      (arguments : Derivation grammar (.arguments count) tokens (closer :: rest))
      (closes : closer.kind = .closeParenthesis)
      (accepted : checkCall grammar.arityOf name.text count = .ok ())
      : Derivation grammar .primary (name :: opener :: tokens) rest
  | qualifiedCall (name part : Token) {colon opener closer : Token} {tokens rest : List Token}
      {count : Nat}
      (isName : name.kind = .name) (noType : ¬ isNodeTypeName name.text)
      (isColon : colon.kind = .colon) (isPart : part.kind = .name)
      (opens : opener.kind = .openParenthesis)
      (arguments : Derivation grammar (.arguments count) tokens (closer :: rest))
      (closes : closer.kind = .closeParenthesis)
      (accepted : checkCall grammar.arityOf (name.text ++ ":" ++ part.text) count = .ok ())
      : Derivation grammar .primary (name :: colon :: part :: opener :: tokens) rest
  | noArgument {rest : List Token} : Derivation grammar (.arguments 0) rest rest
  | someArguments {tokens middle rest : List Token} {count : Nat}
      (first : Derivation grammar .whole tokens middle)
      (others : Derivation grammar (.furtherArguments count) middle rest)
      : Derivation grammar (.arguments (count + 1)) tokens rest
  | noFurtherArgument {rest : List Token} : Derivation grammar (.furtherArguments 0) rest rest
  | furtherArgument {comma : Token} {tokens middle rest : List Token} {count : Nat}
      (isComma : comma.kind = .comma)
      (next : Derivation grammar .whole tokens middle)
      (others : Derivation grammar (.furtherArguments count) middle rest)
      : Derivation grammar (.furtherArguments (count + 1)) (comma :: tokens) rest

namespace Derivation

/-- An expression with predicates; without any it is left as it is. -/
def filter (primary : Expr) (predicates : List Expr) : Expr :=
  if predicates.isEmpty then primary else .filter primary predicates

def tree {grammar : Grammar} {part : Part} {tokens rest : List Token}
    : grammar.Derivation part tokens rest → part.Value
  | operands first others => others.tree first.tree
  | noOperation => fun left => left
  | operation combine _ right others => fun left => others.tree (combine left right.tree)
  | negated _ operand => .negate operand.tree
  | plain operand => operand.tree
  | located path => path.tree
  | filtered primary predicates => filter primary.tree predicates.tree
  | continued between primary predicates _ steps =>
      .continued (filter primary.tree predicates.tree) (between ++ steps.tree)
  | fromContext steps => .path false steps.tree
  | root _ _ => .path true []
  | fromRoot _ steps => .path true steps.tree
  | anywhere _ steps => .path true (.anywhereBelow :: steps.tree)
  | stepwise first others => first.tree :: others.tree
  | noStep => []
  | furtherStep between _ next others => between ++ next.tree :: others.tree
  | self _ => .mk "self" (.nodeType "node") []
  | parent _ => .mk "parent" (.nodeType "node") []
  | onAttributes _ test predicates => .mk "attribute" test.tree predicates.tree
  | onAxis name _ _ _ test predicates => .mk name.text test.tree predicates.tree
  | onChildren test predicates => .mk "child" test.tree predicates.tree
  | noPredicate => []
  | predicate _ inside _ others => inside.tree :: others.tree
  | anyName _ => .anyName none
  | plainName name _ => .name none name.text
  | qualified name part _ _ =>
      if part.kind = .asterisk then .anyName (some name.text) else .name (some name.text) part.text
  | nodeType name _ _ _ _ => nodeTypeTest name.text
  | target literal _ _ _ _ _ => .instruction (some (unquoted literal.text))
  | number numeral _ => .number (Number.ofText numeral.text)
  | string literal _ => .string (unquoted literal.text)
  | reference dollar _ => .reference (String.ofList (dollar.text.toList.drop 1))
  | enclosed _ inside _ => inside.tree
  | call name _ _ _ arguments _ _ => .call name.text arguments.tree
  | qualifiedCall name part _ _ _ _ _ arguments _ _ =>
      .call (name.text ++ ":" ++ part.text) arguments.tree
  | noArgument => []
  | someArguments first others => first.tree :: others.tree
  | noFurtherArgument => []
  | furtherArgument _ next others => next.tree :: others.tree

end Derivation

end Grammar

end PathQuery
