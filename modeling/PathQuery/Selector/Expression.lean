import PathQuery.Expr.Basic
import PathQuery.Selector.Parser
import PathQuery.Text.Name

/-! The expressions that selectors stand for. Each compound becomes a step with one predicate at
most, to which its conditions are added one after the other; the first step looks at all
descendants. Names that are no plain ASCII names are compared as they are spelled.
-/

namespace PathQuery.Selector

-----------------------------------------------------------------------------------------
-- Parts of expressions
-----------------------------------------------------------------------------------------

/-- Whether a name can be part of an expression as it is. -/
def isPlainName (name : String) : Bool :=
  match name.toList with
  | [] => false
  | c :: rest =>
      (Text.isAsciiLetter c || c == '_')
        && rest.all (fun c => Text.isAsciiLetter c || Text.isDigit c || "_.-".toList.contains c)

/-- An integer as expression. -/
def integer (value : Int) : Expr :=
  if value < 0 then .negate (.number (.ofInt (-value))) else .number (.ofInt value)

/-- Two operands that are equal. -/
def equal (left right : Expr) : Expr :=
  .binary "=" left right

/-- Two operands that both hold. -/
def both (left right : Expr) : Expr :=
  .binary "and" left right

/-- An operand that does not hold. -/
def negation (operand : Expr) : Expr :=
  .call "not" [operand]

/-- How many nodes an axis holds that pass a test. -/
def countOn (axis : String) (test : NodeTest) : Expr :=
  .call "count" [.path false [.mk axis test []]]

/-- The test that a pattern for names puts. -/
def NamePattern.test (pattern : NamePattern) : NodeTest :=
  match pattern.localPart with
  | some localPart => .name pattern.qualifier localPart
  | none => .anyName pattern.qualifier

/-- A pattern as it is spelled. -/
def NamePattern.spelled (pattern : NamePattern) : String :=
  qualified pattern.qualifier (pattern.localPart.getD "*")

/-- Whether the parts of a pattern are plain names. -/
def NamePattern.isPlain (pattern : NamePattern) : Bool :=
  pattern.qualifier.all isPlainName && pattern.localPart.all isPlainName

/-- The condition that a name is spelled in some way. -/
def spelledAs (name : String) : Expr :=
  equal (.call "name" []) (.string name)

/-- The attribute with a name. -/
def attributePath (qualifier : Option String) (localPart : String) : Expr :=
  let pattern : NamePattern := ⟨qualifier, some localPart⟩
  if pattern.isPlain then .path false [.mk "attribute" pattern.test []]
  else .path false [.mk "attribute" (.anyName none) [spelledAs pattern.spelled]]

-----------------------------------------------------------------------------------------
-- Drafts of paths
-----------------------------------------------------------------------------------------

/-- A path whose last step is not complete yet. -/
structure Draft where
  steps : List Step
  axis : String
  name : NamePattern
  condition : Option Expr

/-- A further condition on what an expression says. It binds tighter than alternatives do. -/
def conjoin : Expr → Expr → Expr
  | .binary "or" left right, more => .binary "or" left (conjoin right more)
  | before, more => both before more

namespace Draft

/-- Adds a condition to the last step. -/
def require (draft : Draft) (more : Expr) : Draft :=
  { draft with
    condition := some (match draft.condition with
      | some before => conjoin before more
      | none => more) }

/-- Makes the name of the last step a condition. -/
def nameAsCondition (draft : Draft) : Draft :=
  if draft.name = .any then draft
  else { draft.require (spelledAs draft.name.spelled) with name := .any }

/-- A path of one step with a name. -/
def ofName (name : NamePattern) : Draft :=
  let draft : Draft := ⟨[], "descendant", name, none⟩
  if name.isPlain then draft else draft.nameAsCondition

/-- The steps with the last one completed. -/
def complete (draft : Draft) : List Step :=
  draft.steps ++ [.mk draft.axis draft.name.test draft.condition.toList]

/-- Continues a path with what another one consists of. -/
def join (draft : Draft) (between : List Step) (axis : String) (other : Draft) : Draft :=
  { other with steps := draft.complete ++ between, axis }

/-- Continues a path as a combinator says. -/
def combine (draft : Draft) (combinator : Combinator) (other : Draft) : Draft :=
  match combinator with
  | .descendant => draft.join [.mk "descendant-or-self" (.anyName none) []] "child" other
  | .child => draft.join [] "child" other
  | .laterSibling => draft.join [] "following-sibling" other
  | .nextSibling =>
      (draft.join [] "following-sibling" other).nameAsCondition.require
        (equal (.call "position" []) (integer 1))

end Draft

-----------------------------------------------------------------------------------------
-- Attributes
-----------------------------------------------------------------------------------------

/-- The condition that a text is one of the words of an attribute. A text that is no word is none
of them.
-/
def wordCondition (it : Expr) (value : String) : Expr :=
  if value.isEmpty || value.toList.any isGap then integer 0
  else
    both it
      (.call "contains"
        [.call "concat" [.string " ", .call "normalize-space" [it], .string " "],
          .string (" " ++ value ++ " ")])

/-- The condition that an attribute has a value that stands in some relation to a text. -/
def valueCondition (it : Expr) (test : ValueTest) (value : String) : Expr :=
  match test with
  | .equals => equal it (.string value)
  | .differs =>
      let differs := Expr.binary "!=" it (.string value)
      if value.isEmpty then differs else .binary "or" (negation it) differs
  | .hasWord => wordCondition it value
  | .hasLanguage =>
      both it
        (.binary "or" (equal it (.string value))
          (.call "starts-with" [it, .string (value ++ "-")]))
  | .beginsWith =>
      if value.isEmpty then integer 0 else both it (.call "starts-with" [it, .string value])
  | .endsWith =>
      if value.isEmpty then integer 0
      else
        let start :=
          Expr.binary "-" (.call "string-length" [it])
            (integer (value.length - 1))
        both it (equal (.call "substring" [it, start]) (.string value))
  | .contains =>
      if value.isEmpty then integer 0 else both it (.call "contains" [it, .string value])

-----------------------------------------------------------------------------------------
-- Series
-----------------------------------------------------------------------------------------

/-- The positions that a series names: the multiples of a step beyond a start. -/
structure Series where
  step : Int
  start : Int
deriving DecidableEq, Repr

/-- An integer with an optional sign. -/
def integerOf? (text : List Char) : Option Int :=
  let value? (digits : List Char) : Option Int :=
    if digits.isEmpty || !digits.all Text.isDigit then none
    else some (digits.foldl (fun value c => 10 * value + (c.toNat - '0'.toNat)) 0 : Nat)
  match text with
  | '-' :: digits => (value? digits).map (- ·)
  | '+' :: digits => value? digits
  | digits => value? digits

/-- The characters of a lexeme in a series, which holds no quotes. -/
def Lexeme.seriesText? : Lexeme → Option (List Char)
  | .name spelled => some spelled.toList
  | .number digits => some digits.toList
  | .mark it => some [it]
  | _ => none

/-- The step that is written before the letter of a series. -/
def stepOf? (text : List Char) : Option Int :=
  match text with
  | [] => some 1
  | ['-'] => some (-1)
  | ['+'] => some 1
  | digits => integerOf? digits

/-- The series that arguments name. -/
def Series.ofArguments? (arguments : List Lexeme) : Option Series := do
  let text := (← arguments.mapM Lexeme.seriesText?).flatten
  if text = "odd".toList then some ⟨2, 1⟩
  else if text = "even".toList then some ⟨2, 0⟩
  else
    match text.dropWhile (· != 'n') with
    | [] => (integerOf? text).map (Series.mk 0)
    | _ :: rest =>
        let step ← stepOf? (text.takeWhile (· != 'n'))
        let start ← if rest.isEmpty then some 0 else integerOf? rest
        some ⟨step, start⟩

/-- The condition that as many nodes stand before an element as a position of a series has before
it, if it is a condition at all.
-/
def Series.condition? (series : Series) (count : Expr) : Option Expr :=
  let before := series.start - 1
  if series.step = 1 ∧ before ≤ 0 then none
  else if series.step < 0 ∧ before < 0 then some (integer 0)
  else if series.step = 0 then some (equal count (integer before))
  else
    let bound :=
      if series.step < 0 then [Expr.binary "<=" count (integer before)]
      else if 0 < before then [Expr.binary ">=" count (integer before)]
      else []
    let offset := (-before) % series.step.natAbs
    let shifted :=
      if offset = 0 then count else .binary "+" count (integer offset)
    let multiple :=
      if series.step.natAbs = 1 then []
      else
        [equal (.binary "mod" shifted (integer series.step)) (integer 0)]
    match bound ++ multiple with
    | [] => none
    | first :: others => some (others.foldl both first)

-----------------------------------------------------------------------------------------
-- States and functions
-----------------------------------------------------------------------------------------

/-- The states that no node of a tree is ever in. -/
def neverStates : List String :=
  ["link", "visited", "hover", "active", "focus", "target", "enabled", "disabled", "checked"]

/-- A name in which hyphens and underscores are alike. -/
def hyphenated (name : String) : String :=
  String.ofList (name.toList.map (fun c => if c = '_' then '-' else c))

/-- The condition that no node, or so many nodes, stand on an axis that pass a test. -/
def countIs (axis : String) (test : NodeTest) (count : Int) : Expr :=
  equal (countOn axis test) (integer count)

/-- The condition that the parent has one child that passes a test. -/
def isOnly (test : NodeTest) : Expr :=
  equal
    (.call "count" [.path false [.mk "parent" (.anyName none) [], .mk "child" test []]])
    (integer 1)

/-- The name of a draft, which must not be left open. -/
def Draft.typeTest (draft : Draft) : Except Fault NodeTest :=
  if draft.name = .any then .error .inexpressible else .ok draft.name.test

/-- The condition that an element is in a state. -/
def stateExpression (draft : Draft) (name : String) : Except Fault Expr :=
  match hyphenated name with
  | "root" => .ok (negation (.path false [.mk "parent" (.anyName none) []]))
  | "scope" => .ok (integer 1)
  | "first-child" => .ok (countIs "preceding-sibling" (.anyName none) 0)
  | "last-child" => .ok (countIs "following-sibling" (.anyName none) 0)
  | "only-child" => .ok (isOnly (.anyName none))
  | "first-of-type" => draft.typeTest.map (countIs "preceding-sibling" · 0)
  | "last-of-type" => draft.typeTest.map (countIs "following-sibling" · 0)
  | "only-of-type" => draft.typeTest.map isOnly
  | "empty" =>
      .ok (both (negation (.path false [.mk "child" (.anyName none) []]))
        (negation (.call "string-length" [])))
  | other => if neverStates.contains other then .ok (integer 0) else .error .inexpressible

/-- Adds the condition that a series puts to the number of nodes on an axis. -/
def Draft.requireSeries (draft : Draft) (axis : String) (test : NodeTest)
    (arguments : List Lexeme) : Except Fault Draft :=
  match Series.ofArguments? arguments with
  | none => .error .inexpressible
  | some series =>
      match series.condition? (countOn axis test) with
      | some condition => .ok (draft.require condition)
      | none => .ok draft

/-- The only argument, a name or a text. -/
def onlyText (arguments : List Lexeme) : Except Fault Expr :=
  match arguments with
  | [.name spelled] => .ok (.string spelled)
  | [.text content] => .ok (.string content)
  | _ => .error .inexpressible

/-- Adds a condition with arguments. -/
def Draft.requireFunction (draft : Draft) (name : String) (arguments : List Lexeme)
    : Except Fault Draft :=
  match hyphenated name with
  | "nth-child" => draft.requireSeries "preceding-sibling" (.anyName none) arguments
  | "nth-last-child" => draft.requireSeries "following-sibling" (.anyName none) arguments
  | "nth-of-type" => do draft.requireSeries "preceding-sibling" (← draft.typeTest) arguments
  | "nth-last-of-type" => do draft.requireSeries "following-sibling" (← draft.typeTest) arguments
  | "contains" => do
      let value ← onlyText arguments
      .ok (draft.require (.call "contains" [.path false [.mk "self" (.nodeType "node") []], value]))
  | "lang" => do
      let value ← onlyText arguments
      .ok (draft.require (.call "lang" [value]))
  | _ => .error .inexpressible

-----------------------------------------------------------------------------------------
-- Compounds and chains
-----------------------------------------------------------------------------------------

mutual

/-- The draft of a compound. -/
def Compound.draft : Compound → Except Fault Draft
  | .mk name conditions => addAll (.ofName name) conditions

/-- Adds some conditions to a draft, one after the other. -/
def addAll (draft : Draft) : List Condition → Except Fault Draft
  | [] => .ok draft
  | it :: rest => do
      let more ← it.add draft
      addAll more rest

/-- Adds a condition to a draft. -/
def Condition.add (draft : Draft) : Condition → Except Fault Draft
  | .identifier value => .ok (draft.require (equal (attributePath none "id") (.string value)))
  | .word value => .ok (draft.require (wordCondition (attributePath none "class") value))
  | .hasAttribute qualifier localPart => .ok (draft.require (attributePath qualifier localPart))
  | .comparesAttribute qualifier localPart test value =>
      .ok (draft.require (valueCondition (attributePath qualifier localPart) test value))
  | .state name => do
      let condition ← stateExpression draft name
      .ok (draft.require condition)
  | .function name arguments => draft.requireFunction name arguments
  | .negation inner => do
      let inner ← inner.draft
      match inner.nameAsCondition.condition with
      | some condition => .ok (draft.require (negation condition))
      | none => .ok (draft.require (integer 0))

end

/-- The draft of the rest of a chain after a first part. -/
def combineAll (draft : Draft) : List (Combinator × Compound) → Except Fault Draft
  | [] => .ok draft
  | (combinator, found) :: rest => do
      let other ← found.draft
      combineAll (draft.combine combinator other) rest

/-- The path of a chain. There is none for parts of elements. -/
def Chain.toExpr (chain : Chain) : Except Fault Expr := do
  let first ← chain.first.draft
  let draft ← combineAll first chain.others
  if chain.selectsPart then .error .inexpressible else .ok (.path false draft.complete)

/-- The union of the paths of chains. -/
def unionOf : List Chain → Except Fault Expr
  | [] => .error .malformed
  | first :: rest => do
      let path ← first.toExpr
      let others ← rest.mapM Chain.toExpr
      .ok (others.foldl .union path)

/-- The expression that a selector stands for. -/
def toExpr (source : String) : Except Fault Expr :=
  match ofText? source with
  | none => .error .malformed
  | some chains => unionOf chains

end PathQuery.Selector
