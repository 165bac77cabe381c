import PathQuery.Selector.Lexeme

/-! Selectors read from their lexemes. Whatever is left over after the chains of a selector makes it
malformed. Negations nest no deeper than there are lexemes.
-/

namespace PathQuery.Selector

open Scanner

-----------------------------------------------------------------------------------------
-- Lexemes
-----------------------------------------------------------------------------------------

/-- Takes gaps, if there are any. -/
def gaps : Scanner Lexeme Unit := do
  let _ ← run (· == .gap)

/-- Takes a mark. -/
def mark (it : Char) : Scanner Lexeme Unit := do
  let _ ← one (· == .mark it)

/-- The text of a name. -/
def Lexeme.name? : Lexeme → Option String
  | .name spelled => some spelled
  | _ => none

/-- The text of a name or a text in quotes. -/
def Lexeme.value? : Lexeme → Option String
  | .name spelled => some spelled
  | .text content => some content
  | _ => none

/-- Takes a name. -/
def someName : Scanner Lexeme String :=
  oneOf Lexeme.name?

/-- Takes a name, or the asterisk that leaves it open. -/
def nameOrAny : Scanner Lexeme (Option String) :=
  (do return some (← someName)) <|> (do mark '*'; return none)

-----------------------------------------------------------------------------------------
-- Conditions
-----------------------------------------------------------------------------------------

/-- Takes a pattern for the name of an element. -/
def namePattern : Scanner Lexeme NamePattern := do
  let first ← nameOrAny
  let second ← optional (mark '|' *> nameOrAny)
  return match second with
    | some localPart => ⟨first, localPart⟩
    | none => ⟨none, first⟩

/-- The comparisons that are written as a mark before the equals sign. -/
def valueTests : List (Char × ValueTest) :=
  [('^', .beginsWith), ('$', .endsWith), ('*', .contains), ('~', .hasWord), ('|', .hasLanguage),
    ('!', .differs)]

/-- The comparison of a mark. -/
def Lexeme.valueTest? : Lexeme → Option ValueTest
  | .mark it => valueTests.lookup it
  | _ => none

/-- Takes the sign of a comparison. -/
def valueTest : Scanner Lexeme ValueTest :=
  (do mark '='; return .equals) <|> (oneOf Lexeme.valueTest? <* mark '=')

/-- Takes a comparison with a value, up to the closing bracket. -/
def comparison (qualifier : Option String) (localPart : String)
    : Scanner Lexeme Condition := do
  gaps
  let test ← valueTest
  gaps
  let value ← oneOf Lexeme.value?
  gaps
  mark ']'
  return .comparesAttribute qualifier localPart test value

/-- Takes the closing bracket of a condition that compares nothing. -/
def presence (qualifier : Option String) (localPart : String) : Scanner Lexeme Condition := do
  gaps
  mark ']'
  return .hasAttribute qualifier localPart

/-- Takes a condition on an attribute. Its name may have a qualifier or leave it open. -/
def attributeCondition : Scanner Lexeme Condition := do
  mark '['
  gaps
  (do
      let qualifier ← nameOrAny
      mark '|'
      let localPart ← someName
      presence qualifier localPart <|> comparison qualifier localPart)
    <|> do
      let localPart ← someName
      presence none localPart <|> comparison none localPart

/-- Whether a lexeme can be an argument of a function. -/
def Lexeme.isArgument : Lexeme → Bool
  | .name _ | .text _ | .number _ => true
  | .mark it => it == '+' || it == '-'
  | _ => false

/-- Takes the arguments of a function and the parenthesis after them. -/
def arguments : Scanner Lexeme (List Lexeme) := do
  let found ← many (gaps *> one Lexeme.isArgument)
  gaps
  mark ')'
  return found

/-- The parts of elements that a single colon is enough for. -/
def oldParts : List String :=
  ["first-line", "first-letter", "before", "after"]

/-- Takes the name after a colon that does not name a part of an element. -/
def stateName : Scanner Lexeme String := do
  mark ':'
  let name ← someName
  if oldParts.contains name.toLower then failure else return name.toLower

/-- Takes a condition on the state of an element. -/
def stateCondition : Scanner Lexeme Condition := do
  return .state (← stateName)

/-- Takes a condition with arguments. -/
def functionCondition : Scanner Lexeme Condition := do
  let name ← stateName
  mark '('
  if name = "not" then failure else return .function name (← arguments)

/-- Takes a negation of a compound that is taken by a given scanner. -/
def negationCondition (inner : Scanner Lexeme Compound) : Scanner Lexeme Condition := do
  let name ← stateName
  mark '('
  if name = "not" then
    gaps
    return .negation (← inner <* mark ')')
  else failure

-----------------------------------------------------------------------------------------
-- Compounds
-----------------------------------------------------------------------------------------

/-- A part of a compound: one condition more, or a new name, which takes the place of all that came
before it.
-/
inductive Part where
  | condition (it : Condition)
  | rename (localPart : String)

/-- The hash of a lexeme. -/
def Lexeme.hash? : Lexeme → Option String
  | .hash spelled => some spelled
  | _ => none

/-- Takes a part of a compound. -/
def part (inner : Scanner Lexeme Compound) : Scanner Lexeme Part :=
  (do return .condition (.identifier (← oneOf Lexeme.hash?)))
    <|> (do return .condition (.word (← mark '.' *> someName)))
    <|> (do return .rename (← mark '|' *> someName))
    <|> (do return .condition (← attributeCondition))
    <|> (do return .condition (← negationCondition inner))
    <|> (do return .condition (← functionCondition))
    <|> (do return .condition (← stateCondition))

/-- Adds a part to a compound. What the first name named becomes the qualifier of a new one. -/
def Compound.add (first : NamePattern) : Compound → Part → Compound
  | .mk name conditions, .condition it => .mk name (conditions ++ [it])
  | _, .rename localPart => .mk ⟨first.localPart, some localPart⟩ []

/-- The pattern that leaves everything open. -/
def NamePattern.any : NamePattern :=
  ⟨none, none⟩

/-- Takes a compound, in which negations nest up to a depth. Something must be taken. -/
def compound : Nat → Scanner Lexeme Compound
  | 0 => failure
  | depth + 1 => do
      let name ← optional namePattern
      let parts ← many (part (compound depth))
      if name.isNone && parts.isEmpty then failure
      else
        let first := name.getD .any
        return parts.foldl (Compound.add first) (.mk first [])

-----------------------------------------------------------------------------------------
-- Chains
-----------------------------------------------------------------------------------------

/-- The combinators that are written as marks. -/
def combinators : List (Char × Combinator) :=
  [('>', .child), ('+', .nextSibling), ('~', .laterSibling)]

/-- The combinator of a mark. -/
def Lexeme.combinator? : Lexeme → Option Combinator
  | .mark it => combinators.lookup it
  | _ => none

/-- Takes a combinator with the gaps around it; a gap alone is one too. -/
def combinator : Scanner Lexeme Combinator :=
  (gaps *> oneOf Lexeme.combinator? <* gaps)
    <|> do
      let _ ← someRun (· == .gap)
      return .descendant

/-- Takes what selects a part of an element. -/
def elementPart : Scanner Lexeme Unit := do
  mark ':'
  (do
      mark ':'
      let _ ← someName
      let _ ← optional (mark '(' *> arguments))
    <|> do
      let name ← someName
      if oldParts.contains name.toLower then return () else failure

/-- Takes a compound and what may follow the last one of a chain. -/
def lastPart (depth : Nat) : Scanner Lexeme (Compound × Bool) :=
  (do
      let found ← compound depth
      let part ← optional elementPart
      return (found, part.isSome))
    <|> do
      elementPart
      return (.mk .any [], true)

/-- Whether a chain goes on after nothing that selects a part of an element. -/
def isChain : List (Compound × Bool) → Bool
  | [] => true
  | [_] => true
  | (_, selectsPart) :: next :: rest => !selectsPart && isChain (next :: rest)

/-- Takes a chain and the gaps after it. -/
def chain (depth : Nat) : Scanner Lexeme Chain := do
  let first ← lastPart depth
  let others ← many (do return (← combinator, ← lastPart depth))
  gaps
  let members := first :: others.map Prod.snd
  if isChain members then
    return ⟨first.1, others.map (fun (combinator, found) => (combinator, found.1)),
      (members.getLast?.map Prod.snd).getD false⟩
  else failure

/-- Takes chains with commas between them. -/
def chains (depth : Nat) : Scanner Lexeme (List Chain) := do
  gaps
  let first ← chain depth
  let others ← many (mark ',' *> gaps *> chain depth)
  return first :: others

-----------------------------------------------------------------------------------------
-- Selectors
-----------------------------------------------------------------------------------------

/-- Whether a compound begins with the condition on the scope and names no element. -/
def Compound.isScope : Compound → Bool
  | .mk ⟨none, none⟩ (.state "scope" :: _) => true
  | _ => false

mutual

/-- Whether the scope is among what a compound negates. -/
def Compound.negatesScope : Compound → Bool
  | .mk _ conditions => negateScope conditions

/-- Whether the scope is among what some conditions negate. -/
def negateScope : List Condition → Bool
  | [] => false
  | .negation inner :: rest => inner.isScope || inner.negatesScope || negateScope rest
  | _ :: rest => negateScope rest

end

/-- Whether the scope is only selected by a colon at the very start. -/
def scopeIsFirst (lexemes : List Lexeme) (found : List Chain) : Bool :=
  let members := found.flatMap (fun chain => chain.first :: chain.others.map Prod.snd)
  !members.any Compound.negatesScope
    && !(members.drop 1).any Compound.isScope
    && ((members.head?.map Compound.isScope) != some true
      || (lexemes.dropWhile (· == .gap)).head? == some (.mark ':'))

/-- The chains of a selector, if it is well-formed. -/
def ofText? (source : String) : Option (List Chain) := do
  let lexemes ← Lexeme.ofText? source
  let found ← whole? (chains lexemes.length) lexemes
  if scopeIsFirst lexemes found then some found else none

end PathQuery.Selector
