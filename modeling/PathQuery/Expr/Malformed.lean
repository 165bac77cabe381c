/-! Why a text is no expression, and where. Positions count characters from the start of the
text; a message quotes what follows the position.
-/

namespace PathQuery

/-- What is wrong with a text. -/
inductive Problem where
  | unrecognizedToken
  | unterminatedString
  | missingExpression
  | unexpectedToken
  | neverClosed (opener : String) (position : Nat)
  | expectedClosing (closer : String)
  | missingStep
  | invalidAxis (text : String)
  | missingNodeTest
  | unrecognizedNodeTest
  | missingPredicate
deriving DecidableEq, Repr

/-- The wording of a problem. -/
def Problem.message : Problem → String
  | .unrecognizedToken => "Unrecognized token."
  | .unterminatedString => "Unterminated string literal."
  | .missingExpression => "Missing expression."
  | .unexpectedToken => "Unexpected token."
  | .neverClosed opener position =>
      "`" ++ opener ++ "` at position " ++ toString position ++ " is never closed."
  | .expectedClosing closer => "Expected `" ++ closer ++ "`."
  | .missingStep => "Missing location step."
  | .invalidAxis text => "Invalid axis: `" ++ text ++ "`"
  | .missingNodeTest => "Missing node test."
  | .unrecognizedNodeTest => "Unrecognized node test."
  | .missingPredicate => "Missing predicate expression."

/-- A problem at a position. -/
structure Malformed where
  position : Nat
  problem : Problem
deriving DecidableEq, Repr

/-- How many characters of a text are quoted. -/
def snippetLength : Nat :=
  16

/-- The message for a text: the characters from the position on are quoted, cut after some with
an ellipsis, and left out if there are none.
-/
def Malformed.message (malformed : Malformed) (source : String) : String :=
  let rest := source.toList.drop malformed.position
  let snippet := String.ofList (rest.take snippetLength)
  let quoted := if snippetLength < rest.length then snippet ++ "…" else snippet
  "XPath syntax error at character " ++ toString malformed.position
    ++ (if quoted.isEmpty then "" else " (`" ++ quoted ++ "`)")
    ++ ": " ++ malformed.problem.message

end PathQuery
