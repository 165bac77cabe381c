/-! How many arguments a function accepts, and what a call can be refused for before it is made.
-/

namespace PathQuery

/-- The accepted numbers of arguments: a least one and, unless any more are accepted, a greatest
one.
-/
structure Arity where
  least : Nat
  greatest : Option Nat
deriving DecidableEq, Repr

namespace Arity

/-- Whether a number of arguments is accepted. -/
def accepts (arity : Arity) (count : Nat) : Bool :=
  arity.least ≤ count
    && match arity.greatest with
      | some greatest => count ≤ greatest
      | none => true

/-- The accepted numbers in words. -/
def describe (arity : Arity) : String :=
  match arity.greatest with
  | none => "at least " ++ toString arity.least
  | some greatest =>
      if arity.least = greatest then toString greatest
      else toString arity.least ++ " to " ++ toString greatest

end Arity

/-- Why a call is refused: there is no such function, or it does not take so many arguments. -/
inductive CallFault where
  | unknown (name : String)
  | arity (name : String) (expected : Arity) (count : Nat)
deriving DecidableEq, Repr

/-- The wording of a refused call. -/
def CallFault.message : CallFault → String
  | .unknown name => "Unknown function: `" ++ name ++ "`"
  | .arity name expected count =>
      "The function `" ++ name ++ "` expects " ++ expected.describe
        ++ " argument(s), got " ++ toString count ++ "."

/-- Checks a call against the arity that a name has. -/
def checkCall (arityOf : String → Option Arity) (name : String) (count : Nat)
    : Except CallFault Unit :=
  match arityOf name with
  | none => .error (.unknown name)
  | some arity => if arity.accepts count then .ok () else .error (.arity name arity count)

end PathQuery
