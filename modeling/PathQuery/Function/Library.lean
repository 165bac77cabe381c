import PathQuery.Context

/-! Libraries of functions that expressions can call, by name. A function receives the context and
its arguments, converted as its signature says; what it returns is made a value afterwards.
-/

namespace PathQuery

/-- A function with what it accepts. -/
structure Function where
  signature : Signature
  run : Context → List Value → Except Fault Datum

/-- Functions by their names. -/
structure Library where
  entries : List (String × Function)

namespace Library

/-- The function of a name. -/
def find? (library : Library) (name : String) : Option Function :=
  (library.entries.find? (·.1 == name)).map Prod.snd

/-- The arity of the function of a name. -/
def arityOf (library : Library) (name : String) : Option Arity :=
  (library.find? name).map (·.signature.arity)

/-- The function of a name, if a number of arguments is accepted. -/
def findFor (library : Library) (name : String) (count : Nat) : Except CallFault Function :=
  match library.find? name with
  | none => .error (.unknown name)
  | some function =>
      if function.signature.arity.accepts count then .ok function
      else .error (.arity name function.signature.arity count)

/-- The names of all functions by code points. -/
def names (library : Library) : List String :=
  (library.entries.map Prod.fst).mergeSort (fun left right => !decide (right < left))

/-- Adds a function, or puts it in the place of the one with its name. -/
def insert (library : Library) (name : String) (function : Function) : Library :=
  ⟨assign library.entries name function⟩

/-- The outcome of a registration: the library, whether a function of the same name was there
before, and whether the parameters were accepted. A refusal leaves the library as it was.
-/
structure Registration where
  library : Library
  overrides : Bool
  accepted : Bool

/-- Registers a function by its parameters. -/
def register (library : Library) (name : String) (parameters : List Parameter)
    (run : Context → List Value → Except Fault Datum) : Registration :=
  let overrides := (library.find? name).isSome
  match Signature.ofParameters? parameters with
  | some signature => ⟨library.insert name ⟨signature, run⟩, overrides, true⟩
  | none => ⟨library, overrides, false⟩

/-- The wording of the warning that a function is overridden. -/
def overrideWarning (name function : String) : String :=
  "The XPath function `" ++ name ++ "` is overridden by " ++ function ++ "."

/-- The wording of a refused registration. -/
def refusalMessage : String :=
  "XPath functions can only have positional parameters."

end Library

end PathQuery
