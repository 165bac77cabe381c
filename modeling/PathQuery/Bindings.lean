import PathQuery.Value.Datum

/-! The namespaces that an expression can name. The qualifier `xml` is always bound and never
changed, and the empty one stands for the default namespace of element names.
-/

namespace PathQuery

/-- Qualifiers with the namespaces that they are bound to, in order. -/
structure Bindings where
  entries : List (String × String)
deriving DecidableEq, Repr

/-- Why declarations bind nothing. -/
inductive BindingsFault where
  | redundantDefault
  | reserved (qualifier : String)
  | noText (qualifier : Option String)
deriving DecidableEq, Repr

/-- The wording of refused declarations. -/
def BindingsFault.message : BindingsFault → String
  | .redundantDefault =>
      "A default namespace has been defined redundantly with '' and `None.`"
  | .reserved qualifier => "One must not override the global prefix `" ++ qualifier ++ "`."
  | .noText qualifier =>
      "The namespace for `" ++ qualifier.getD "None" ++ "` must be a string."

namespace Bindings

/-- The key of the default namespace. -/
def defaultKey : String :=
  ""

/-- The bindings without any declaration. -/
def initial : Bindings :=
  ⟨[(xmlQualifier, xmlUri)]⟩

/-- The reserved qualifiers with what they may be declared as: their namespace, or nothing where
they have none.
-/
def reserved : List (String × Datum) :=
  [(xmlQualifier, .text xmlUri), ("xmlns", .null)]

/-- Whether a declaration repeats what is fixed for a reserved qualifier. -/
def repeats : Datum → Datum → Bool
  | .text content, .text other => content == other
  | .null, .null => true
  | _, _ => false

/-- Adds one declaration. A reserved qualifier may only be declared as what it is. -/
def declare (bindings : Bindings) (qualifier : Option String) (datum : Datum)
    : Except BindingsFault Bindings :=
  match reserved.find? (fun entry => some entry.1 == qualifier) with
  | some entry =>
      if repeats entry.2 datum then .ok bindings else .error (.reserved entry.1)
  | none =>
      match datum with
      | .text uri => .ok ⟨assign bindings.entries (qualifier.getD defaultKey) uri⟩
      | _ => .error (.noText qualifier)

/-- Adds declarations in order. -/
def declareAll (bindings : Bindings) : List (Option String × Datum) → Except BindingsFault Bindings
  | [] => .ok bindings
  | (qualifier, datum) :: rest => do
      let more ← bindings.declare qualifier datum
      more.declareAll rest

/-- The bindings of declarations. The default namespace must not be declared under both of its
keys.
-/
def ofDeclarations? (declarations : List (Option String × Datum))
    : Except BindingsFault Bindings :=
  if declarations.any (·.1 == none) && declarations.any (·.1 == some defaultKey) then
    .error .redundantDefault
  else initial.declareAll declarations

/-- The namespace that a qualifier is bound to. -/
def get? (bindings : Bindings) (qualifier : String) : Option String :=
  (bindings.entries.find? (·.1 == qualifier)).map Prod.snd

/-- Whether a qualifier is bound. -/
def contains (bindings : Bindings) (qualifier : String) : Bool :=
  bindings.entries.any (·.1 == qualifier)

/-- The default namespace; an empty one is none. -/
def default? (bindings : Bindings) : Option String :=
  (bindings.get? defaultKey).bind uriOf

/-- The number of bindings. -/
def size (bindings : Bindings) : Nat :=
  bindings.entries.length

/-- The bindings as a mapping is shown. -/
def describe (bindings : Bindings) : String :=
  Datum.describe [] (.mapping (bindings.entries.map (fun entry => (some entry.1, .text entry.2))))

end Bindings

end PathQuery
