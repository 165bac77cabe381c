import PathQuery.Expr.Arity

/-! What a function accepts, derived from its parameters: how many arguments, and what each one is
converted to. A parameter without a known annotation takes its argument as it is.
-/

namespace PathQuery

/-- What an argument is converted to; a node-set is required and not converted to. -/
inductive ArgumentType where
  | string
  | number
  | boolean
  | nodes
deriving DecidableEq, Repr

/-- The name of a type. -/
def ArgumentType.name : ArgumentType → String
  | .string => "string"
  | .number => "number"
  | .boolean => "boolean"
  | .nodes => "node-set"

/-- How a parameter takes arguments. -/
inductive ParameterKind where
  | positional
  | variadic
  | namedOnly
deriving DecidableEq, Repr

/-- What a parameter is annotated with: nothing, the text of an annotation or the name of a
type.
-/
inductive Annotation where
  | absent
  | text (content : String)
  | typeName (name : String)
deriving DecidableEq, Repr

/-- A parameter of a function, the context apart. -/
structure Parameter where
  kind : ParameterKind
  isOptional : Bool
  annotation : Annotation
deriving DecidableEq, Repr

/-- The argument types of type names. -/
def argumentTypes : List (String × ArgumentType) :=
  [("str", .string), ("float", .number), ("int", .number), ("bool", .boolean),
    ("NodeSet", .nodes)]

/-- The argument type of a type name, if it has one. -/
def ArgumentType.ofName? (name : String) : Option ArgumentType :=
  (argumentTypes.find? (·.1 == name)).map Prod.snd

/-- What stands between a start and an end of a text, or the text itself if it does not have
both.
-/
def unwrap (opening closing text : String) : String :=
  let characters := text.toList
  if opening.toList.isPrefixOf characters && closing.toList.isSuffixOf characters then
    String.ofList
      ((characters.drop opening.length).take
        (characters.length - opening.length - closing.length))
  else text

/-- The argument type of an annotation. An optional type counts as the type itself, if it is given
as text.
-/
def Annotation.argumentType? : Annotation → Option ArgumentType
  | .absent => none
  | .text content => ArgumentType.ofName? (unwrap "Optional[" "]" content)
  | .typeName name => ArgumentType.ofName? name

/-- What a function accepts. -/
structure Signature where
  arity : Arity
  types : List (Option ArgumentType)
  variadicType : Option ArgumentType
deriving DecidableEq, Repr

namespace Signature

/-- The signature of no parameters. -/
def empty : Signature :=
  ⟨⟨0, some 0⟩, [], none⟩

/-- Adds a parameter after the others. Parameters that are passed by name only are refused. -/
def add? (signature : Signature) (parameter : Parameter) : Option Signature :=
  let type := parameter.annotation.argumentType?
  match parameter.kind with
  | .variadic =>
      some ⟨⟨signature.arity.least, none⟩, signature.types, type⟩
  | .positional =>
      some
        ⟨⟨signature.arity.least + (if parameter.isOptional then 0 else 1),
            signature.arity.greatest.map (· + 1)⟩,
          signature.types ++ [type], signature.variadicType⟩
  | .namedOnly => none

/-- The signature of some parameters. -/
def ofParameters? (parameters : List Parameter) : Option Signature :=
  parameters.foldlM add? empty

/-- What the argument at an index is converted to. -/
def typeOf (signature : Signature) (index : Nat) : Option ArgumentType :=
  (signature.types[index]?).getD signature.variadicType

/-- The signature that requires arguments of the given types. -/
def required (types : List (Option ArgumentType)) : Signature :=
  ⟨⟨types.length, some types.length⟩, types, none⟩

/-- The signature that requires arguments and accepts one more. -/
def withOptional (types : List (Option ArgumentType)) (last : Option ArgumentType) : Signature :=
  ⟨⟨types.length, some (types.length + 1)⟩, types ++ [last], none⟩

/-- The signature that requires arguments and accepts any more of a type. -/
def withMore (types : List (Option ArgumentType)) (more : Option ArgumentType) : Signature :=
  ⟨⟨types.length, none⟩, types, more⟩

end Signature

end PathQuery
