import PathQuery.Text.Scanner

/-! Selectors of elements as style sheets have them: compounds of conditions on single elements,
joined by how these elements stand to each other.
-/

namespace PathQuery.Selector

/-- The lexemes of selectors. Names, texts and hashes are given without escapes and marks. -/
inductive Lexeme where
  | gap
  | name (text : String)
  | hash (text : String)
  | text (content : String)
  | number (digits : String)
  | mark (it : Char)
deriving DecidableEq, Repr

/-- How the value of an attribute is compared. -/
inductive ValueTest where
  | equals
  | differs
  | hasWord
  | hasLanguage
  | beginsWith
  | endsWith
  | contains
deriving DecidableEq, Repr

/-- The name of an element or an attribute, of which each part may be left open. -/
structure NamePattern where
  qualifier : Option String
  localPart : Option String
deriving DecidableEq, Repr

mutual

/-- Conditions on a single element: a pattern for its name and further ones. -/
inductive Compound where
  | mk (name : NamePattern) (conditions : List Condition)

/-- A condition on an element. -/
inductive Condition where
  | identifier (value : String)
  | word (value : String)
  | hasAttribute (qualifier : Option String) (localPart : String)
  | comparesAttribute (qualifier : Option String) (localPart : String) (test : ValueTest)
    (value : String)
  | state (name : String)
  | function (name : String) (arguments : List Lexeme)
  | negation (inner : Compound)

end

/-- How an element stands to the one before it in a selector. -/
inductive Combinator where
  | descendant
  | child
  | nextSibling
  | laterSibling
deriving DecidableEq, Repr

/-- A chain of elements, the last of which is selected, or a part of it that is no node. -/
structure Chain where
  first : Compound
  others : List (Combinator × Compound)
  selectsPart : Bool

/-- Why a selector selects nothing: it is malformed, or there is no expression for it. -/
inductive Fault where
  | malformed
  | inexpressible
deriving DecidableEq, Repr

end PathQuery.Selector
