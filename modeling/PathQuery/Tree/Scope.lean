import PathQuery.Tree.Basic

/-! The namespaces in scope of an element. Declarations are merged from the outermost element
inwards, so that the innermost one of a qualifier wins; an empty default namespace is then
dropped, which leaves the default undeclared.
-/

namespace PathQuery

/-- Sets the value of a key: the entry keeps its place if there is one, else it comes last. -/
def assign {α β : Type} [BEq α] (entries : List (α × β)) (key : α) (value : β)
    : List (α × β) :=
  if entries.any (·.1 == key) then
    entries.map (fun entry => if entry.1 == key then (key, value) else entry)
  else entries ++ [(key, value)]

/-- Sets several entries, one after the other. -/
def assignAll {α β : Type} [BEq α] (entries more : List (α × β)) : List (α × β) :=
  more.foldl (fun merged entry => assign merged entry.1 entry.2) entries

/-- The namespaces in scope below the given heads, the outermost of which comes first. -/
def scopeOf (heads : List Head) : List (String × String) :=
  let merged := heads.foldl (fun scope head => assignAll scope head.declarations)
    [(xmlQualifier, xmlUri)]
  merged.filter (fun entry => !(entry.1.isEmpty && entry.2.isEmpty))

/-- Entries sorted by their qualifiers, by code points. -/
def sortByQualifier (entries : List (String × String)) : List (String × String) :=
  entries.mergeSort (fun left right => !decide (right.1 < left.1))

namespace Top

/-- The namespaces in scope of the element that a path leads to; other nodes have none. -/
def scopeAt (top : Top) (path : List Nat) : List (String × String) :=
  match (top.at? path).bind Item.head? with
  | some _ => scopeOf (top.headsAlong path)
  | none => []

/-- The namespaces in scope in the order of the nodes that stand for them, as an element makes these
nodes when it is asked for them in this tree; see `Session.ask` for one that made them before.
-/
def bindingsAt (top : Top) (path : List Nat) : List (String × String) :=
  sortByQualifier (top.scopeAt path)

/-- The attributes of the element that a path leads to; other nodes have none. -/
def attributesAt (top : Top) (path : List Nat) : List Attribute :=
  match (top.at? path).bind Item.head? with
  | some head => head.attributes
  | none => []

end Top

end PathQuery
