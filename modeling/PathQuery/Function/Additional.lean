import PathQuery.Function.Core

/-! Functions beside the core ones: whether the context node is the last one, lower-casing, the
local names of nodes, and the elements right below the context node.
-/

namespace PathQuery

namespace Additional

/-- Whether the context node is at the last position. -/
def isLast (context : Context) : List Value → Except Fault Datum
  | [] => .ok (.boolean (context.position == context.size))
  | _ => .error .unintended

/-- The lower-case form of a text. -/
def lowercase (_ : Context) : List Value → Except Fault Datum
  | [.string text] => .ok (.text (Text.lower text))
  | _ => .error .unintended

/-- The local names of nodes with spaces between them. -/
def localNames (context : Context) : List Value → Except Fault Datum
  | [.nodes set] =>
      .ok (.text (Text.joinWith " "
        (set.items.map fun node =>
          ((context.forest.view? node).map View.localPart).getD "")))
  | _ => .error .unintended

/-- The elements right below the context node, as a list of nodes. -/
def elementChildren (context : Context) : List Value → Except Fault Datum
  | [] =>
      .ok (.list
        (((context.forest.below context.node).filter
          (fun node => (context.forest.head? node).isSome)).map .node))
  | _ => .error .unintended

end Additional

open Signature in
/-- The core functions and the additional ones. -/
def Library.extended : Library :=
  ⟨Library.core.entries ++
    [("is-last", ⟨required [], Additional.isLast⟩),
      ("lowercase", ⟨required [some .string], Additional.lowercase⟩),
      ("local-names", ⟨required [some .nodes], Additional.localNames⟩),
      ("element-children", ⟨required [], Additional.elementChildren⟩)]⟩

end PathQuery
