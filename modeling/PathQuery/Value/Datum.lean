import PathQuery.Text.Search
import PathQuery.Tree.Describe
import PathQuery.Value.Basic

/-! Data of the calling program: what callers hand over as context, variable or result of a
function before it is known to be a value. Nodes, texts, numbers and booleans become values; other
data are refused with a description.
-/

namespace PathQuery

/-- A datum of the calling program. -/
inductive Datum where
  | null
  | boolean (truth : Bool)
  | integer (value : Int)
  | number (value : Number)
  | text (content : String)
  | list (items : List Datum)
  | mapping (entries : List (Option String × Datum))
  | node (it : Node)
  | nodes (set : NodeSet)
deriving Inhabited

/-- A character within single quotes. -/
def escapeChar (c : Char) : String :=
  if c = '\n' then "\\n"
  else if c = '\r' then "\\r"
  else if c = '\t' then "\\t"
  else if c = '\\' then "\\\\"
  else String.singleton c

/-- A text in quotes, double ones if it holds single ones only. -/
def quoteText (text : String) : String :=
  let characters := text.toList
  let double := characters.contains '\x27' && !characters.contains '\x22'
  let quote := if double then '\x22' else '\x27'
  let inner := characters.map (fun c =>
    if c = quote then "\\" ++ String.singleton c else escapeChar c)
  String.singleton quote ++ String.join inner ++ String.singleton quote

/-- A key of a mapping; the key for what has no name is a constant. -/
def describeKey : Option String → String
  | none => "None"
  | some text => quoteText text

/-- Texts in brackets with commas between them. -/
def bracketed (texts : List String) : String :=
  "[" ++ Text.joinWith ", " texts ++ "]"

mutual

/-- How a datum appears in messages. -/
def Datum.describe (forest : Forest) : Datum → String
  | .null => "None"
  | .boolean truth => if truth then "True" else "False"
  | .integer value => toString value
  | .number value => value.toLiteral
  | .text content => quoteText content
  | .list items => bracketed (Datum.describeAll forest items)
  | .mapping entries =>
      "\x7b" ++ Text.joinWith ", " (Datum.describeEntries forest entries) ++ "\x7d"
  | .node it => forest.describe it
  | .nodes set => "<NodeSet: " ++ bracketed (set.items.map forest.describe) ++ ">"

/-- How the items of a list appear. -/
def Datum.describeAll (forest : Forest) : List Datum → List String
  | [] => []
  | item :: rest => item.describe forest :: Datum.describeAll forest rest

/-- How the entries of a mapping appear. -/
def Datum.describeEntries (forest : Forest) : List (Option String × Datum) → List String
  | [] => []
  | (key, item) :: rest =>
      (describeKey key ++ ": " ++ item.describe forest) :: Datum.describeEntries forest rest

end

/-- Why a datum is no value: `unlocated` stands for nodes that their trees do not have. -/
inductive DatumFault where
  | noValue (description : String)
  | noNodes (description : String)
  | tooLarge
  | unlocated
deriving DecidableEq, Repr

/-- The wording of a refusal. An integer beyond all numbers and unlocated nodes have none. -/
def DatumFault.message? : DatumFault → Option String
  | .noValue description => some (description ++ " can't be used as XPath value.")
  | .noNodes description =>
      some ("Only nodes can be contained in a node-set, got " ++ description ++ ".")
  | .tooLarge => none
  | .unlocated => none

namespace Datum

/-- The node that a datum is. -/
def node? : Datum → Option Node
  | .node it => some it
  | _ => none

/-- What a mapping gives when it is iterated over. -/
def ofKey : Option String → Datum
  | none => .null
  | some key => .text key

/-- The data that a datum gives when it is iterated over: a text gives its characters, and a
mapping its keys.
-/
def iterate? : Datum → Option (List Datum)
  | .text content => some (content.toList.map (fun c => .text (String.singleton c)))
  | .list items => some items
  | .mapping entries => some (entries.map (fun entry => ofKey entry.1))
  | .nodes set => some (set.items.map .node)
  | _ => none

/-- The node-set of data that are all nodes. -/
def nodeSetOf (forest : Forest) (items : List Datum) : Except DatumFault Value :=
  let others := items.filter (fun item => item.node?.isNone)
  if others.isEmpty then
    match NodeSet.ofNodes? forest (items.filterMap node?) with
    | some set => .ok (.nodes set)
    | none => .error .unlocated
  else .error (.noNodes (bracketed (others.map (describe forest))))

/-- The value that a datum stands for. Integers become numbers; a node, or data that are all
nodes, becomes a node-set.
-/
def toValue (forest : Forest) : Datum → Except DatumFault Value
  | .null => .error (.noValue (describe forest .null))
  | .boolean truth => .ok (.boolean truth)
  | .integer value =>
      if (Number.ofInt value).isFinite then .ok (.number (.ofInt value)) else .error .tooLarge
  | .number value => .ok (.number value)
  | .text content => .ok (.string content)
  | .list items => nodeSetOf forest items
  | .mapping entries => nodeSetOf forest (entries.map (fun entry => ofKey entry.1))
  | .node it => .ok (.nodes ⟨[it]⟩)
  | .nodes set => .ok (.nodes set)

/-- The datum of a value. -/
def ofValue : Value → Datum
  | .nodes set => .nodes set
  | .string content => .text content
  | .number it => .number it
  | .boolean truth => .boolean truth

/-- The value that a datum is without conversion. -/
def value? : Datum → Option Value
  | .boolean truth => some (.boolean truth)
  | .number value => some (.number value)
  | .text content => some (.string content)
  | .nodes set => some (.nodes set)
  | _ => none

end Datum

end PathQuery
