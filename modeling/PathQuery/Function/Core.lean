import PathQuery.Function.Library
import PathQuery.Text.Search
import PathQuery.Text.Words

/-! The core functions. Each takes the context and arguments of the types that its signature
declares; where an argument may be left out, the context node stands in for it.
-/

namespace PathQuery

namespace Core

-----------------------------------------------------------------------------------------
-- Nodes
-----------------------------------------------------------------------------------------

/-- The view of the first node of a set. -/
def firstView? (context : Context) (set : NodeSet) : Option View :=
  set.first?.bind context.forest.view?

/-- A text of the context node or of the first node of a set, empty if there is none. -/
def nameText (read : View → String) (context : Context) : List Value → Except Fault Value
  | [] => .ok (.string (((context.forest.view? context.node).map read).getD ""))
  | [.nodes set] => .ok (.string (((firstView? context set).map read).getD ""))
  | _ => .error .unintended

/-- The words that a value names elements with: those of its string, or of the string-values of
all its nodes.
-/
def idWords (context : Context) : Value → List (List Char)
  | .nodes set =>
      set.items.flatMap
        (fun node => Text.words Text.isSpace (context.forest.stringValue node).toList)
  | other => Text.words Text.isSpace (other.toText context.forest).toList

/-- The attribute that identifies an element: the one of the XML namespace before the one without
namespace.
-/
def idAttribute? (head : Head) : Option Attribute :=
  (head.attribute? ⟨some xmlUri, "id"⟩).or (head.attribute? ⟨none, "id"⟩)

/-- Whether one of the words identifies a node. -/
def isIdentifiedBy (context : Context) (words : List (List Char)) (node : Node) : Bool :=
  match (context.forest.head? node).bind idAttribute? with
  | some found => words.contains found.value.toList
  | none => false

/-- The elements of the context node's tree that a value names. -/
def id (context : Context) : List Value → Except Fault Value
  | [value] =>
      let words := idWords context value
      if words.isEmpty then .ok (.nodes ⟨[]⟩)
      else
        let below := context.forest.descendants (context.rootOf context.node)
        .ok (.nodes ⟨below.filter (isIdentifiedBy context words)⟩)
  | _ => .error .unintended

-----------------------------------------------------------------------------------------
-- Strings
-----------------------------------------------------------------------------------------

/-- The string of a value, or of the context node. -/
def string (context : Context) : List Value → Except Fault Value
  | [] => .ok (.string context.text)
  | [value] => .ok (.string (value.toText context.forest))
  | _ => .error .unintended

/-- The texts of arguments that are all strings. -/
def texts? : List Value → Option (List String)
  | [] => some []
  | .string text :: rest => (texts? rest).map (text :: ·)
  | _ :: _ => none

/-- The texts in a row. -/
def concat (_ : Context) (arguments : List Value) : Except Fault Value :=
  match texts? arguments with
  | some texts => .ok (.string (String.join texts))
  | none => .error .unintended

/-- A function of two texts. -/
def onTwoTexts (f : String → String → Value) (_ : Context) : List Value → Except Fault Value
  | [.string left, .string right] => .ok (f left right)
  | _ => .error .unintended

/-- The characters at the positions that a condition holds of, counted from one. -/
def charactersAt (condition : Number → Bool) (text : String) : String :=
  String.ofList
    ((text.toList.zipIdx 1).filterMap
      (fun (c, position) => if condition (.ofNat position) then some c else none))

/-- The characters from a rounded start on, up to a rounded length if one is given. -/
def substring (_ : Context) : List Value → Except Fault Value
  | [.string text, .number start] =>
      .ok (.string (charactersAt (start.round.atMost ·) text))
  | [.string text, .number start, .number length] =>
      let first := start.round
      let stop := first.add length.round
      .ok (.string
        (charactersAt (fun position => first.atMost position && position.less stop) text))
  | _ => .error .unintended

/-- A function of a text, or of the context node's string-value. -/
def onText (f : String → Value) (context : Context) : List Value → Except Fault Value
  | [] => .ok (f context.text)
  | [.string text] => .ok (f text)
  | _ => .error .unintended

/-- Replaces characters of a text. -/
def translate (_ : Context) : List Value → Except Fault Value
  | [.string text, .string old, .string new] => .ok (.string (Text.translate text old new))
  | _ => .error .unintended

-----------------------------------------------------------------------------------------
-- Booleans
-----------------------------------------------------------------------------------------

/-- The boolean of a value. The context node makes a node-set that is not empty. -/
def boolean (_ : Context) : List Value → Except Fault Value
  | [] => .ok (.boolean true)
  | [value] => .ok (.boolean value.toBoolean)
  | _ => .error .unintended

/-- The other boolean. -/
def not (_ : Context) : List Value → Except Fault Value
  | [.boolean truth] => .ok (.boolean !truth)
  | _ => .error .unintended

/-- The language that is declared on an element. -/
def declaredLanguage? (head : Head) : Option String :=
  (head.attribute? ⟨some xmlUri, "lang"⟩).map (·.value)

/-- Whether a language is another one or a dialect of it, whatever the case. -/
def isLanguage (declared wanted : String) : Bool :=
  let declared := Text.lower declared
  let wanted := Text.lower wanted
  declared == wanted || Text.startsWith declared (wanted ++ "-")

/-- Whether the language that is in force at the context node is the given one. The closest
declaration on the node or above it counts.
-/
def lang (context : Context) : List Value → Except Fault Value
  | [.string wanted] =>
      let nodes := context.node :: Forest.above context.node
      let declared := nodes.findSome?
        (fun node => (context.forest.head? node).bind declaredLanguage?)
      .ok (.boolean ((declared.map (isLanguage · wanted)).getD false))
  | _ => .error .unintended

-----------------------------------------------------------------------------------------
-- Numbers
-----------------------------------------------------------------------------------------

/-- The number of a value, or of the context node. -/
def number (context : Context) : List Value → Except Fault Value
  | [] => .ok (.number ((Value.nodes ⟨[context.node]⟩).toNumber context.forest))
  | [value] => .ok (.number (value.toNumber context.forest))
  | _ => .error .unintended

/-- A function of a number. -/
def onNumber (f : Number → Number) (_ : Context) : List Value → Except Fault Value
  | [.number it] => .ok (.number (f it))
  | _ => .error .unintended

/-- How many nodes there are. -/
def count (_ : Context) : List Value → Except Fault Value
  | [.nodes set] => .ok (.number (.ofNat set.size))
  | _ => .error .unintended

/-- The sum of the numbers of all nodes: plainly from left to right in document order, rounded after
each one, so that what rounding loses is not made up for.
-/
def sum (context : Context) : List Value → Except Fault Value
  | [.nodes set] =>
      .ok (.number
        (set.items.foldl (fun total node => total.add (.ofText (context.forest.stringValue node)))
          (.zero false)))
  | _ => .error .unintended

/-- A value that depends on the context alone. -/
def constant (f : Context → Value) (context : Context) : List Value → Except Fault Value
  | [] => .ok (f context)
  | _ => .error .unintended

end Core

-----------------------------------------------------------------------------------------
-- The library
-----------------------------------------------------------------------------------------

/-- A function that returns a value. -/
def Function.ofValue (signature : Signature) (run : Context → List Value → Except Fault Value)
    : Function :=
  ⟨signature, fun context arguments => (run context arguments).map Datum.ofValue⟩

open Signature in
/-- The core functions by their names. -/
def Library.core : Library :=
  ⟨[("last", .ofValue (required []) (Core.constant fun context => .number (.ofNat context.size))),
    ("position",
      .ofValue (required []) (Core.constant fun context => .number (.ofNat context.position))),
    ("count", .ofValue (required [some .nodes]) Core.count),
    ("id", .ofValue (required [none]) Core.id),
    ("local-name", .ofValue (withOptional [] (some .nodes)) (Core.nameText View.localPart)),
    ("namespace-uri",
      .ofValue (withOptional [] (some .nodes)) (Core.nameText fun view => view.uri.getD "")),
    ("name", .ofValue (withOptional [] (some .nodes)) (Core.nameText View.qualifiedName)),
    ("string", .ofValue (withOptional [] none) Core.string),
    ("concat", .ofValue (withMore [some .string, some .string] (some .string)) Core.concat),
    ("starts-with",
      .ofValue (required [some .string, some .string])
        (Core.onTwoTexts fun text part => .boolean (Text.startsWith text part))),
    ("contains",
      .ofValue (required [some .string, some .string])
        (Core.onTwoTexts fun text part => .boolean (Text.contains text part))),
    ("substring-before",
      .ofValue (required [some .string, some .string])
        (Core.onTwoTexts fun text part => .string (Text.before text part))),
    ("substring-after",
      .ofValue (required [some .string, some .string])
        (Core.onTwoTexts fun text part => .string (Text.after text part))),
    ("substring",
      .ofValue (withOptional [some .string, some .number] (some .number)) Core.substring),
    ("string-length",
      .ofValue (withOptional [] (some .string))
        (Core.onText fun text => .number (.ofNat text.length))),
    ("normalize-space",
      .ofValue (withOptional [] (some .string))
        (Core.onText fun text => .string (Text.normalizeSpace text))),
    ("translate",
      .ofValue (required [some .string, some .string, some .string]) Core.translate),
    ("boolean", .ofValue (withOptional [] none) Core.boolean),
    ("not", .ofValue (required [some .boolean]) Core.not),
    ("true", .ofValue (required []) (Core.constant fun _ => .boolean true)),
    ("false", .ofValue (required []) (Core.constant fun _ => .boolean false)),
    ("lang", .ofValue (required [some .string]) Core.lang),
    ("number", .ofValue (withOptional [] none) Core.number),
    ("sum", .ofValue (required [some .nodes]) Core.sum),
    ("floor", .ofValue (required [some .number]) (Core.onNumber Number.floor)),
    ("ceiling", .ofValue (required [some .number]) (Core.onNumber Number.ceiling)),
    ("round", .ofValue (required [some .number]) (Core.onNumber Number.round))]⟩

end PathQuery
