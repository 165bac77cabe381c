import PathQuery.Expr.Basic
import PathQuery.Function.Library
import PathQuery.Value.Comparison

/-! Evaluation of expressions. Relative paths start from given nodes, in predicates from the context
node. Each step keeps, for every node, those on its axis that pass the test and the predicates, in
axis order, and joins them in document order.
-/

namespace PathQuery

-----------------------------------------------------------------------------------------
-- Node tests
-----------------------------------------------------------------------------------------

/-- Whether a node has the namespace of a qualifier. Without one, an element must have the
default namespace and any other node none. An undeclared qualifier is looked for among the
namespaces in scope of the element that the node is or that an attribute belongs to.
-/
def namespaceMatches (context : Context) (qualifier : Option String) (node : Node)
    (view : View) : Bool :=
  match qualifier with
  | none => view.uri == if view.kind = .element then context.bindings.default? else none
  | some text =>
      match context.bindings.get? text with
      | some uri => view.uri == some uri
      | none =>
          let element? :=
            if view.kind = .attributeKind then (Forest.above node).head? else some node
          match element?.bind (fun element =>
              (context.forest.scope element).find? (·.1 == text)) with
          | some entry => view.uri == some entry.2
          | none => false

namespace NodeTest

/-- The qualifier of a name test. -/
def qualifier? : NodeTest → Option String
  | .anyName qualifier => qualifier
  | .name qualifier _ => qualifier
  | _ => none

/-- Whether a node that is seen through a view passes a test on an axis with a principal kind of
nodes.
-/
def passes (context : Context) (principal : Kind) (node : Node) (view : View)
    : NodeTest → Except Fault Bool
  | .anyName none => .ok (view.kind = principal)
  | .anyName (some qualifier) =>
      .ok (view.kind = principal && namespaceMatches context (some qualifier) node view)
  | .name qualifier localPart =>
      .ok (view.kind = principal && view.localPart == localPart
        && namespaceMatches context qualifier node view)
  | .nodeType typeName =>
      if typeName = "node" then .ok true
      else if typeName = "text" then .ok (view.kind = .text)
      else if typeName = "comment" then .ok (view.kind = .comment)
      else .error .unintended
  | .instruction target =>
      .ok (view.kind = .instruction && (target.isNone || target == some view.localPart))

/-- Whether a node passes a test. -/
def holds (test : NodeTest) (context : Context) (principal : Kind) (node : Node)
    : Except Fault Bool :=
  match context.forest.view? node with
  | some view => test.passes context principal node view
  | none => .ok false

/-- The qualifier that a test names without being declared, where that is refused. -/
def undeclared? (test : NodeTest) (context : Context) : Option String :=
  if context.options.strictNamespaces then
    test.qualifier?.filter (fun text => !text.isEmpty && !context.bindings.contains text)
  else none

end NodeTest

-----------------------------------------------------------------------------------------
-- Parts of evaluation
-----------------------------------------------------------------------------------------

/-- Keeps the nodes for which a check succeeds that is given their positions. -/
def keepNodes (check : Nat → Node → Except Fault Bool) (position : Nat)
    : List Node → Except Fault (List Node)
  | [] => .ok []
  | node :: rest => do
      let kept ← check position node
      let others ← keepNodes check (position + 1) rest
      .ok (if kept then node :: others else others)

/-- The results for all nodes, one after the other. -/
def forEachNode (select : Node → Except Fault (List Node)) : List Node → Except Fault (List Node)
  | [] => .ok []
  | node :: rest => do
      let selected ← select node
      let others ← forEachNode select rest
      .ok (selected ++ others)

/-- Whether the value of a predicate accepts the node at a position: a number does at the
position that it equals.
-/
def Value.acceptsAt (position : Nat) : Value → Bool
  | .number it => it.equals (.ofNat position)
  | other => other.toBoolean

/-- The node-set that is wanted somewhere. -/
def Value.asNodes (wanted : NodesWanted) : Value → Except Fault NodeSet
  | .nodes set => .ok set
  | _ => .error (.noNodes wanted)

/-- The conversions of values by the names of the types that they give. -/
def conversions (forest : Forest) : List (String × (Value → Value)) :=
  [("boolean", fun value => .boolean value.toBoolean),
    ("number", fun value => .number (value.toNumber forest)),
    ("string", fun value => .string (value.toText forest))]

/-- The conversion to the type with a name. -/
def conversion? (forest : Forest) (typeName : String) : Option (Value → Value) :=
  ((conversions forest).find? (·.1 == typeName)).map Prod.snd

/-- An argument as the function requires it. -/
def Value.asArgument (forest : Forest) (name : String) (index : Nat) (value : Value)
    : Option ArgumentType → Except Fault Value
  | none => .ok value
  | some .nodes => (value.asNodes (.argument index name)).map .nodes
  | some type => do
      let convert ← Table.conversions.expect type.name (conversion? forest type.name)
      .ok (convert value)

/-- Calls a function and makes a value of what it returns. -/
def Function.call (function : Function) (context : Context) (arguments : List Value)
    : Except Fault Value := do
  let datum ← function.run context arguments
  match datum.toValue context.forest with
  | .ok value => .ok value
  | .error fault => .error (.result fault)

/-- The nodes on an axis that pass a test, in axis order. -/
def candidates (context : Context) (axis : Axis) (test : NodeTest) (node : Node)
    : Except Fault (List Node) :=
  match context.onAxis? axis node with
  | some nodes => keepNodes (fun _ => test.holds context axis.principal) 1 nodes
  | none => .error .loneNode

/-- Nodes in document order, each once. -/
def inOrder (context : Context) (nodes : List Node) : Except Fault (List Node) :=
  match context.forest.sorted? nodes with
  | some sorted => .ok sorted
  | none => .error .unlocated

/-- The nodes that a path starts from: those given, or the roots of their trees. -/
def startNodes (context : Context) (absolute : Bool) (nodes : List Node)
    : Except Fault (List Node) :=
  if absolute then inOrder context (nodes.map context.rootOf) else .ok nodes

-----------------------------------------------------------------------------------------
-- Expressions
-----------------------------------------------------------------------------------------

mutual

/-- The value of an expression in a context, where relative paths start from some nodes. -/
def Expr.evaluate (library : Library) (context : Context) (start : List Node)
    : Expr → Except Fault Value
  | .path absolute steps => do
      let first ← startNodes context absolute start
      let nodes ← Step.follow library context steps first
      .ok (.nodes ⟨nodes⟩)
  | .binary operator left right =>
      if operator = "or" then do
        let first ← left.evaluate library context start
        if first.toBoolean then .ok (.boolean true)
        else do
          let second ← right.evaluate library context start
          .ok (.boolean second.toBoolean)
      else if operator = "and" then do
        let first ← left.evaluate library context start
        if first.toBoolean then do
          let second ← right.evaluate library context start
          .ok (.boolean second.toBoolean)
        else .ok (.boolean false)
      else if (Comparison.ofSymbol? operator).isSome then do
        let first ← left.evaluate library context start
        let second ← right.evaluate library context start
        let outcome ← Comparison.compare context.forest operator first second
        .ok (.boolean outcome)
      else do
        let operation ← Table.operations.expect operator (Operation.ofSymbol? operator)
        let first ← left.evaluate library context start
        let second ← right.evaluate library context start
        .ok (.number
          (operation.apply (first.toNumber context.forest) (second.toNumber context.forest)))
  | .negate operand => do
      let value ← operand.evaluate library context start
      .ok (.number (value.toNumber context.forest).negate)
  | .number value => .ok (.number value)
  | .string value => .ok (.string value)
  | .reference name =>
      match context.valueOf? name with
      | some value => .ok value
      | none => .error (.unboundVariable name)
  | .call name list =>
      match library.findFor name list.length with
      | .error fault => .error (.call fault)
      | .ok function => do
          let values ← Expr.arguments library context start name function.signature 0 list
          function.call context values
  | .union left right => do
      let first ← left.evaluate library context start
      let second ← right.evaluate library context start
      let these ← first.asNodes .unionOperands
      let those ← second.asNodes .unionOperands
      let nodes ← inOrder context (these.items ++ those.items)
      .ok (.nodes ⟨nodes⟩)
  | .filter primary predicates => do
      let value ← primary.evaluate library context start
      let set ← value.asNodes .filterOperand
      let nodes ← Expr.restrict library context predicates set.items
      .ok (.nodes ⟨nodes⟩)
  | .continued first steps => do
      let value ← first.evaluate library context start
      let set ← value.asNodes .pathStart
      let nodes ← Step.follow library context steps set.items
      .ok (.nodes ⟨nodes⟩)

/-- The values of arguments, each converted before the next one is evaluated. -/
def Expr.arguments (library : Library) (context : Context) (start : List Node) (name : String)
    (signature : Signature) (index : Nat) : List Expr → Except Fault (List Value)
  | [] => .ok []
  | argument :: rest => do
      let value ← argument.evaluate library context start
      let converted ← value.asArgument context.forest name index (signature.typeOf index)
      let others ← Expr.arguments library context start name signature (index + 1) rest
      .ok (converted :: others)

/-- The nodes that pass all predicates. Each one counts the nodes that passed those before. -/
def Expr.restrict (library : Library) (context : Context)
    : List Expr → List Node → Except Fault (List Node)
  | [], nodes => .ok nodes
  | predicate :: rest, nodes => do
      let kept ← keepNodes
        (fun position node => do
          let value ← predicate.evaluate library (context.focus node position nodes.length)
            [node]
          .ok (value.acceptsAt position))
        1 nodes
      Expr.restrict library context rest kept

/-- The nodes that a step leads to from some nodes. -/
def Step.take (library : Library) (context : Context)
    : Step → List Node → Except Fault (List Node)
  | .mk axisName test predicates, nodes => do
      let axis ← Table.axes.expect axisName (Axis.ofName? axisName)
      match test.undeclared? context with
      | some qualifier => .error (.unboundNamespace qualifier)
      | none => do
          let selected ← forEachNode
            (fun node => do
              let passing ← candidates context axis test node
              Expr.restrict library context predicates passing)
            nodes
          inOrder context selected

/-- The nodes that steps lead to, one after the other. -/
def Step.follow (library : Library) (context : Context)
    : List Step → List Node → Except Fault (List Node)
  | [], nodes => .ok nodes
  | step :: rest, nodes => do
      let reached ← step.take library context nodes
      Step.follow library context rest reached

end

end PathQuery
