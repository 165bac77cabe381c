import PathQuery.Evaluation
import PathQuery.Expr.Parser

/-! Queries: what callers hand over is checked part by part, then the expression is read and
evaluated. The first fault counts, in the order in which the parts are checked.
-/

namespace PathQuery

/-- The options that a caller hands over. -/
inductive GivenOptions where
  | absent
  | options (it : Options)
  | other
deriving DecidableEq, Repr

/-- A query as a caller makes it. -/
structure Query where
  context : Datum
  expression : Datum
  namespaces : Datum
  values : Datum
  options : GivenOptions

/-- Why a query has no answer. -/
inductive QueryFault where
  | noText
  | noContext
  | emptyContext
  | noNode (description : String)
  | noNamespaces
  | namespaces (fault : BindingsFault)
  | noVariables
  | values (fault : DatumFault)
  | noOptions
  | parse (fault : ParseFault) (source : String)
  | evaluation (fault : Fault)
  | noNodeSet (expression type : String)
deriving DecidableEq, Repr

/-- The wording of a fault, if it has one. -/
def QueryFault.message? : QueryFault → Option String
  | .noText => some "The expression must be a string."
  | .noContext => some "A node or an iterable of nodes is required as context."
  | .emptyContext => some "At least one context node is required."
  | .noNode description => some (description ++ " is not a node.")
  | .noNamespaces => some "The namespaces must be given as mapping."
  | .namespaces fault => some fault.message
  | .noVariables => some "The variables must be given as mapping."
  | .values fault => fault.message?
  | .noOptions => some "The options must be given as QueryOptions instance."
  | .parse (.malformed fault) source => some (fault.message source)
  | .parse (.call fault) _ => some fault.message
  | .evaluation fault => fault.message?
  | .noNodeSet expression type =>
      some ("The expression `" ++ expression ++ "` evaluates to a " ++ type
        ++ ", not to a node-set.")

namespace Query

/-- A query for an expression from one node. -/
def plain (node : Node) (source : String) : Query :=
  { context := .node node, expression := .text source, namespaces := .null, values := .null,
    options := .absent }

-----------------------------------------------------------------------------------------
-- Checks of the parts
-----------------------------------------------------------------------------------------

/-- The nodes of data that must all be nodes. -/
def allNodes (forest : Forest) : List Datum → Except QueryFault (List Node)
  | [] => .ok []
  | .node it :: rest => do
      let others ← allNodes forest rest
      .ok (it :: others)
  | other :: _ => .error (.noNode (other.describe forest))

/-- The context nodes, each once: a node alone, or what can be iterated over. -/
def contextNodes (forest : Forest) (datum : Datum) : Except QueryFault (List Node) :=
  match datum with
  | .node it => .ok [it]
  | other =>
      match other.iterate? with
      | none => .error .noContext
      | some [] => .error .emptyContext
      | some items => (allNodes forest items).map List.eraseDups

/-- The namespaces of a mapping; nothing stands for none but the fixed ones. -/
def bindingsOf (datum : Datum) : Except QueryFault Bindings :=
  match datum with
  | .null => .ok .initial
  | .mapping entries =>
      match Bindings.ofDeclarations? entries with
      | .ok bindings => .ok bindings
      | .error fault => .error (.namespaces fault)
  | _ => .error .noNamespaces

/-- The values of variables. -/
def valuesOfEntries (forest : Forest)
    : List (Option String × Datum) → Except QueryFault (List (String × Value))
  | [] => .ok []
  | (name, datum) :: rest =>
      match datum.toValue forest with
      | .error fault => .error (.values fault)
      | .ok value => do
          let others ← valuesOfEntries forest rest
          .ok (match name with
            | some name => (name, value) :: others
            | none => others)

/-- The variables of a mapping; nothing stands for none. -/
def valuesOf (forest : Forest) (datum : Datum) : Except QueryFault (List (String × Value)) :=
  match datum with
  | .null => .ok []
  | .mapping entries => valuesOfEntries forest entries
  | _ => .error .noVariables

/-- The options, or the standard ones. -/
def optionsOf : GivenOptions → Except QueryFault Options
  | .absent => .ok .standard
  | .options it => .ok it
  | .other => .error .noOptions

-----------------------------------------------------------------------------------------
-- Answers
-----------------------------------------------------------------------------------------

/-- What the parts of a query stand for, its expression aside. -/
structure Surroundings where
  nodes : List Node
  bindings : Bindings
  values : List (String × Value)
  options : Options

/-- Checks the parts of a query, its expression aside. -/
def surroundings (forest : Forest) (query : Query) : Except QueryFault Surroundings := do
  let nodes ← contextNodes forest query.context
  let bindings ← bindingsOf query.namespaces
  let values ← valuesOf forest query.values
  let options ← optionsOf query.options
  .ok { nodes, bindings, values, options }

/-- Evaluates an expression from the context nodes, the first of which is the context node at the
only position. Origins that the evaluation makes get the stamp.
-/
def evaluateIn (library : Library) (forest : Forest) (stamp : Nat) (around : Surroundings)
    (expression : Expr) : Except QueryFault Value :=
  match around.nodes with
  | [] => .error .emptyContext
  | node :: _ =>
      let context : Context :=
        { forest, stamp, node, position := 1, size := 1, bindings := around.bindings,
          values := around.values, options := around.options }
      match expression.evaluate library context around.nodes with
      | .ok value => .ok value
      | .error fault => .error (.evaluation fault)

/-- The value of a query. -/
def evaluate (library : Library) (forest : Forest) (stamp : Nat) (query : Query)
    : Except QueryFault Value := do
  match query.expression with
  | .text source => do
      let around ← surroundings forest query
      match Expression.ofText library.arityOf source with
      | .error fault => .error (.parse fault source)
      | .ok expression => evaluateIn library forest stamp around expression.root
  | _ => .error .noText

/-- The value of a query, where a node-set becomes the string-value of its first node. -/
def evaluateScalar (library : Library) (forest : Forest) (stamp : Nat) (query : Query)
    : Except QueryFault Value := do
  let value ← evaluate library forest stamp query
  match value with
  | .nodes set => .ok (.string ((Value.nodes set).toText forest))
  | other => .ok other

/-- The name of a type of values that are no node-sets. -/
def typeName : Value → String
  | .nodes _ => "NodeSet"
  | .string _ => "str"
  | .number _ => "float"
  | .boolean _ => "bool"

/-- The text of the expression. -/
def source (query : Query) : String :=
  match query.expression with
  | .text source => source
  | _ => ""

/-- The node-set of a query, which must have one. -/
def select (library : Library) (forest : Forest) (stamp : Nat) (query : Query)
    : Except QueryFault NodeSet := do
  let value ← evaluate library forest stamp query
  match value with
  | .nodes set => .ok set
  | other => .error (.noNodeSet query.source (typeName other))

/-- The first node of a query in document order. -/
def first? (library : Library) (forest : Forest) (stamp : Nat) (query : Query)
    : Except QueryFault (Option Node) :=
  (select library forest stamp query).map NodeSet.first?

/-- The expression that a query has if its caller gives none. -/
def defaultExpression : Datum :=
  .text "*"

end Query

end PathQuery
