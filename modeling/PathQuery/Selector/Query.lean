import PathQuery.Query
import PathQuery.Selector.Expression

/-! The elements that a selector selects below context nodes. The selector is read before anything
else is looked at.
-/

namespace PathQuery

/-- Why a selector selects nothing. -/
inductive SelectFault where
  | selector (fault : Selector.Fault)
  | query (fault : QueryFault)
deriving DecidableEq, Repr

/-- The elements below the context nodes of a query that a selector selects. Its own expression does
not matter.
-/
def Query.selectElements (library : Library) (forest : Forest) (stamp : Nat) (query : Query)
    (selector : String) : Except SelectFault NodeSet :=
  match Selector.toExpr selector with
  | .error fault => .error (.selector fault)
  | .ok expression =>
      let value := do
        let around ← surroundings forest query
        evaluateIn library forest stamp around expression
      match value with
      | .ok (.nodes set) => .ok set
      | .ok other => .error (.query (.noNodeSet query.source (typeName other)))
      | .error fault => .error (.query fault)

end PathQuery
