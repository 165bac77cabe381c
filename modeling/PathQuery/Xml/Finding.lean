/-! What can be found about a document that is no violation of its grammar. Findings are weighed
one after the other; the last one that was recorded decides whether a document is good enough.
-/

namespace PathQuery.Xml

/-- How much a finding matters: a notice alone does no harm. -/
inductive Finding where
  | notice
  | fault
deriving DecidableEq, Repr

/-- What is kept of the findings about a document. -/
structure Findings where
  notices : Nat
  faults : Nat
  last? : Option Finding
deriving DecidableEq, Repr

namespace Findings

/-- How many findings of a kind are recorded at most. -/
def limit : Nat :=
  100

/-- What is kept when nothing was found. -/
def empty : Findings :=
  ⟨0, 0, none⟩

/-- Records a finding, unless too many of its kind were recorded before. -/
def add (findings : Findings) : Finding → Findings
  | .notice =>
      if findings.notices < limit then ⟨findings.notices + 1, findings.faults, some .notice⟩
      else findings
  | .fault =>
      if findings.faults < limit then ⟨findings.notices, findings.faults + 1, some .fault⟩
      else findings

/-- Whether a document with these findings is accepted. -/
def isAcceptable (findings : Findings) : Bool :=
  findings.last? != some .fault

end Findings

end PathQuery.Xml
