import PathQuery.Xml.Doctype

/-! Surveys of documents: what has been found so far, which identifiers are taken, and how much the
texts of entities add to a document. A survey fails where a document is not well-formed or where
its entities make it grow too much.
-/

namespace PathQuery.Xml

/-- Where the text of an entity was read first: in a value or in the content of an element. -/
inductive Reading where
  | value
  | content
deriving DecidableEq, Repr

/-- What is known in the middle of a survey. The growth counts the references on the present level,
and may not exceed the allowance.
-/
structure Progress where
  findings : Findings
  identifiers : List String
  readings : List (String × Reading)
  inValues : List String
  sizes : List (String × Nat)
  growth : Nat
  allowance : Nat
deriving DecidableEq, Repr

/-- What is known at the start, with an allowance for growth. -/
def Progress.start (allowance : Nat) : Progress :=
  ⟨.empty, [], [], [], [], 0, allowance⟩

/-- A survey that leads to a value. -/
abbrev Survey (α : Type) :=
  StateT Progress Option α

namespace Survey

/-- Records a finding. -/
def note (finding : Finding) : Survey Unit :=
  modify (fun progress => { progress with findings := progress.findings.add finding })

/-- Records findings in order. -/
def noteAll (findings : List Finding) : Survey Unit :=
  findings.forM note

/-- Records a fault unless a condition holds. -/
def expect (isGood : Bool) : Survey Unit :=
  if isGood then return else note .fault

/-- Goes on only if a condition holds. -/
def require (isGood : Bool) : Survey Unit :=
  if isGood then return else failure

/-- Goes on only at the end of a text. Once a fault was found, what is left does not matter. -/
def requireEnd (isEnd : Bool) : Survey Unit := do
  require (isEnd || 0 < (← get).findings.faults)

/-- Takes an identifier for one element. An empty one cannot be taken. -/
def identify (identifier : String) : Survey Unit := do
  let progress ← get
  if identifier.isEmpty || progress.identifiers.contains identifier then note .fault
  else set { progress with identifiers := identifier :: progress.identifiers }

/-- What a reference costs beside the text that it stands for. -/
def referenceCost : Nat :=
  20

/-- The number of bytes of a text. -/
def bytesOf (text : List Char) : Nat :=
  (String.ofList text).utf8ByteSize

/-- Counts a reference to something of a size. -/
def grow (size : Nat) : Survey Unit := do
  let progress ← get
  let growth := progress.growth + size + referenceCost
  require (growth ≤ progress.allowance)
  set { progress with growth }

/-- Reads the text of an entity, counts its references apart from those around, and remembers where
it was read.
-/
def within (name : String) (text : List Char) (reading : Reading) (inside : Survey Unit)
    : Survey Unit := do
  let outer := (← get).growth
  modify (fun progress => { progress with growth := 0 })
  inside
  modify (fun progress =>
    { progress with
      readings := progress.readings ++ [(name, reading)]
      sizes := progress.sizes ++ [(name, bytesOf text + progress.growth)]
      growth := outer })

/-- Counts a reference to an entity that was read. -/
def growBy (name : String) : Survey Unit := do
  grow (((← get).sizes.lookup name).getD 0)

end Survey

namespace Doctype

open Survey

/-- What an entity of a name is. It may be unknown if there can be other declarations. -/
def find (doctype : Doctype) (name : String) : Survey (Option Entity) := do
  match doctype.entity? name with
  | some it => return some it
  | none => do
      require doctype.isOpen
      note .notice
      return none

/-- The text of an entity in a value, which holds no tags. -/
def findText (doctype : Doctype) (name : String) : Survey (Option (List Char)) := do
  match ← doctype.find name with
  | none => return none
  | some (.internal text) => do
      require (!text.contains '<')
      return some text
  | some _ => failure

/-- Surveys a reference in a value, where other entities are nested up to a depth. A text is only
looked at once.
-/
def surveyInValue (doctype : Doctype) (depth : Nat) (name : String) : Survey Unit := do
  match ← doctype.findText name with
  | none => return
  | some text => do
      if !(← get).inValues.contains name then
        match depth with
        | 0 => failure
        | depth + 1 => do
            let parts ← ValuePart.ofText? text
            within name text .value ((ValuePart.entities parts).forM (doctype.surveyInValue depth))
            modify (fun progress => { progress with inValues := name :: progress.inValues })
      growBy name

/-- Surveys a reference in the name of a namespace, where texts are looked at each time. -/
def surveyInNamespace (doctype : Doctype) (depth : Nat) (name : String) : Survey Unit := do
  match ← doctype.findText name with
  | none => return
  | some text =>
      match depth with
      | 0 => failure
      | depth + 1 => do
          grow (bytesOf text)
          let parts ← ValuePart.ofText? text
          (ValuePart.entities parts).forM (doctype.surveyInNamespace depth)

end Doctype

end PathQuery.Xml
