import PathQuery.Xml.Draft
import PathQuery.Xml.Subset

/-! Documents read from their pieces: an outermost element with leaves and at most one document type
before it and leaves after it. Pieces that make up no well-formed document make up none, nor do
those of which a fault was found last. What follows after that matters only if no fault was found.
-/

namespace PathQuery.Xml

open Survey

/-- Surveys what stands before the outermost element. -/
def surveyStartOfDocument (isAlone : Bool) (pieces : List Piece) : Survey Doctype :=
  pieces.foldlM
    (fun doctype piece =>
      match piece with
      | .doctype written => doctype.declareAll written
      | .leaf it => do
          noteAll it.findings
          return doctype
      | _ => return doctype)
    (Doctype.absent isAlone)

/-- What becomes of the plain text of entities in values: line ends are only unified where the text
was first read in the content of an element.
-/
def Progress.form (progress : Progress) (name : String) (text : List Char) : List Char :=
  if progress.readings.lookup name = some .content then unifyLineEnds text else text

/-- The tag of an opening tag as it is written. -/
def Doctype.tagOf (doctype : Doctype) (form : String → List Char → List Char) (start : Start)
    : Tag :=
  { name := start.name
    attributes := start.ordinary.map (fun (name, parts) =>
      ⟨name, doctype.valueText form (doctype.partsOf start.name name parts)⟩)
    declarations := doctype.allDeclarationsOf start }

mutual

/-- The content that a draft stands for. -/
def Draft.toContent (doctype : Doctype) (form : String → List Char → List Char) : Draft → Content
  | .element start content => .element (doctype.tagOf form start) (contentsOf doctype form content)
  | .text content => .text content
  | .reference entity => .reference entity
  | .leaf it => .leaf it

/-- The contents that drafts stand for. -/
def contentsOf (doctype : Doctype) (form : String → List Char → List Char)
    : List Draft → List Content
  | [] => []
  | it :: rest => it.toContent doctype form :: contentsOf doctype form rest

end

/-- The document of an element and the pieces around it, unless its survey fails or finds a fault
last. The allowance is for what the texts of entities add to the document.
-/
def Document.ofDraft? (isAlone : Bool) (allowance : Nat) (before : List Piece) (start : Start)
    (content : List Draft) (after : List Piece) : Option Document := do
  if !before.all (fun piece => piece.isDoctype || piece.isMarginal) then none
  let left := after.dropWhile Piece.isMarginal
  if left.head?.any Piece.isBrokenLeaf then none
  let leavesAfter := (after.takeWhile Piece.isMarginal).filterMap Piece.leaf?
  let survey : Survey Doctype := do
    let doctype ← surveyStartOfDocument isAlone before
    doctype.surveyRoot start content
    leavesAfter.forM (fun it => noteAll it.findings)
    requireEnd left.isEmpty
    return doctype
  let (doctype, progress) ← survey (Progress.start allowance)
  if progress.findings.isAcceptable then
    some
      { before := before.filterMap Piece.leaf?
        tag := doctype.tagOf progress.form start
        content := contentsOf doctype progress.form content
        after := leavesAfter }
  else none

/-- The document that pieces make up. -/
def Document.ofPieces? (isAlone : Bool) (allowance : Nat) (pieces : List Piece)
    : Option Document := do
  let before := pieces.takeWhile (!·.isOpening)
  if 1 < before.countP Piece.isDoctype then none
  match pieces.dropWhile (!·.isOpening) with
  | .opening start isEmpty :: rest =>
      if isEmpty then ofDraft? isAlone allowance before start [] rest
      else
        match ← nest [] [] rest with
        | (content, .closing name :: after) =>
            if name = start.name.text then ofDraft? isAlone allowance before start content after
            else none
        | _ => none
  | _ => none

end PathQuery.Xml
