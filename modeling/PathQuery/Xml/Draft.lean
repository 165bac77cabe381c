import PathQuery.Xml.Opening

/-! Balanced content as it is written: pieces put together so that tags match. Surveying such
content goes through it in order, and into the text of an entity at the first reference to it.
-/

namespace PathQuery.Xml

open Survey

/-- What elements contain, with tags and values as they are written. -/
inductive Draft where
  | element (start : Start) (content : List Draft)
  | text (content : String)
  | reference (entity : String)
  | leaf (it : Leaf)
deriving Repr

/-- An element whose closing tag is still to come, with what stands before it, in reverse. -/
structure OpenElement where
  start : Start
  before : List Draft
deriving Repr

/-- Puts pieces together up to a closing tag that belongs to none of them, and gives the pieces from
there on. The content so far is given in reverse, the elements around it from the inside out.
-/
def nest (content : List Draft) (outer : List OpenElement)
    : List Piece → Option (List Draft × List Piece)
  | [] => if outer.isEmpty then some (content.reverse, []) else none
  | .opening start isEmpty :: rest =>
      if isEmpty then nest (.element start [] :: content) outer rest
      else nest [] (⟨start, content⟩ :: outer) rest
  | .closing name :: rest =>
      match outer with
      | [] => some (content.reverse, .closing name :: rest)
      | inner :: outer =>
          if name = inner.start.name.text then
            nest (.element inner.start content.reverse :: inner.before) outer rest
          else none
  | .text text :: rest => nest (.text text :: content) outer rest
  | .characters text :: rest => nest (.text text :: content) outer rest
  | .reference entity :: rest => nest (.reference entity :: content) outer rest
  | .leaf it :: rest => nest (.leaf it :: content) outer rest
  | .doctype _ :: _ => none
  | .broken text :: rest =>
      if outer.isEmpty && (Piece.broken text).isBrokenClosing then
        some (content.reverse, .broken text :: rest)
      else none

/-- The balanced content that a text begins with, and what is left of the text from a closing tag
on.
-/
def Draft.ofText? (text : List Char) : Option (List Draft × List Piece) :=
  nest [] [] (Piece.ofText text)

mutual

/-- Surveys content at a place. What a reference does below some open elements is given. -/
def Draft.survey (doctype : Doctype) (refer : Nat → String → Survey Unit) (place : Place)
    : Draft → Survey Unit
  | .element start content => do
      let below ← doctype.surveyStart place start
      surveyAll doctype refer below content
  | .text _ => return
  | .reference entity => refer place.above entity
  | .leaf it => noteAll it.findings

/-- Surveys several contents in order. -/
def surveyAll (doctype : Doctype) (refer : Nat → String → Survey Unit) (place : Place)
    : List Draft → Survey Unit
  | [] => return
  | it :: rest => do
      it.survey doctype refer place
      surveyAll doctype refer place rest

end

namespace Doctype

/-- Surveys a reference in content below some open elements, where entities may be nested up to a
depth. The text of the entity is surveyed with the first reference to it, and out of the scope of
that place. Texts that are elsewhere are not looked at.
-/
def surveyInContent (doctype : Doctype) (depth above : Nat) (name : String) : Survey Unit := do
  match ← doctype.find name with
  | none => return
  | some .unparsed => failure
  | some .external => grow 0
  | some (.internal text) => do
      if ((← get).readings.lookup name).isNone then
        match depth with
        | 0 => failure
        | depth + 1 => do
            require (above < elementLimit)
            let (content, left) ← Draft.ofText? text
            within name text .content (do
              surveyAll doctype (doctype.surveyInContent depth) ⟨[], above + 1, depth⟩ content
              requireEnd left.isEmpty)
      growBy name

/-- Surveys the outermost element. -/
def surveyRoot (doctype : Doctype) (start : Start) (content : List Draft) : Survey Unit :=
  (Draft.element start content).survey doctype (doctype.surveyInContent nestingLimit)
    ⟨[], 0, nestingLimit⟩

end Doctype

end PathQuery.Xml
