import PathQuery.Xml.Encoding
import PathQuery.Xml.Reading

/-! Documents as texts and as bytes. A text is read whatever encoding it declares, bytes are
decoded first. Entities may add a million bytes to a document, or five times its own size.
-/

namespace PathQuery.Xml

/-- Removes the mark that tells the order of bytes. -/
def dropByteOrderMark : List Char → List Char
  | [] => []
  | c :: rest => if c = '\uFEFF' then rest else c :: rest

/-- What the texts of entities may add to a document of a size. -/
def allowanceFor (size : Nat) : Nat :=
  max 1000000 (5 * size + 4)

/-- The document of characters after its declaration. -/
def Document.ofCharacters? (isAlone : Bool) (text : List Char) : Option Document :=
  Document.ofPieces? isAlone (allowanceFor (Survey.bytesOf text)) (Piece.ofText text)

/-- The document of a text, if it is well-formed. -/
def Document.ofText? (source : String) : Option Document :=
  let text := dropByteOrderMark source.toList
  if beginsWithDeclaration text then
    (textDeclaration text).bind (fun (declaration, rest) =>
      ofCharacters? declaration.isAlone rest)
  else ofCharacters? false text

/-- The document of bytes, if they are the encoding of a well-formed one. -/
def Document.ofBytes? (bytes : List UInt8) : Option Document := do
  let encoding ← Encoding.ofDocument? bytes
  let text ← encoding.decode? bytes
  ofText? (String.ofList text)

end PathQuery.Xml
