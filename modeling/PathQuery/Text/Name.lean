import PathQuery.Text.Characters

/-! Names without a colon, as namespaces require them, and expanded names with their notation
in braces, where the namespace comes before the local part.
-/

namespace PathQuery.Text

/-- The characters that a name may begin with. -/
def nameStartRanges : List CodeRange :=
  [⟨0x41, 0x5A⟩, ⟨0x5F, 0x5F⟩, ⟨0x61, 0x7A⟩, ⟨0xC0, 0xD6⟩, ⟨0xD8, 0xF6⟩, ⟨0xF8, 0x2FF⟩,
    ⟨0x370, 0x37D⟩, ⟨0x37F, 0x1FFF⟩, ⟨0x200C, 0x200D⟩, ⟨0x2070, 0x218F⟩, ⟨0x2C00, 0x2FEF⟩,
    ⟨0x3001, 0xD7FF⟩, ⟨0xF900, 0xFDCF⟩, ⟨0xFDF0, 0xFFFD⟩, ⟨0x10000, 0xEFFFF⟩]

/-- The characters that a name may continue with but not begin with. -/
def nameContinuationRanges : List CodeRange :=
  [⟨0x2D, 0x2E⟩, ⟨0x30, 0x39⟩, ⟨0xB7, 0xB7⟩, ⟨0x300, 0x36F⟩, ⟨0x203F, 0x2040⟩]

/-- Membership in `nameStartRanges`. -/
def isNameStart (c : Char) : Bool :=
  inRanges nameStartRanges c

/-- A name continues with the characters it may begin with and some more. -/
def isNameCharacter (c : Char) : Bool :=
  isNameStart c || inRanges nameContinuationRanges c

/-- How many characters the longest name at the start of a text has, zero if none begins. -/
def nameLength : List Char → Nat
  | [] => 0
  | c :: rest => if isNameStart c then 1 + (rest.takeWhile isNameCharacter).length else 0

/-- Whether a whole text is one name. -/
def isName (text : String) : Bool :=
  match text.toList with
  | [] => false
  | c :: rest => isNameStart c && rest.all isNameCharacter

end PathQuery.Text

namespace PathQuery

/-- An expanded name: a local part and the namespace it belongs to, if any. -/
structure ExpandedName where
  uri : Option String
  localPart : String
deriving DecidableEq, Repr

/-- An empty namespace is the same as none. -/
def uriOf (text : String) : Option String :=
  if text.isEmpty then none else some text

/-- Reads a name whose namespace, if any, stands before it in braces. A name that opens a
brace and never closes it has no reading.
-/
def ExpandedName.ofBraces? (text : String) : Option ExpandedName :=
  match text.toList with
  | '\x7b' :: rest =>
      match rest.dropWhile (· != '\x7d') with
      | [] => none
      | _ :: localPart =>
          some ⟨uriOf (String.ofList (rest.takeWhile (· != '\x7d'))), String.ofList localPart⟩
  | _ => some ⟨none, text⟩

/-- A name as it is spelled with its qualifier in front. -/
def qualified (qualifier : Option String) (localPart : String) : String :=
  match qualifier with
  | none => localPart
  | some text => if text.isEmpty then localPart else text ++ ":" ++ localPart

end PathQuery
