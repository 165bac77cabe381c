import PathQuery.Text.Charset.Chinese
import PathQuery.Text.Charset.Japanese
import PathQuery.Text.Charset.Korean
import PathQuery.Text.Charset.Single
import PathQuery.Xml.Markup

/-! The declaration that a document may begin with, and the encodings of documents that are given
as bytes. The first bytes decide about the encoding if they can; else the declaration does, whose
own characters are the same in all encodings that it can choose from.
-/

namespace PathQuery.Xml

open Scanner

-----------------------------------------------------------------------------------------
-- Declarations
-----------------------------------------------------------------------------------------

/-- What a document declares about its text. -/
structure TextDeclaration where
  encoding : Option String
  isAlone : Bool
deriving DecidableEq, Repr

/-- Takes a setting in a declaration. -/
def setting (name : String) : TextScanner String := do
  gap
  literal name
  blanks
  literal "="
  blanks
  quoted

/-- Whether a text is a version of the first edition of the language. -/
def isVersion (text : String) : Bool :=
  match text.toList with
  | '1' :: '.' :: digits => digits.all Text.isDigit
  | _ => false

/-- Whether a text can be the name of an encoding. -/
def isEncodingName (text : String) : Bool :=
  match text.toList with
  | [] => false
  | c :: rest =>
      Text.isAsciiLetter c
        && rest.all (fun c => Text.isAsciiLetter c || Text.isDigit c || "._-".toList.contains c)

/-- Takes the declaration at the start of a document. -/
def textDeclaration : TextScanner TextDeclaration := do
  literal "<?xml"
  let version ← setting "version"
  if !isVersion version then failure
  let encoding ← optional (setting "encoding")
  if !encoding.all isEncodingName then failure
  let alone ← optional (setting "standalone")
  if !alone.all (fun value => value == "yes" || value == "no") then failure
  blanks
  literal "?>"
  return ⟨encoding, alone == some "yes"⟩

/-- Whether a text begins with a declaration, well-formed or not. -/
def beginsWithDeclaration (text : List Char) : Bool :=
  ((literal "<?xml" *> gap) text).isSome

-----------------------------------------------------------------------------------------
-- Encodings
-----------------------------------------------------------------------------------------

/-- The encodings of characters as bytes. -/
inductive Encoding where
  | utf8
  | utf16 (isBigEndian : Bool)
  | utf32 (isBigEndian : Bool)
  | single (set : Text.Charset)
  | pairs (set : Text.PairCharset)
deriving DecidableEq, Repr

namespace Encoding

/-- The encodings of sets of characters with their names. -/
def ofSets : List (List String × Encoding) :=
  Text.Charset.all.map (fun set => (set.names, .single set))
    ++ [Text.PairCharset.shiftJis, .eucJp, .gbk, .big5, .eucKr].map (fun set =>
      (set.names, .pairs set))

/-- The encodings that a declaration can choose, with their names in small letters: those in which
the declaration itself is ASCII.
-/
def declarable : List (List String × Encoding) :=
  (["utf-8", "utf8"], .utf8) :: ofSets

/-- All encodings that have a name. -/
def named : List (List String × Encoding) :=
  [(["utf-16le"], .utf16 false), (["utf-16be"], .utf16 true), (["utf-32le"], .utf32 false),
    (["utf-32be"], .utf32 true)] ++ declarable

/-- The encoding of a name that a declaration chooses. -/
def ofName? (name : String) : Option Encoding :=
  (declarable.find? (·.1.contains (Text.lower name))).map Prod.snd

/-- A name without what separates its parts. -/
def bareName (name : String) : String :=
  String.ofList ((Text.lower name).toList.filter (fun c => c != '-' && c != '_' && c != ' '))

/-- The encoding of a name in any spelling. -/
def ofBareName? (name : String) : Option Encoding :=
  (named.find? (·.1.any (fun known => bareName known == bareName name))).map Prod.snd

/-- Numbers joined in pairs, where one of the two counts as often as the base tells. -/
def joined? (base : Nat) (isBigEndian : Bool) : List Nat → Option (List Nat)
  | [] => some []
  | [_] => none
  | first :: second :: rest =>
      let number := if isBigEndian then base * first + second else base * second + first
      (joined? base isBigEndian rest).map (number :: ·)

/-- The characters of units of sixteen bits, of which two stand for a character beyond them. -/
def unitCharacters? : List Nat → Option (List Char)
  | [] => some []
  | unit :: rest =>
      if unit.isValidChar then (unitCharacters? rest).map (Char.ofNat unit :: ·)
      else
        match rest with
        | low :: rest =>
            if unit < 0xDC00 && 0xDC00 ≤ low && low < 0xE000 then
              let code := 0x10000 + 0x400 * (unit - 0xD800) + (low - 0xDC00)
              (unitCharacters? rest).map (Char.ofNat code :: ·)
            else none
        | [] => none

/-- The character of a number. -/
def characterOf? (code : Nat) : Option Char :=
  if code.isValidChar then some (Char.ofNat code) else none

/-- Whether a byte goes on with a character of UTF-8. -/
def isContinuation (byte : UInt8) : Bool :=
  0x80 ≤ byte && byte < 0xC0

/-- The characters of bytes in UTF-8. From the first byte on that does not follow the encoding, they
are a character that documents do not have.
-/
def utf8Characters : List UInt8 → List Char
  | [] => []
  | first :: rest =>
      match String.fromUTF8? ⟨(first :: rest.takeWhile isContinuation).toArray⟩ with
      | some text => text.toList ++ utf8Characters (rest.dropWhile isContinuation)
      | none => ['\x00']
termination_by bytes => bytes.length
decreasing_by
  exact Nat.lt_succ_of_le (List.dropWhile_suffix isContinuation).length_le

/-- The characters of bytes, if they follow the encoding. -/
def decode? (encoding : Encoding) (bytes : List UInt8) : Option (List Char) :=
  match encoding with
  | .utf8 => some (utf8Characters bytes)
  | .utf16 isBigEndian =>
      (joined? 0x100 isBigEndian (bytes.map UInt8.toNat)).bind unitCharacters?
  | .utf32 isBigEndian => do
      let halves ← joined? 0x100 isBigEndian (bytes.map UInt8.toNat)
      (← joined? 0x10000 isBigEndian halves).mapM characterOf?
  | .single set => bytes.mapM set.character?
  | .pairs set => set.decode? bytes

/-- A number as a group of bytes of the given size. -/
def unitBytes (size : Nat) (isBigEndian : Bool) (unit : Nat) : List UInt8 :=
  let bytes := (List.range size).map (fun place => UInt8.ofNat (unit / Nat.pow 256 place))
  if isBigEndian then bytes.reverse else bytes

/-- The bytes of a character, if the encoding has it. -/
def bytesOf? (encoding : Encoding) (c : Char) : Option (List UInt8) :=
  match encoding with
  | .utf8 => some (String.singleton c).toUTF8.toList
  | .utf16 isBigEndian =>
      if c.toNat < 0x10000 then some (unitBytes 2 isBigEndian c.toNat)
      else
        let beyond := c.toNat - 0x10000
        some (unitBytes 2 isBigEndian (0xD800 + beyond / 0x400)
          ++ unitBytes 2 isBigEndian (0xDC00 + beyond % 0x400))
  | .utf32 isBigEndian => some (unitBytes 4 isBigEndian c.toNat)
  | .single set => (set.byte? c).map (fun byte => [byte])
  | .pairs set => set.bytes? c

/-- The bytes of a text, if the encoding has all its characters. -/
def encode? (encoding : Encoding) (text : String) : Option (List UInt8) :=
  (text.toList.mapM encoding.bytesOf?).map List.flatten

/-- The encoding that the first bytes of a document show, by the mark in front or by the opening of
a tag or of a declaration.
-/
def ofStart? : List UInt8 → Option Encoding
  | 0xEF :: 0xBB :: 0xBF :: _ => some .utf8
  | 0x00 :: 0x00 :: 0xFE :: 0xFF :: _ => some (.utf32 true)
  | 0xFF :: 0xFE :: 0x00 :: 0x00 :: _ => some (.utf32 false)
  | 0xFE :: 0xFF :: _ => some (.utf16 true)
  | 0xFF :: 0xFE :: _ => some (.utf16 false)
  | 0x00 :: 0x00 :: 0x00 :: 0x3C :: _ => some (.utf32 true)
  | 0x3C :: 0x00 :: 0x00 :: 0x00 :: _ => some (.utf32 false)
  | 0x00 :: 0x3C :: 0x00 :: 0x3F :: _ => some (.utf16 true)
  | 0x3C :: 0x00 :: 0x3F :: 0x00 :: _ => some (.utf16 false)
  | _ => none

/-- The encoding that a document declares, if it begins with a declaration of one. -/
def declaredIn? (bytes : List UInt8) : Option String :=
  let text := bytes.map (fun byte => Char.ofNat byte.toNat)
  (textDeclaration text).bind (fun (declaration, _) => declaration.encoding)

/-- The encoding of a document that is given as bytes. -/
def ofDocument? (bytes : List UInt8) : Option Encoding :=
  match ofStart? bytes with
  | some encoding => some encoding
  | none =>
      match declaredIn? bytes with
      | some name => ofName? name
      | none => some .utf8

end Encoding

end PathQuery.Xml
