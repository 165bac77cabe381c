/-! Where a text first occurs in another one, what stands before and after that place, and
replacement of single characters. Offsets count characters.
-/

namespace PathQuery.Text

/-- The offset of the first occurrence of `part` in `text`. An empty part occurs at the
start of every text.
-/
def find? (part : List Char) : List Char → Option Nat
  | [] => if part.isEmpty then some 0 else none
  | c :: rest =>
      if part.isPrefixOf (c :: rest) then some 0 else (find? part rest).map (· + 1)

/-- Whether `part` occurs in `text`. -/
def contains (text part : String) : Bool :=
  (find? part.toList text.toList).isSome

/-- Whether `text` begins with `part`. -/
def startsWith (text part : String) : Bool :=
  part.toList.isPrefixOf text.toList

/-- The text before the first occurrence of `part`, empty if there is none. -/
def before (text part : String) : String :=
  match find? part.toList text.toList with
  | none => ""
  | some offset => String.ofList (text.toList.take offset)

/-- The text after the first occurrence of `part`, empty if there is none. -/
def after (text part : String) : String :=
  match find? part.toList text.toList with
  | none => ""
  | some offset => String.ofList (text.toList.drop (offset + part.toList.length))

/-- What a character is replaced by: the first place at which `old` names it counts, and a
place beyond the end of `new` removes the character.
-/
def replacement (old new : List Char) (c : Char) : List Char :=
  match old.idxOf? c with
  | none => [c]
  | some place => new[place]?.toList

/-- Replaces each character that `old` names by the one at the same place of `new`. -/
def translate (text old new : String) : String :=
  String.ofList (text.toList.flatMap (replacement old.toList new.toList))

/-- Joins texts with a separator between neighbours. -/
def joinWith (separator : String) : List String → String
  | [] => ""
  | [text] => text
  | text :: next :: rest => text ++ separator ++ joinWith separator (next :: rest)

end PathQuery.Text
