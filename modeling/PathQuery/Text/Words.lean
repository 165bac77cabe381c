import PathQuery.Text.Characters

/-! Text taken apart at gaps: its words, and its normal form in which blanks are folded.
Words are the maximal runs outside of gaps; folding works on the text directly.
-/

namespace PathQuery.Text

/-- The words of `text` when `word` holds, in reverse, what was read of the current one. -/
def wordsFrom (isGap : Char → Bool) (word : List Char) : List Char → List (List Char)
  | [] => if word.isEmpty then [] else [word.reverse]
  | c :: rest =>
      if isGap c then
        if word.isEmpty then wordsFrom isGap [] rest
        else word.reverse :: wordsFrom isGap [] rest
      else wordsFrom isGap (c :: word) rest

/-- The maximal runs of characters that are no gap, in order. -/
def words (isGap : Char → Bool) (text : List Char) : List (List Char) :=
  wordsFrom isGap [] text

/-- Each maximal run of blanks becomes one space; `after` tells that the character before
the given text was a blank already.
-/
def foldBlanksFrom (after : Bool) : List Char → List Char
  | [] => []
  | c :: rest =>
      if isBlank c then
        if after then foldBlanksFrom true rest else ' ' :: foldBlanksFrom true rest
      else c :: foldBlanksFrom false rest

/-- Replaces every maximal run of blanks by one space. -/
def foldBlanks (text : List Char) : List Char :=
  foldBlanksFrom false text

/-- Removes the blanks at both ends. -/
def trimBlanks (text : List Char) : List Char :=
  ((text.dropWhile isBlank).reverse.dropWhile isBlank).reverse

/-- Folds the blanks of a text and removes those at its ends. -/
def normalizeSpace (text : String) : String :=
  String.ofList (trimBlanks (foldBlanks text.toList))

end PathQuery.Text
