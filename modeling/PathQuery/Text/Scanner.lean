import PathQuery.Text.Search

/-! Scanners read something from the start of a list of symbols and leave the rest. One that fails
leaves nothing; the caller decides what to try instead. Repetition ends where a scanner fails or
takes nothing, so that it is total whatever is repeated.
-/

namespace PathQuery

/-- Reads a value from the start of a list of symbols, or fails. -/
abbrev Scanner (σ α : Type) :=
  StateT (List σ) Option α

/-- Reads a value from the start of a text. -/
abbrev TextScanner (α : Type) :=
  Scanner Char α

namespace Scanner

/-- Takes one symbol of a class. -/
def one {σ : Type} (isMember : σ → Bool) : Scanner σ σ
  | [] => none
  | symbol :: rest => if isMember symbol then some (symbol, rest) else none

/-- Takes a symbol that has a value. -/
def oneOf {σ α : Type} (value? : σ → Option α) : Scanner σ α
  | [] => none
  | symbol :: rest => (value? symbol).map (fun value => (value, rest))

/-- Takes the longest run of symbols of a class, which may be empty. -/
def run {σ : Type} (isMember : σ → Bool) : Scanner σ (List σ) := fun symbols =>
  some (symbols.takeWhile isMember, symbols.dropWhile isMember)

/-- Takes the longest run of symbols of a class, which must not be empty. -/
def someRun {σ : Type} (isMember : σ → Bool) : Scanner σ (List σ) := fun symbols =>
  if (symbols.takeWhile isMember).isEmpty then none else run isMember symbols

/-- Takes the given characters. -/
def literal (expected : String) : TextScanner Unit := fun text =>
  if expected.toList.isPrefixOf text then some ((), text.drop expected.toList.length) else none

/-- Takes the text before the first occurrence of a delimiter, and the delimiter. -/
def upTo (delimiter : String) : TextScanner (List Char) := fun text =>
  (Text.find? delimiter.toList text).map (fun offset =>
    (text.take offset, text.drop (offset + delimiter.toList.length)))

/-- What is read by repeating a scanner until it fails or takes nothing, and the rest. -/
def repetition {σ α : Type} (scanner : Scanner σ α) (symbols : List σ) : List α × List σ :=
  match scanner symbols with
  | none => ([], symbols)
  | some (value, rest) =>
      if rest.length < symbols.length then
        let (values, rest) := repetition scanner rest
        (value :: values, rest)
      else ([], symbols)
termination_by symbols.length

/-- Repeats a scanner until it fails or takes nothing. -/
def many {σ α : Type} (scanner : Scanner σ α) : Scanner σ (List α) := fun symbols =>
  some (repetition scanner symbols)

/-- Reads all symbols, of which none may be left. -/
def whole? {σ α : Type} (scanner : Scanner σ α) (symbols : List σ) : Option α :=
  match scanner symbols with
  | some (value, []) => some value
  | _ => none

end Scanner

end PathQuery
