import PathQuery.Text.Name
import PathQuery.Expr.Malformed

/-! The tokens of expressions. At each place the lexeme of the first fitting kind is taken, which is
the longest one that any kind admits; blanks between lexemes are dropped.
-/

namespace PathQuery

/-- The lexical classes. -/
inductive TokenKind where
  | string
  | number
  | variable
  | name
  | doubleSlash
  | slash
  | asterisk
  | doubleColon
  | colon
  | doubleDot
  | dot
  | openBracket
  | closeBracket
  | at
  | openParenthesis
  | closeParenthesis
  | comma
  | bar
  | operator
deriving DecidableEq, Repr

/-- A lexeme with its class and the position of its first character. -/
structure Token where
  position : Nat
  text : String
  kind : TokenKind
deriving DecidableEq, Repr

namespace Token

/-- The length of a numeral at the start of a text, zero if none begins there. -/
def numeralLength (text : List Char) : Nat :=
  let whole := (text.takeWhile Text.isDigit).length
  match text.dropWhile Text.isDigit with
  | '.' :: rest =>
      let fraction := (rest.takeWhile Text.isDigit).length
      if whole = 0 ∧ fraction = 0 then 0 else whole + 1 + fraction
  | _ => whole

/-- The length of the name of a variable, which may have a qualifier. -/
def variableNameLength (text : List Char) : Nat :=
  let first := Text.nameLength text
  match text.drop first with
  | ':' :: rest =>
      let second := Text.nameLength rest
      if first = 0 ∨ second = 0 then first else first + 1 + second
  | _ => first

/-- The length of a string literal after its opening quote, the closing one included. -/
def closingLength? (quote : Char) (text : List Char) : Option Nat :=
  (text.idxOf? quote).map (· + 1)

/-- Whether a character opens a string literal. -/
def isQuote (c : Char) : Bool :=
  c == '\x22' || c == '\x27'

/-- The class and length of the lexeme made of the first characters of a text that are no quote,
digit, name or variable.
-/
def markAt? : List Char → Option (TokenKind × Nat)
  | '/' :: '/' :: _ => some (.doubleSlash, 2)
  | '/' :: _ => some (.slash, 1)
  | '*' :: _ => some (.asterisk, 1)
  | ':' :: ':' :: _ => some (.doubleColon, 2)
  | ':' :: _ => some (.colon, 1)
  | '.' :: '.' :: _ => some (.doubleDot, 2)
  | '.' :: _ => some (.dot, 1)
  | '[' :: _ => some (.openBracket, 1)
  | ']' :: _ => some (.closeBracket, 1)
  | '@' :: _ => some (.at, 1)
  | '(' :: _ => some (.openParenthesis, 1)
  | ')' :: _ => some (.closeParenthesis, 1)
  | ',' :: _ => some (.comma, 1)
  | '|' :: _ => some (.bar, 1)
  | '!' :: '=' :: _ => some (.operator, 2)
  | '<' :: '=' :: _ => some (.operator, 2)
  | '>' :: '=' :: _ => some (.operator, 2)
  | '<' :: _ => some (.operator, 1)
  | '>' :: _ => some (.operator, 1)
  | '=' :: _ => some (.operator, 1)
  | '+' :: _ => some (.operator, 1)
  | '-' :: _ => some (.operator, 1)
  | _ => none

/-- The class and length of the lexeme at the start of a text. -/
def lexemeAt? : List Char → Option (TokenKind × Nat)
  | [] => none
  | c :: rest =>
      if isQuote c then
        (closingLength? c rest).map (fun length => (.string, 1 + length))
      else if 0 < numeralLength (c :: rest) then
        some (.number, numeralLength (c :: rest))
      else if c = '$' then
        if 0 < variableNameLength rest then some (.variable, 1 + variableNameLength rest)
        else none
      else if 0 < Text.nameLength (c :: rest) then
        some (.name, Text.nameLength (c :: rest))
      else markAt? (c :: rest)

/-- The tokens of a text whose first character has the given position. -/
def scan (position : Nat) : List Char → Except Malformed (List Token)
  | [] => .ok []
  | c :: rest =>
      if Text.isBlank c then
        scan (position + 1) rest
      else
        match lexemeAt? (c :: rest) with
        | none =>
            .error ⟨position, if isQuote c then .unterminatedString else .unrecognizedToken⟩
        | some (kind, length) => do
            -- a lexeme has one character at least
            let more := length - 1
            let tokens ← scan (position + 1 + more) (rest.drop more)
            .ok (⟨position, String.ofList (c :: rest.take more), kind⟩ :: tokens)
termination_by text => text.length
decreasing_by
  · simp
  · simp only [List.length_drop, List.length_cons]
    omega

/-- Splits a text into its tokens, or gives the first place at which none begins. -/
def ofText (source : String) : Except Malformed (List Token) :=
  scan 0 source.toList

end Token

end PathQuery
