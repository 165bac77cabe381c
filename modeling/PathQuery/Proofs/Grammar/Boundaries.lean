import PathQuery.Proofs.Grammar.Layers

/-! Where the parts of the grammar begin and end. No token that a part can go on with is one
that the parts around it go on with, so that each part ends where it has to.
-/

namespace PathQuery

-----------------------------------------------------------------------------------------
-- Beginnings
-----------------------------------------------------------------------------------------

def stepKinds : List TokenKind :=
  [.asterisk, .dot, .doubleDot, .name, .at]

def primaryKinds : List TokenKind :=
  [.number, .string, .variable, .openParenthesis, .name]

def pathKinds : List TokenKind :=
  stepKinds ++ [.slash, .doubleSlash] ++ primaryKinds

/-- The kinds of tokens that layers begin with, where a sign begins no union. -/
def Layer.kinds : Layer → List TokenKind
  | .path => pathKinds
  | .binary .union => pathKinds
  | _ => .operator :: pathKinds

/-- The kinds of tokens that a part begins with, unless it can do without any. -/
def Part.kinds? : Part → Option (List TokenKind)
  | .expression layer => some layer.kinds
  | .location => some (stepKinds ++ [.slash, .doubleSlash])
  | .relative | .step | .test => some stepKinds
  | .primary => some primaryKinds
  | .operations _ | .further | .predicates | .arguments _ | .furtherArguments _ => none

/-- Some tokens begin with one of some kinds. -/
def BeginsWith (kinds : List TokenKind) (tokens : List Token) : Prop :=
  ∃ token rest, tokens = token :: rest ∧ token.kind ∈ kinds

theorem BeginsWith.mono {kinds more : List TokenKind} {tokens : List Token}
    (begins : BeginsWith kinds tokens) (part : kinds ⊆ more)
    : BeginsWith more tokens := by
  obtain ⟨token, rest, same, member⟩ := begins
  exact ⟨token, rest, same, part member⟩

theorem Level.kinds_operand (level : Level)
    : level.operand.kinds ⊆ (Layer.binary level).kinds := by
  cases level <;> simp [operand, Layer.kinds]

namespace Grammar

variable {grammar : Grammar} {part : Part} {tokens rest : List Token}

/-- What is derived begins with one of the kinds of the part. -/
theorem Derivation.begins (derivation : grammar.Derivation part tokens rest)
    : ∀ kinds ∈ part.kinds?, BeginsWith kinds tokens := by
  have one {kinds : List TokenKind} {token : Token} {more : List Token} {kind : TokenKind}
      (same : token.kind = kind) (member : kind ∈ kinds)
      : BeginsWith kinds (token :: more) :=
    ⟨token, more, rfl, same ▸ member⟩
  induction derivation <;> rintro _ ⟨⟩
  case operands level _ _ _ _ _ ih _ => exact (ih _ rfl).mono level.kinds_operand
  case negated minus _ _ => exact one minus.1 (by decide)
  case plain ih => exact (ih _ rfl).mono (by simp [Layer.kinds])
  case located ih => exact (ih _ rfl).mono (List.subset_append_left _ _)
  case filtered ih _ => exact (ih _ rfl).mono (List.subset_append_right _ _)
  case continued ih _ _ => exact (ih _ rfl).mono (List.subset_append_right _ _)
  case fromContext ih => exact (ih _ rfl).mono (by simp)
  case root isSlash _ => exact one isSlash (by decide)
  case fromRoot isSlash _ _ => exact one isSlash (by decide)
  case anywhere isDouble _ _ => exact one isDouble (by decide)
  case stepwise ih _ => exact ih _ rfl
  case self isDot => exact one isDot (by decide)
  case parent isDouble => exact one isDouble (by decide)
  case onAttributes isAt _ _ _ _ => exact one isAt (by decide)
  case onAxis isName _ _ _ _ _ _ => exact one isName (by decide)
  case onChildren ih _ => exact ih _ rfl
  case anyName isAsterisk => exact one isAsterisk (by decide)
  case plainName isName => exact one isName (by decide)
  case qualified isName _ => exact one isName (by decide)
  case nodeType isName _ _ _ => exact one isName (by decide)
  case target isName _ _ _ _ => exact one isName (by decide)
  case number isNumber => exact one isNumber (by decide)
  case string isString => exact one isString (by decide)
  case reference isVariable => exact one isVariable (by decide)
  case enclosed opens _ _ _ => exact one opens (by decide)
  case call isName _ _ _ _ _ _ => exact one isName (by decide)
  case qualifiedCall isName _ _ _ _ _ _ _ _ => exact one isName (by decide)

end Grammar

-----------------------------------------------------------------------------------------
-- Ends
-----------------------------------------------------------------------------------------

def testKinds : List TokenKind :=
  [.openParenthesis, .colon, .doubleColon]

def pathEndKinds : List TokenKind :=
  [.slash, .doubleSlash] ++ .openBracket :: testKinds

/-- The rank of the loosest operators that a layer goes on with. -/
def Layer.rank : Layer → Nat
  | .binary level => level.rank
  | .negation => Level.union.rank
  | .path => Level.union.rank + 1

/-- A layer does not go on with the token. -/
def Layer.Ends (layer : Layer) (token : Token) : Prop :=
  token.kind ∉ pathEndKinds
    ∧ ∀ level : Level, layer.rank ≤ level.rank → level.operation? token = none

def Part.Ends : Part → Token → Prop
  | .expression layer, token => layer.Ends token
  | .operations level, token => (Layer.binary level).Ends token
  | .location, token | .relative, token | .further, token => token.kind ∉ pathEndKinds
  | .step, token | .predicates, token => token.kind ∉ .openBracket :: testKinds
  | .test, token => token.kind ∉ testKinds
  | .primary, _ => True
  | .arguments _, token => token.kind = .closeParenthesis
  | .furtherArguments _, token => token.kind ≠ .comma ∧ (Layer.binary .or).Ends token

/-- A part does not go on with the first of the tokens, if there is any. -/
def Part.Stops (part : Part) (tokens : List Token) : Prop :=
  ∀ token ∈ tokens.head?, part.Ends token

theorem Part.stops_nil (part : Part) : part.Stops [] := by
  simp [Stops]

theorem Part.stops_cons (part : Part) {token : Token} (ends : part.Ends token) (rest : List Token)
    : part.Stops (token :: rest) := by
  rintro _ ⟨⟩
  exact ends

theorem Part.Stops.imp {part other : Part} {tokens : List Token} (stops : part.Stops tokens)
    (ends : ∀ token, part.Ends token → other.Ends token)
    : other.Stops tokens :=
  fun token first => ends token (stops token first)

/-- A tighter layer goes on with fewer tokens. -/
theorem Layer.Ends.mono {layer other : Layer} {token : Token} (ends : layer.Ends token)
    (tighter : layer.rank ≤ other.rank)
    : other.Ends token :=
  ⟨ends.1, fun level above => ends.2 level (Nat.le_trans tighter above)⟩

theorem Level.rank_lt_operand (level : Level) : level.rank < level.operand.rank := by
  cases level <;> decide

/-- Operands end before an operator of their level. -/
theorem Level.ends_of_operation? {level : Level} {token : Token} {combine : Expr → Expr → Expr}
    (operator : level.operation? token = some combine)
    : level.operand.Ends token := by
  refine ⟨?_, fun other above => ?_⟩
  · have := kind_of_operation? operator
    rcases this with kind | kind | kind | kind <;> simp [kind, pathEndKinds, testKinds]
  · cases another : other.operation? token with
    | none => rfl
    | some _ =>
        have := level.rank_lt_operand
        rw [eq_of_operation? operator, ← eq_of_operation? another] at *
        omega

/-- The token closes what is inside of an expression. -/
def Token.Closes (token : Token) : Prop :=
  token.kind = .closeParenthesis ∨ token.kind = .closeBracket ∨ token.kind = .comma

theorem Token.Closes.ends {token : Token} (closes : token.Closes) (layer : Layer)
    : layer.Ends token := by
  refine ⟨?_, fun level _ => ?_⟩
  · rcases closes with kind | kind | kind <;> simp [pathEndKinds, testKinds, kind]
  · cases operator : level.operation? token with
    | none => rfl
    | some combine =>
        have := Level.kind_of_operation? operator
        rcases closes with kind | kind | kind <;> simp [kind] at this

theorem Part.stops_whole {token : Token} (closes : token.Closes) (rest : List Token)
    : Part.whole.Stops (token :: rest) :=
  Part.stops_cons .whole (closes.ends _) rest

/-- Where a path expression stops, location paths and predicates do. -/
theorem Part.stops_path {tokens : List Token} (stops : (Part.expression .path).Stops tokens)
    : Part.location.Stops tokens ∧ Part.predicates.Stops tokens :=
  ⟨stops.imp fun _ ends => ends.1,
    stops.imp fun _ ends member => ends.1 (List.mem_append_right _ member)⟩

theorem Part.ends_furtherArguments (count : Nat) {token : Token}
    (closes : token.kind = .closeParenthesis)
    : (Part.furtherArguments count).Ends token :=
  ⟨by simp [closes], Token.Closes.ends (.inl closes) _⟩

-----------------------------------------------------------------------------------------
-- Stops between parts
-----------------------------------------------------------------------------------------

namespace Grammar

theorem kind_of_continuesName {name colon part : Token} (continues : continuesName name colon part)
    : colon.kind = .colon ∧ (part.kind = .asterisk ∨ part.kind = .name) := by
  simp only [continuesName, Bool.and_eq_true, decide_eq_true_iff, Bool.or_eq_true] at continues
  exact ⟨continues.1.1.1, continues.1.2⟩

theorem kind_of_separatorSteps? {token : Token} {between : List Step}
    (separates : separatorSteps? token = some between)
    : token.kind = .slash ∨ token.kind = .doubleSlash := by
  rw [separatorSteps?] at separates
  split at separates
  · exact .inl ‹_›
  · split at separates
    · exact .inr ‹_›
    · cases separates

/-- Steps stop before a separator. -/
theorem ends_of_separatorSteps? {token : Token} {between : List Step}
    (separates : separatorSteps? token = some between)
    : Part.step.Ends token := by
  rcases kind_of_separatorSteps? separates with kind | kind <;>
    simp [Part.Ends, testKinds, kind]

namespace Derivation

variable {grammar : Grammar} {tokens rest : List Token}

/-- Operands stop before the operations that follow them. -/
theorem stops_operations {level : Level}
    (others : grammar.Derivation (.operations level) tokens rest)
    (stops : (Part.operations level).Stops rest)
    : (Part.expression level.operand).Stops tokens := by
  cases others with
  | noOperation =>
      exact stops.imp fun token ends =>
        Layer.Ends.mono ends (Nat.le_of_lt level.rank_lt_operand)
  | operation combine operator =>
      exact Part.stops_cons (.expression _) (Level.ends_of_operation? operator) _

theorem stops_further (others : grammar.Derivation .further tokens rest)
    (stops : Part.further.Stops rest)
    : Part.step.Stops tokens := by
  cases others with
  | noStep => exact stops.imp fun token ends member => ends (List.mem_append_right _ member)
  | furtherStep between separates => exact Part.stops_cons _ (ends_of_separatorSteps? separates) _

theorem stops_predicates (predicates : grammar.Derivation .predicates tokens rest)
    (stops : Part.predicates.Stops rest)
    : Part.test.Stops tokens := by
  cases predicates with
  | noPredicate => exact stops.imp fun token ends member => ends (List.mem_cons_of_mem _ member)
  | predicate opens => exact Part.stops_cons _ (by simp [Part.Ends, testKinds, opens]) _

theorem stops_furtherArguments {count : Nat}
    (others : grammar.Derivation (.furtherArguments count) tokens rest)
    (stops : (Part.furtherArguments count).Stops rest)
    : Part.whole.Stops tokens := by
  cases others with
  | noFurtherArgument => exact stops.imp fun token ends => ends.2
  | furtherArgument isComma => exact Part.stops_whole (.inr (.inr isComma)) _

end Derivation

end Grammar

end PathQuery
