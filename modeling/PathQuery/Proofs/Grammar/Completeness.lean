import PathQuery.Proofs.Grammar.Boundaries

/-! What can be derived is read, if the part stops where the derivation ends. Each
production is met by the branch of its reader that the first tokens decide for.
-/

namespace PathQuery

namespace Grammar

-----------------------------------------------------------------------------------------
-- Readings
-----------------------------------------------------------------------------------------

/-- A reading takes a value and leaves some tokens. -/
def Gives {α : Type} {bound : Nat} (reading : Reading α bound) (value : α) (rest : List Token)
    : Prop :=
  ∃ fewer, reading = .ok ⟨value, rest, fewer⟩

/-- What follows a reading goes on with what that gives. -/
theorem Gives.bind {α β : Type} {bound larger : Nat} {first : Reading α bound} {value : α}
    {rest : List Token} (gives : Gives first value rest) {next : Taken α bound → Reading β larger}
    {result : β} {left : List Token}
    (others : ∀ fewer, Gives (next ⟨value, rest, fewer⟩) result left)
    : Gives (first >>= next) result left := by
  obtain ⟨fewer, rfl⟩ := gives
  exact others fewer

def inside (grammar : Grammar) (bound : Nat) : InnerReader bound :=
  fun tokens _ => grammar.expression tokens

theorem gives_closing (grammar : Grammar) (opener : Token) {kind : TokenKind} (closer : String)
    {token : Token} (closes : token.kind = kind) (rest : List Token)
    : Gives (grammar.closing opener kind closer (token :: rest)) () rest := by
  rw [closing, if_pos closes]
  exact ⟨_, rfl⟩

/-- The reader of a part gives a value and leaves some tokens, however many tokens there may
be. A location path is read where no primary expression begins, and arguments with what
closes them.
-/
def Reads (grammar : Grammar) : (part : Part) → List Token → part.Value → List Token → Prop
  | .expression layer, tokens, value, rest => ∀ bound (h : tokens.length ≤ bound),
      Gives (grammar.layer (grammar.inside bound) layer tokens h) value rest
  | .operations level, tokens, combine, rest => ∀ bound (h : tokens.length ≤ bound) left,
      Gives
        (operations level.read? (grammar.layer (grammar.inside bound) level.operand) left tokens h)
        (combine left) rest
  | .location, tokens, value, rest => ∀ bound (h : tokens.length ≤ bound),
      Gives (grammar.locationPath (grammar.inside bound) tokens h) value rest
  | .relative, tokens, value, rest => ∀ bound (h : tokens.length ≤ bound),
      Gives (grammar.steps (grammar.inside bound) tokens h) value rest
  | .further, tokens, value, rest => ∀ bound (h : tokens.length ≤ bound),
      Gives (grammar.furtherSteps (grammar.inside bound) tokens h) value rest
  | .step, tokens, value, rest => ∀ bound (h : tokens.length ≤ bound),
      Gives (grammar.step (grammar.inside bound) tokens h) value rest
  | .test, tokens, value, rest => Gives (grammar.nodeTest tokens) value rest
  | .predicates, tokens, value, rest => ∀ bound (h : tokens.length ≤ bound),
      Gives (grammar.predicates (grammar.inside bound) tokens h) value rest
  | .primary, tokens, value, rest => ∀ bound (h : tokens.length ≤ bound),
      ∃ reading, grammar.primary? (grammar.inside bound) tokens h = some reading
        ∧ Gives reading value rest
  | .arguments _, tokens, list, rest => ∀ bound (h : tokens.length < bound) name opener closer left,
      rest = closer :: left → closer.kind = .closeParenthesis →
        checkCall grammar.arityOf name list.length = .ok () →
          Gives (grammar.callArguments (grammar.inside bound) name opener tokens h)
            (.call name list) left
  | .furtherArguments _, tokens, list, rest => ∀ bound (h : tokens.length < bound),
      Gives (furtherArguments (grammar.inside bound) tokens h) list rest

variable {grammar : Grammar} {tokens rest : List Token}

-----------------------------------------------------------------------------------------
-- Operators
-----------------------------------------------------------------------------------------

/-- Expressions are read inside of others as they are alone. -/
theorem Reads.inside {value : Expr} (reads : grammar.Reads .whole tokens value rest) (bound : Nat)
    (h : tokens.length < bound)
    : Gives (grammar.inside bound tokens h) value rest := by
  rw [Grammar.inside, expression, operators_eq]
  exact reads tokens.length (Nat.le_refl _)

theorem reads_noOperation {level : Level} (stops : (Part.operations level).Stops rest)
    : grammar.Reads (.operations level) rest (fun left => left) rest := by
  intro bound h left
  cases rest with
  | nil =>
      rw [operations]
      exact ⟨_, rfl⟩
  | cons token more =>
      have none := (stops token rfl).2 level (Nat.le_refl _)
      rw [operations.eq_def]
      simp only [Level.read?_eq, none]
      exact ⟨_, rfl⟩

theorem reads_operation {level : Level} {token : Token} {middle : List Token} {right : Expr}
    {combine : Expr → Expr → Expr} {others : Expr → Expr}
    (operator : level.operation? token = some combine)
    (readsRight : grammar.Reads (.expression level.operand) tokens right middle)
    (readsOthers : grammar.Reads (.operations level) middle others rest)
    : grammar.Reads (.operations level) (token :: tokens)
      (fun left => others (combine left right)) rest := by
  intro bound h left
  rw [operations.eq_def]
  simp only [Level.read?_eq, operator]
  exact (readsRight bound _).bind fun _ => (readsOthers bound _ _).bind fun _ => ⟨_, rfl⟩

/-- A level is read if its first operand and the operations after it are. -/
theorem reads_operands {level : Level} {middle : List Token} {left : Expr} {others : Expr → Expr}
    (readsFirst : grammar.Reads (.expression level.operand) tokens left middle)
    (readsOthers : grammar.Reads (.operations level) middle others rest)
    : grammar.Reads (.expression (.binary level)) tokens (others left) rest := by
  intro bound h
  rw [layer]
  exact (readsFirst bound _).bind fun _ => (readsOthers bound _ _).bind fun _ => ⟨_, rfl⟩

theorem reads_negated {token : Token} {operand : Expr} (minus : token.Is .operator "-")
    (reads : grammar.Reads (.expression .negation) tokens operand rest)
    : grammar.Reads (.expression .negation) (token :: tokens) (.negate operand) rest := by
  intro bound h
  have given := reads bound (Nat.le_of_succ_le h)
  rw [layer] at given ⊢
  rw [negation, if_pos minus]
  exact given.bind fun _ => ⟨_, rfl⟩

/-- An expression that begins with no sign is read as a union. -/
theorem reads_plain {operand : Expr} (begins : BeginsWith pathKinds tokens)
    (reads : grammar.Reads (.expression (.binary .union)) tokens operand rest)
    : grammar.Reads (.expression .negation) tokens operand rest := by
  intro bound h
  obtain ⟨token, more, rfl, kind⟩ := begins
  have noMinus : ¬ token.Is .operator "-" := fun minus => by
    rw [minus.1] at kind
    exact absurd kind (by decide)
  rw [layer, negation, if_neg noMinus]
  exact reads bound h

-----------------------------------------------------------------------------------------
-- Steps
-----------------------------------------------------------------------------------------

theorem reads_noPredicate (stops : Part.predicates.Stops rest)
    : grammar.Reads .predicates rest [] rest := by
  intro bound h
  cases rest with
  | nil =>
      rw [predicates]
      exact ⟨_, rfl⟩
  | cons token more =>
      have noOpener : token.kind ≠ .openBracket := fun kind =>
        stops token rfl (kind ▸ List.mem_cons_self)
      rw [predicates.eq_def]
      simp only [if_pos noOpener]
      exact ⟨_, rfl⟩

theorem reads_predicate {opener closer : Token} {middle : List Token} {predicate : Expr}
    {others : List Expr} (opens : opener.kind = .openBracket) (closes : closer.kind = .closeBracket)
    (begins : BeginsWith (Layer.binary .or).kinds tokens)
    (readsInside : grammar.Reads .whole tokens predicate (closer :: middle))
    (readsOthers : grammar.Reads .predicates middle others rest)
    : grammar.Reads .predicates (opener :: tokens) (predicate :: others) rest := by
  intro bound h
  obtain ⟨next, more, rfl, kind⟩ := begins
  have noCloser : next.kind ≠ .closeBracket := fun same => by
    rw [same] at kind
    exact absurd kind (by decide)
  rw [predicates.eq_def]
  simp only [opens, ne_eq, not_true_eq_false, if_false, noCloser]
  exact (readsInside.inside bound _).bind fun _ =>
    (gives_closing grammar opener "]" closes middle).bind fun _ =>
      (readsOthers bound _).bind fun _ => ⟨_, rfl⟩

theorem reads_anyName {asterisk : Token} (isAsterisk : asterisk.kind = .asterisk)
    : grammar.Reads .test (asterisk :: rest) (.anyName none) rest := by
  show Gives (grammar.nodeTest _) _ _
  rw [nodeTest, if_pos isAsterisk]
  exact ⟨_, rfl⟩

/-- A node test that begins with a name is read as one. -/
theorem reads_named {name : Token} {test : NodeTest} (isName : name.kind = .name)
    (reads : Gives (grammar.namedTest name tokens) test rest)
    : grammar.Reads .test (name :: tokens) test rest := by
  show Gives (grammar.nodeTest _) _ _
  rw [nodeTest, if_neg (by simp [isName]), if_pos isName]
  exact reads

theorem reads_plainName {name : Token} (isName : name.kind = .name) (stops : Part.test.Stops rest)
    : grammar.Reads .test (name :: rest) (.name none name.text) rest := by
  refine reads_named isName ?_
  cases rest with
  | nil => exact ⟨_, rfl⟩
  | cons token more =>
      have ends : token.kind ∉ testKinds := stops token rfl
      have noType : ¬ (token.kind = .openParenthesis ∧ isNodeTypeName name.text) := fun typed =>
        ends (typed.1 ▸ by decide)
      rw [namedTest.eq_def]
      simp only [noType, if_false]
      cases more with
      | nil => exact ⟨_, rfl⟩
      | cons part more =>
          have alone : ¬ continuesName name token part := fun continues =>
            ends ((kind_of_continuesName continues).1 ▸ by decide)
          simp only [alone]
          exact ⟨_, rfl⟩

theorem reads_qualified {name colon part : Token} (isName : name.kind = .name)
    (continues : continuesName name colon part)
    : grammar.Reads .test (name :: colon :: part :: rest)
      (if part.kind = .asterisk then .anyName (some name.text)
        else .name (some name.text) part.text)
      rest := by
  refine reads_named isName ?_
  have noType : ¬ (colon.kind = .openParenthesis ∧ isNodeTypeName name.text) := by
    simp [(kind_of_continuesName continues).1]
  rw [namedTest.eq_def]
  simp only [noType, if_false, continues, if_true]
  exact ⟨_, rfl⟩

theorem reads_nodeType {name opener closer : Token} (isName : name.kind = .name)
    (known : isNodeTypeName name.text) (opens : opener.kind = .openParenthesis)
    (closes : closer.kind = .closeParenthesis)
    : grammar.Reads .test (name :: opener :: closer :: rest) (nodeTypeTest name.text) rest := by
  refine reads_named isName ?_
  have noString : ¬ (name.text = "processing-instruction" ∧ closer.kind = .string) := by
    simp [closes]
  have gives
      : Gives (grammar.nodeType name opener (closer :: rest)) (nodeTypeTest name.text) rest := by
    rw [nodeType, if_neg noString]
    exact (gives_closing grammar opener ")" closes rest).bind fun _ => ⟨_, rfl⟩
  rw [namedTest.eq_def]
  simp only [opens, known, and_self, if_true]
  exact gives.bind fun _ => ⟨_, rfl⟩

theorem reads_target {name opener literal closer : Token} (isName : name.kind = .name)
    (known : name.text = "processing-instruction") (opens : opener.kind = .openParenthesis)
    (isString : literal.kind = .string) (closes : closer.kind = .closeParenthesis)
    : grammar.Reads .test (name :: opener :: literal :: closer :: rest)
      (.instruction (some (unquoted literal.text))) rest := by
  refine reads_named isName ?_
  have typed : isNodeTypeName name.text := by
    rw [known]
    decide
  have gives : Gives (grammar.nodeType name opener (literal :: closer :: rest))
      (.instruction (some (unquoted literal.text))) rest := by
    rw [nodeType, if_pos ⟨known, isString⟩]
    exact (gives_closing grammar opener ")" closes rest).bind fun _ => ⟨_, rfl⟩
  rw [namedTest.eq_def]
  simp only [opens, typed, and_self, if_true]
  exact gives.bind fun _ => ⟨_, rfl⟩

/-- A step on an axis is read if its node test and predicates are. -/
theorem gives_stepOn {middle : List Token} {test : NodeTest} {list : List Expr}
    (readsTest : grammar.Reads .test tokens test middle)
    (readsPredicates : grammar.Reads .predicates middle list rest) (axis : String) (bound : Nat)
    (h : tokens.length ≤ bound)
    : Gives (grammar.stepOn (grammar.inside bound) axis tokens h) (.mk axis test list) rest :=
  Gives.bind readsTest fun _ => (readsPredicates bound _).bind fun _ => ⟨_, rfl⟩

theorem reads_self {dot : Token} (isDot : dot.kind = .dot)
    : grammar.Reads .step (dot :: rest) (.mk "self" (.nodeType "node") []) rest := by
  intro bound h
  rw [step.eq_def]
  simp only [isDot, if_true]
  exact ⟨_, rfl⟩

theorem reads_parent {dots : Token} (isDouble : dots.kind = .doubleDot)
    : grammar.Reads .step (dots :: rest) (.mk "parent" (.nodeType "node") []) rest := by
  intro bound h
  rw [step.eq_def]
  simp only [isDouble, reduceCtorEq, if_false, if_true]
  exact ⟨_, rfl⟩

theorem reads_onAttributes {sign : Token} {middle : List Token} {test : NodeTest}
    {list : List Expr} (isAt : sign.kind = .at)
    (readsTest : grammar.Reads .test tokens test middle)
    (readsPredicates : grammar.Reads .predicates middle list rest)
    : grammar.Reads .step (sign :: tokens) (.mk "attribute" test list) rest := by
  intro bound h
  rw [step.eq_def]
  simp only [isAt, reduceCtorEq, if_false, if_true]
  exact (gives_stepOn readsTest readsPredicates _ bound _).bind fun _ => ⟨_, rfl⟩

theorem reads_onAxis {name colons : Token} {middle : List Token} {test : NodeTest}
    {list : List Expr} (isName : name.kind = .name) (known : (Axis.ofName? name.text).isSome)
    (isDouble : colons.kind = .doubleColon) (readsTest : grammar.Reads .test tokens test middle)
    (readsPredicates : grammar.Reads .predicates middle list rest)
    : grammar.Reads .step (name :: colons :: tokens) (.mk name.text test list) rest := by
  intro bound h
  rw [step.eq_def]
  simp only [isName, reduceCtorEq, if_false, isDouble, if_true, known, and_self]
  exact (gives_stepOn readsTest readsPredicates _ bound _).bind fun _ => ⟨_, rfl⟩

/-- A step to children is read if its node test and predicates are. -/
theorem reads_onChildren {middle : List Token} {test : NodeTest} {list : List Expr}
    (begins : ∃ token more, tokens = token :: more ∧ (token.kind = .asterisk ∨ token.kind = .name)
      ∧ ∀ next ∈ more.head?, next.kind ≠ .doubleColon)
    (readsTest : grammar.Reads .test tokens test middle)
    (readsPredicates : grammar.Reads .predicates middle list rest)
    : grammar.Reads .step tokens (.mk "child" test list) rest := by
  intro bound h
  have gives := gives_stepOn readsTest readsPredicates "child" bound h
  obtain ⟨token, more, rfl, kind, noAxis⟩ := begins
  have noDot : token.kind ≠ .dot := by rcases kind with kind | kind <;> simp [kind]
  have noDots : token.kind ≠ .doubleDot := by rcases kind with kind | kind <;> simp [kind]
  have noSign : token.kind ≠ .at := by rcases kind with kind | kind <;> simp [kind]
  rw [step.eq_def]
  simp only [noDot, noDots, noSign, if_false]
  cases more with
  | nil => exact gives
  | cons next more =>
      simp only [noAxis next rfl, if_false]
      exact gives

/-- What a node test begins with names no axis. -/
theorem Derivation.begins_test {middle : List Token} (test : grammar.Derivation .test tokens middle)
    (stops : Part.test.Stops middle)
    : ∃ token more, tokens = token :: more ∧ (token.kind = .asterisk ∨ token.kind = .name)
      ∧ ∀ next ∈ more.head?, next.kind ≠ .doubleColon := by
  have ends : ∀ next ∈ middle.head?, next.kind ≠ .doubleColon := fun next first same =>
    stops next first (same ▸ by decide)
  cases test with
  | anyName isAsterisk => exact ⟨_, _, rfl, .inl isAsterisk, ends⟩
  | plainName name isName => exact ⟨_, _, rfl, .inr isName, ends⟩
  | qualified name part isName continues =>
      refine ⟨_, _, rfl, .inr isName, ?_⟩
      simp [(kind_of_continuesName continues).1]
  | nodeType name isName known opens =>
      refine ⟨_, _, rfl, .inr isName, ?_⟩
      simp [opens]
  | target literal isName known opens =>
      refine ⟨_, _, rfl, .inr isName, ?_⟩
      simp [opens]

-----------------------------------------------------------------------------------------
-- Paths
-----------------------------------------------------------------------------------------

theorem reads_noStep (stops : Part.further.Stops rest) : grammar.Reads .further rest [] rest := by
  intro bound h
  cases rest with
  | nil =>
      rw [furtherSteps]
      exact ⟨_, rfl⟩
  | cons token more =>
      have none : separatorSteps? token = none := by
        have ends : token.kind ∉ pathEndKinds := stops token rfl
        cases separates : separatorSteps? token with
        | none => rfl
        | some between =>
            rcases kind_of_separatorSteps? separates with kind | kind <;>
              exact absurd (kind ▸ by decide) ends
      rw [furtherSteps.eq_def]
      simp only [none]
      exact ⟨_, rfl⟩

theorem reads_furtherStep {separator : Token} {middle : List Token} {between others : List Step}
    {next : Step} (separates : separatorSteps? separator = some between)
    (readsNext : grammar.Reads .step tokens next middle)
    (readsOthers : grammar.Reads .further middle others rest)
    : grammar.Reads .further (separator :: tokens) (between ++ next :: others) rest := by
  intro bound h
  rw [furtherSteps.eq_def]
  simp only [separates]
  exact (readsNext bound _).bind fun _ => (readsOthers bound _).bind fun _ => ⟨_, rfl⟩

theorem reads_stepwise {middle : List Token} {first : Step} {others : List Step}
    (readsFirst : grammar.Reads .step tokens first middle)
    (readsOthers : grammar.Reads .further middle others rest)
    : grammar.Reads .relative tokens (first :: others) rest :=
  fun bound h => (readsFirst bound h).bind fun _ => (readsOthers bound _).bind fun _ => ⟨_, rfl⟩

theorem reads_fromContext {steps : List Step} (begins : BeginsWith stepKinds tokens)
    (reads : grammar.Reads .relative tokens steps rest)
    : grammar.Reads .location tokens (.path false steps) rest := by
  intro bound h
  have gives := reads bound h
  obtain ⟨token, more, rfl, kind⟩ := begins
  have noSlash : token.kind ≠ .slash := fun same => absurd kind (by rw [same]; decide)
  have noDouble : token.kind ≠ .doubleSlash := fun same => absurd kind (by rw [same]; decide)
  rw [locationPath, if_neg noSlash, if_neg noDouble]
  exact gives.bind fun _ => ⟨_, rfl⟩

theorem reads_root {slash : Token} (isSlash : slash.kind = .slash)
    (alone : ∀ next ∈ rest.head?, ¬ startsStep next)
    : grammar.Reads .location (slash :: rest) (.path true []) rest := by
  intro bound h
  have noStep : ¬ (rest.head?.map startsStep).getD false := by
    cases rest with
    | nil => simp
    | cons next more => simpa using alone next rfl
  rw [locationPath, if_pos isSlash, if_neg noStep]
  exact ⟨_, rfl⟩

theorem startsStep_iff (token : Token) : startsStep token ↔ token.kind ∈ stepKinds := by
  simp [startsStep, stepKinds, or_assoc]

theorem reads_fromRoot {slash : Token} {steps : List Step} (isSlash : slash.kind = .slash)
    (begins : BeginsWith stepKinds tokens) (reads : grammar.Reads .relative tokens steps rest)
    : grammar.Reads .location (slash :: tokens) (.path true steps) rest := by
  intro bound h
  have gives := reads bound (Nat.le_of_succ_le h)
  obtain ⟨token, more, rfl, kind⟩ := begins
  have starts : ((token :: more).head?.map startsStep).getD false := (startsStep_iff token).mpr kind
  rw [locationPath, if_pos isSlash, if_pos starts]
  exact gives.bind fun _ => ⟨_, rfl⟩

theorem reads_anywhere {slash : Token} {steps : List Step} (isDouble : slash.kind = .doubleSlash)
    (reads : grammar.Reads .relative tokens steps rest)
    : grammar.Reads .location (slash :: tokens) (.path true (.anywhereBelow :: steps)) rest := by
  intro bound h
  rw [locationPath, if_neg (by simp [isDouble]), if_pos isDouble]
  exact (reads bound _).bind fun _ => ⟨_, rfl⟩

-----------------------------------------------------------------------------------------
-- Primary expressions
-----------------------------------------------------------------------------------------

theorem reads_number {numeral : Token} (isNumber : numeral.kind = .number)
    : grammar.Reads .primary (numeral :: rest) (.number (Number.ofText numeral.text)) rest := by
  intro bound h
  rw [primary?.eq_def]
  simp only [isNumber]
  exact ⟨_, rfl, _, rfl⟩

theorem reads_string {literal : Token} (isString : literal.kind = .string)
    : grammar.Reads .primary (literal :: rest) (.string (unquoted literal.text)) rest := by
  intro bound h
  rw [primary?.eq_def]
  simp only [isString]
  exact ⟨_, rfl, _, rfl⟩

theorem reads_reference {dollar : Token} (isVariable : dollar.kind = .variable)
    : grammar.Reads .primary (dollar :: rest)
      (.reference (String.ofList (dollar.text.toList.drop 1))) rest := by
  intro bound h
  rw [primary?.eq_def]
  simp only [isVariable]
  exact ⟨_, rfl, _, rfl⟩

theorem reads_enclosed {opener closer : Token} {value : Expr}
    (opens : opener.kind = .openParenthesis) (closes : closer.kind = .closeParenthesis)
    (begins : BeginsWith (Layer.binary .or).kinds tokens)
    (reads : grammar.Reads .whole tokens value (closer :: rest))
    : grammar.Reads .primary (opener :: tokens) value rest := by
  intro bound h
  obtain ⟨token, more, rfl, -⟩ := begins
  rw [primary?.eq_def]
  simp only [opens]
  refine ⟨_, rfl, ?_⟩
  exact (reads.inside bound _).bind fun _ =>
    (gives_closing grammar opener ")" closes rest).bind fun _ => ⟨_, rfl⟩

theorem reads_noFurtherArgument (stops : (Part.furtherArguments 0).Stops rest)
    : grammar.Reads (.furtherArguments 0) rest [] rest := by
  intro bound h
  cases rest with
  | nil =>
      rw [furtherArguments]
      exact ⟨_, rfl⟩
  | cons token more =>
      rw [furtherArguments.eq_def]
      simp only [if_pos (stops token rfl).1]
      exact ⟨_, rfl⟩

theorem reads_furtherArgument {comma : Token} {middle : List Token} {count : Nat} {next : Expr}
    {others : List Expr} (isComma : comma.kind = .comma)
    (readsNext : grammar.Reads .whole tokens next middle)
    (readsOthers : grammar.Reads (.furtherArguments count) middle others rest)
    : grammar.Reads (.furtherArguments (count + 1)) (comma :: tokens) (next :: others) rest := by
  intro bound h
  rw [furtherArguments.eq_def]
  simp only [isComma, ne_eq, not_true_eq_false, if_false]
  exact (readsNext.inside bound _).bind fun _ => (readsOthers bound _).bind fun _ => ⟨_, rfl⟩

theorem reads_noArgument : grammar.Reads (.arguments 0) rest [] rest := by
  rintro bound h name opener closer left rfl closes accepted
  rw [callArguments.eq_def]
  simp only [closes, if_true]
  refine Gives.bind ⟨_, rfl⟩ fun _ => ?_
  refine (gives_closing grammar opener ")" closes left).bind fun _ => ?_
  simp only [accepted]
  exact ⟨_, rfl⟩

theorem reads_someArguments {middle : List Token} {count : Nat} {first : Expr} {others : List Expr}
    (begins : BeginsWith (Layer.binary .or).kinds tokens)
    (readsFirst : grammar.Reads .whole tokens first middle)
    (readsOthers : grammar.Reads (.furtherArguments count) middle others rest)
    : grammar.Reads (.arguments (count + 1)) tokens (first :: others) rest := by
  rintro bound h name opener closer left rfl closes accepted
  have gives := readsFirst.inside bound h
  obtain ⟨token, more, rfl, kind⟩ := begins
  have noCloser : token.kind ≠ .closeParenthesis := fun same => by
    rw [same] at kind
    exact absurd kind (by decide)
  rw [callArguments.eq_def]
  simp only [noCloser, if_false]
  refine Gives.bind (?_ : Gives _ (first :: others) (closer :: left)) fun _ => ?_
  · exact gives.bind fun _ => (readsOthers bound _).bind fun _ => ⟨_, rfl⟩
  · refine (gives_closing grammar opener ")" closes left).bind fun _ => ?_
    simp only [accepted]
    exact ⟨_, rfl⟩

theorem reads_call {name : Token} {function : String} {opener closer : Token}
    {arguments : List Token} {count : Nat} {list : List Expr} (isName : name.kind = .name)
    (head : callHead? (name :: tokens) = some (function, opener, arguments))
    (closes : closer.kind = .closeParenthesis)
    (accepted : checkCall grammar.arityOf function list.length = .ok ())
    (reads : grammar.Reads (.arguments count) arguments list (closer :: rest))
    : grammar.Reads .primary (name :: tokens) (.call function list) rest := by
  intro bound h
  rw [primary?.eq_def]
  simp only [isName]
  split
  case h_1 missing =>
    rw [missing] at head
    cases head
  case h_2 other start inner found =>
    rw [found, Option.some.injEq, Prod.mk.injEq, Prod.mk.injEq] at head
    obtain ⟨rfl, rfl, rfl⟩ := head
    exact ⟨_, rfl, (reads bound _ _ _ closer rest rfl closes accepted).bind fun _ => ⟨_, rfl⟩⟩

theorem callHead?_plain {name opener : Token} (isName : name.kind = .name)
    (noType : ¬ isNodeTypeName name.text) (opens : opener.kind = .openParenthesis)
    : callHead? (name :: opener :: tokens) = some (name.text, opener, tokens) := by
  simp [callHead?.eq_def, isName, noType, opens]

theorem callHead?_qualified {name colon part opener : Token} (isName : name.kind = .name)
    (noType : ¬ isNodeTypeName name.text) (isColon : colon.kind = .colon)
    (isPart : part.kind = .name) (opens : opener.kind = .openParenthesis)
    : callHead? (name :: colon :: part :: opener :: tokens)
      = some (name.text ++ ":" ++ part.text, opener, tokens) := by
  simp [callHead?.eq_def, isName, noType, isColon, isPart, opens]

-----------------------------------------------------------------------------------------
-- Location paths begin no primary expression
-----------------------------------------------------------------------------------------

/-- No call begins where a name is followed by neither a parenthesis nor a colon. -/
theorem callHead?_eq_none {token : Token}
    (ends : token.kind = .name → ∀ next ∈ rest.head?,
      next.kind ≠ .openParenthesis ∧ next.kind ≠ .colon)
    : callHead? (token :: rest) = none := by
  cases rest with
  | nil => rfl
  | cons next more =>
      rw [callHead?.eq_def]
      dsimp only
      split
      case isTrue => rfl
      case isFalse named =>
        rw [not_or, Decidable.not_not] at named
        obtain ⟨noParenthesis, noColon⟩ := ends named.1 next rfl
        rw [if_neg noParenthesis]
        split
        case h_1 isColon => exact absurd isColon noColon
        case h_2 => rfl

/-- No call begins with a node test. -/
theorem Derivation.callHead?_test {middle : List Token}
    (test : grammar.Derivation .test tokens middle) (stops : Part.test.Stops middle)
    : callHead? tokens = none := by
  have ends : ∀ next ∈ middle.head?, next.kind ≠ .openParenthesis ∧ next.kind ≠ .colon :=
    fun next first =>
      ⟨fun same => stops next first (same ▸ by decide),
        fun same => stops next first (same ▸ by decide)⟩
  cases test with
  | anyName isAsterisk => exact callHead?_eq_none fun isName => by simp [isAsterisk] at isName
  | plainName name isName => exact callHead?_eq_none fun _ => ends
  | qualified name part isName continues =>
      have isColon := (kind_of_continuesName continues).1
      cases middle with
      | nil => simp [callHead?.eq_def, isColon]
      | cons next more => simp [callHead?.eq_def, isColon, (ends next rfl).1]
  | nodeType name isName known opens => simp [callHead?.eq_def, known]
  | target literal isName known opens =>
      have typed : isNodeTypeName "processing-instruction" := by decide
      simp [callHead?.eq_def, known, typed]

/-- No call begins with a step. -/
theorem Derivation.callHead?_step (step : grammar.Derivation .step tokens rest)
    (stops : Part.step.Stops rest)
    : callHead? tokens = none := by
  cases step with
  | self isDot => exact callHead?_eq_none fun isName => by simp [isDot] at isName
  | parent isDouble => exact callHead?_eq_none fun isName => by simp [isDouble] at isName
  | onAttributes isAt => exact callHead?_eq_none fun isName => by simp [isAt] at isName
  | onAxis name isName known isDouble =>
      refine callHead?_eq_none fun _ next first => ?_
      obtain rfl := Option.some.inj first
      simp [isDouble]
  | onChildren test predicates =>
      exact callHead?_test test (stops_predicates predicates stops)

/-- No primary expression begins with a location path. -/
theorem Derivation.primary?_location (path : grammar.Derivation .location tokens rest)
    (stops : Part.location.Stops rest) {bound : Nat} (inner : InnerReader bound)
    (h : tokens.length ≤ bound)
    : grammar.primary? inner tokens h = none := by
  obtain ⟨token, more, rfl, kind⟩ := path.begins _ rfl
  have noCall : callHead? (token :: more) = none := by
    cases path with
    | fromContext steps =>
        cases steps with
        | stepwise first others => exact callHead?_step first (stops_further others stops)
    | root isSlash | fromRoot isSlash | anywhere isSlash =>
        exact callHead?_eq_none fun isName => by simp [isSlash] at isName
  rw [primary?.eq_def]
  dsimp only
  split
  case h_1 same => exact absurd kind (by rw [same]; decide)
  case h_2 same => exact absurd kind (by rw [same]; decide)
  case h_3 same => exact absurd kind (by rw [same]; decide)
  case h_4 same => exact absurd kind (by rw [same]; decide)
  case h_5 =>
    split
    case h_1 => rfl
    case h_2 found =>
      rw [noCall] at found
      cases found

-----------------------------------------------------------------------------------------
-- Path expressions
-----------------------------------------------------------------------------------------

/-- A location path is read if it begins no primary expression. -/
theorem reads_located {path : Expr} (begins : BeginsWith pathKinds tokens)
    (noPrimary : ∀ bound (h : tokens.length ≤ bound),
      grammar.primary? (grammar.inside bound) tokens h = none)
    (reads : grammar.Reads .location tokens path rest)
    : grammar.Reads (.expression .path) tokens path rest := by
  intro bound h
  have some : ¬ tokens.isEmpty := by
    obtain ⟨token, more, rfl, -⟩ := begins
    simp
  rw [layer, pathExpression, if_neg some]
  simp only [noPrimary bound h]
  exact reads bound h

/-- A primary expression with predicates is read with the steps that continue it. -/
theorem reads_continued {middle later : List Token} {primary : Expr} {list : List Expr}
    {steps : List Step} (begins : BeginsWith primaryKinds tokens)
    (readsPrimary : grammar.Reads .primary tokens primary middle)
    (readsPredicates : grammar.Reads .predicates middle list later)
    (readsFurther : grammar.Reads .further later steps rest)
    : grammar.Reads (.expression .path) tokens
      (if steps.isEmpty then Derivation.filter primary list
        else .continued (Derivation.filter primary list) steps)
      rest := by
  intro bound h
  have some : ¬ tokens.isEmpty := by
    obtain ⟨token, more, rfl, -⟩ := begins
    simp
  obtain ⟨reading, starts, gives⟩ := readsPrimary bound h
  rw [layer, pathExpression, if_neg some]
  simp only [starts]
  exact gives.bind fun _ => (readsPredicates bound _).bind fun _ =>
    (readsFurther bound _).bind fun _ => ⟨_, rfl⟩

/-- Steps after a separator are further steps. -/
theorem reads_separated {separator : Token} {between steps : List Step}
    (separates : separatorSteps? separator = some between)
    (reads : grammar.Reads .relative tokens steps rest)
    : grammar.Reads .further (separator :: tokens) (between ++ steps) rest
      ∧ (between ++ steps).isEmpty = false := by
  have split (bound : Nat) (h : tokens.length ≤ bound)
      : ∃ first fewer others, grammar.step (grammar.inside bound) tokens h = .ok first
        ∧ Gives (grammar.furtherSteps (grammar.inside bound) first.rest fewer) others rest
        ∧ steps = first.value :: others := by
    obtain ⟨_, given⟩ := reads bound h
    obtain ⟨first, readFirst, given⟩ := bind_eq_ok.mp given
    obtain ⟨others, readOthers, given⟩ := bind_eq_ok.mp given
    cases given
    exact ⟨first, _, others.value, readFirst, ⟨others.fewer, readOthers⟩, rfl⟩
  constructor
  · intro bound h
    obtain ⟨first, _, others, readFirst, gives, rfl⟩ := split bound (Nat.le_of_succ_le h)
    rw [furtherSteps.eq_def]
    simp only [separates, readFirst]
    exact Gives.bind ⟨first.fewer, rfl⟩ fun _ => gives.bind fun _ => ⟨_, rfl⟩
  · obtain ⟨first, _, others, -, -, rfl⟩ := split tokens.length (Nat.le_refl _)
    simp

-----------------------------------------------------------------------------------------
-- All parts
-----------------------------------------------------------------------------------------

theorem Derivation.length_furtherArguments {count : Nat} {tokens rest : List Token}
    : (others : grammar.Derivation (.furtherArguments count) tokens rest) →
      others.tree.length = count
  | .noFurtherArgument => rfl
  | .furtherArgument _ _ others => congrArg Nat.succ (length_furtherArguments others)

theorem Derivation.length_arguments {count : Nat} {tokens rest : List Token}
    : (arguments : grammar.Derivation (.arguments count) tokens rest) →
      arguments.tree.length = count
  | .noArgument => rfl
  | .someArguments _ others => congrArg Nat.succ (length_furtherArguments others)

/-- What can be derived is read where the part stops, by induction on the derivation. Each
part of it stops where the next one begins.
-/
theorem Derivation.reads {part : Part} (derivation : grammar.Derivation part tokens rest)
    (stops : part.Stops rest)
    : grammar.Reads part tokens derivation.tree rest := by
  induction derivation with
  | operands first others readsFirst readsOthers =>
      exact reads_operands (readsFirst (others.stops_operations stops)) (readsOthers stops)
  | noOperation => exact reads_noOperation stops
  | operation combine operator right others readsRight readsOthers =>
      exact reads_operation operator (readsRight (others.stops_operations stops))
        (readsOthers stops)
  | negated minus operand reads => exact reads_negated minus (reads stops)
  | plain operand reads => exact reads_plain (operand.begins _ rfl) (reads stops)
  | located path reads =>
      have stopsPath := (Part.stops_path stops).1
      exact reads_located ((path.begins _ rfl).mono (List.subset_append_left _ _))
        (fun bound h => path.primary?_location stopsPath _ h) (reads stopsPath)
  | filtered primary predicates readsPrimary readsPredicates =>
      obtain ⟨stopsPath, stopsPredicates⟩ := Part.stops_path stops
      exact reads_continued (primary.begins _ rfl) (readsPrimary fun _ _ => trivial)
        (readsPredicates stopsPredicates) (reads_noStep stopsPath)
  | continued between primary predicates separates steps readsPrimary readsPredicates readsSteps =>
      obtain ⟨readsFurther, some⟩ :=
        reads_separated separates (readsSteps (Part.stops_path stops).1)
      have reads := reads_continued (primary.begins _ rfl) (readsPrimary fun _ _ => trivial)
        (readsPredicates (Part.stops_cons _ (ends_of_separatorSteps? separates) _)) readsFurther
      rw [some, if_neg Bool.false_ne_true] at reads
      exact reads
  | fromContext steps reads => exact reads_fromContext (steps.begins _ rfl) (reads stops)
  | root isSlash alone => exact reads_root isSlash alone
  | fromRoot isSlash steps reads =>
      exact reads_fromRoot isSlash (steps.begins _ rfl) (reads stops)
  | anywhere isDouble steps reads => exact reads_anywhere isDouble (reads stops)
  | stepwise first others readsFirst readsOthers =>
      exact reads_stepwise (readsFirst (others.stops_further stops)) (readsOthers stops)
  | noStep => exact reads_noStep stops
  | furtherStep between separates next others readsNext readsOthers =>
      exact reads_furtherStep separates (readsNext (others.stops_further stops))
        (readsOthers stops)
  | self isDot => exact reads_self isDot
  | parent isDouble => exact reads_parent isDouble
  | onAttributes isAt test predicates readsTest readsPredicates =>
      exact reads_onAttributes isAt (readsTest (predicates.stops_predicates stops))
        (readsPredicates stops)
  | onAxis name isName known isDouble test predicates readsTest readsPredicates =>
      exact reads_onAxis isName known isDouble (readsTest (predicates.stops_predicates stops))
        (readsPredicates stops)
  | onChildren test predicates readsTest readsPredicates =>
      have stopsTest := predicates.stops_predicates stops
      exact reads_onChildren (test.begins_test stopsTest) (readsTest stopsTest)
        (readsPredicates stops)
  | noPredicate => exact reads_noPredicate stops
  | predicate opens inside closes others readsInside readsOthers =>
      exact reads_predicate opens closes (inside.begins _ rfl)
        (readsInside (Part.stops_whole (.inr (.inl closes)) _)) (readsOthers stops)
  | anyName isAsterisk => exact reads_anyName isAsterisk
  | plainName name isName => exact reads_plainName isName stops
  | qualified name part isName continues => exact reads_qualified isName continues
  | nodeType name isName known opens closes => exact reads_nodeType isName known opens closes
  | target literal isName known opens isString closes =>
      exact reads_target isName known opens isString closes
  | number numeral isNumber => exact reads_number isNumber
  | string literal isString => exact reads_string isString
  | reference dollar isVariable => exact reads_reference isVariable
  | enclosed opens inside closes readsInside =>
      exact reads_enclosed opens closes (inside.begins _ rfl)
        (readsInside (Part.stops_whole (.inl closes) _))
  | call name isName noType opens arguments closes accepted reads =>
      -- the reader counts the arguments that it has read
      rw [← arguments.length_arguments] at accepted
      exact reads_call isName (callHead?_plain isName noType opens) closes accepted
        (reads (Part.stops_cons (.arguments _) closes _))
  | qualifiedCall name part isName noType isColon isPart opens arguments closes accepted reads =>
      rw [← arguments.length_arguments] at accepted
      exact reads_call isName (callHead?_qualified isName noType isColon isPart opens) closes
        accepted (reads (Part.stops_cons (.arguments _) closes _))
  | noArgument => exact reads_noArgument
  | @someArguments _ _ _ count first others readsFirst readsOthers =>
      have closing : (Part.furtherArguments count).Stops _ :=
        stops.imp fun _ closes => Part.ends_furtherArguments count closes
      exact reads_someArguments (first.begins _ rfl)
        (readsFirst (others.stops_furtherArguments closing)) (readsOthers closing)
  | noFurtherArgument => exact reads_noFurtherArgument stops
  | furtherArgument isComma next others readsNext readsOthers =>
      exact reads_furtherArgument isComma (readsNext (others.stops_furtherArguments stops))
        (readsOthers stops)

/-- All tokens are read as what is derived from them. -/
theorem Derivation.whole_eq (derivation : grammar.Derivation .whole tokens [])
    : grammar.whole tokens = .ok derivation.tree := by
  obtain ⟨token, more, rfl, -⟩ := derivation.begins _ rfl
  obtain ⟨fewer, gives⟩ :=
    (derivation.reads (Part.stops_nil _)).inside (token :: more).length.succ (Nat.lt_succ_self _)
  rw [inside] at gives
  rw [whole, gives]
  rfl

end Grammar

end PathQuery
