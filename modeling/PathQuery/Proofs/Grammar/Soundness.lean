import PathQuery.Proofs.Grammar.Layers

/-! What is read can be derived. The readers are given one for the expressions inside of
others; if that takes only what can be derived, so do they, and the whole follows by
induction on the number of tokens.
-/

namespace PathQuery.Grammar

/-- A part can be derived from tokens with a value and with tokens that are left. -/
def Derives (grammar : Grammar) (part : Part) (tokens : List Token) (value : part.Value)
    (rest : List Token)
    : Prop :=
  ∃ derivation : grammar.Derivation part tokens rest, derivation.tree = value

/-- What a reader for inner expressions takes can be derived. -/
def SoundInside (grammar : Grammar) {bound : Nat} (inner : InnerReader bound) : Prop :=
  ∀ tokens h taken, inner tokens h = .ok taken →
    grammar.Derives .whole tokens taken.value taken.rest

variable {grammar : Grammar} {bound : Nat} {inner : InnerReader bound} {tokens : List Token}

/-- A closing token is the first one, and what follows it is left. -/
theorem eq_of_closing {opener : Token} {kind : TokenKind} {closer : String}
    {taken : Taken Unit tokens.length}
    (read : grammar.closing opener kind closer tokens = .ok taken)
    : ∃ token rest, token.kind = kind ∧ tokens = token :: rest ∧ taken.rest = rest := by
  cases tokens with
  | nil => cases read
  | cons token rest =>
      rw [closing] at read
      split at read
      case isTrue same =>
          cases read
          exact ⟨token, rest, same, rfl, rfl⟩
      case isFalse => cases read

/-- An inner expression is derived up to the token that closes it. -/
theorem derives_closed (sound : grammar.SoundInside inner) {opener : Token} {kind : TokenKind}
    {closer : String} {h : tokens.length < bound} {taken : Taken Expr tokens.length}
    {closed : Taken Unit taken.rest.length} (read : inner tokens h = .ok taken)
    (readCloser : grammar.closing opener kind closer taken.rest = .ok closed)
    : ∃ token, token.kind = kind
      ∧ grammar.Derives .whole tokens taken.value (token :: closed.rest) := by
  obtain ⟨token, rest, same, left, closedRest⟩ := eq_of_closing readCloser
  refine ⟨token, same, ?_⟩
  rw [closedRest, ← left]
  exact sound tokens h taken read

-----------------------------------------------------------------------------------------
-- Steps
-----------------------------------------------------------------------------------------

theorem derives_predicates (sound : grammar.SoundInside inner) {tokens : List Token}
    {h : tokens.length ≤ bound} {taken : Taken (List Expr) (tokens.length + 1)}
    (read : grammar.predicates inner tokens h = .ok taken)
    : grammar.Derives .predicates tokens taken.value taken.rest := by
  fun_induction grammar.predicates inner tokens h with
  | case1 =>
      cases read
      exact ⟨.noPredicate, rfl⟩
  | case2 =>
      cases read
      exact ⟨.noPredicate, rfl⟩
  | case3 | case4 => cases read
  | case5 opener opens next more h noEnd _ ih =>
      obtain ⟨predicate, readInside, read⟩ := bind_eq_ok.mp read
      obtain ⟨closed, readCloser, read⟩ := bind_eq_ok.mp read
      obtain ⟨others, readOthers, read⟩ := bind_eq_ok.mp read
      cases read
      obtain ⟨closer, closes, inside, same⟩ := derives_closed sound readInside readCloser
      obtain ⟨further, rest⟩ := ih predicate closed readOthers
      show grammar.Derives .predicates _ (predicate.value :: others.value) others.rest
      refine ⟨.predicate (Decidable.not_not.mp opens) inside closes further, ?_⟩
      show inside.tree :: further.tree = _
      rw [same, rest]

theorem derives_nodeType {name opener : Token} {taken : Taken NodeTest tokens.length}
    (isName : name.kind = .name) (known : isNodeTypeName name.text)
    (opens : opener.kind = .openParenthesis)
    (read : grammar.nodeType name opener tokens = .ok taken)
    : grammar.Derives .test (name :: opener :: tokens) taken.value taken.rest := by
  cases tokens with
  | nil => cases read
  | cons token rest =>
      rw [nodeType] at read
      split at read
      case isTrue target =>
          obtain ⟨closed, readCloser, read⟩ := bind_eq_ok.mp read
          cases read
          obtain ⟨closer, left, closes, rfl, same⟩ := eq_of_closing readCloser
          show grammar.Derives .test _ (.instruction (some (unquoted token.text))) closed.rest
          rw [same]
          exact ⟨.target token isName target.1 opens target.2 closes, rfl⟩
      case isFalse =>
          obtain ⟨closed, readCloser, read⟩ := bind_eq_ok.mp read
          cases read
          obtain ⟨closer, left, closes, ⟨⟩, same⟩ := eq_of_closing readCloser
          show grammar.Derives .test _ (nodeTypeTest name.text) closed.rest
          rw [same]
          exact ⟨.nodeType name isName known opens closes, rfl⟩

theorem derives_namedTest {name : Token} {taken : Taken NodeTest (tokens.length + 1)}
    (isName : name.kind = .name) (read : grammar.namedTest name tokens = .ok taken)
    : grammar.Derives .test (name :: tokens) taken.value taken.rest := by
  cases tokens with
  | nil =>
      cases read
      exact ⟨.plainName name isName, rfl⟩
  | cons token rest =>
      rw [namedTest.eq_def] at read
      dsimp only at read
      split at read
      case isTrue typed =>
          obtain ⟨test, readTest, read⟩ := bind_eq_ok.mp read
          cases read
          exact derives_nodeType isName typed.2 typed.1 readTest
      case isFalse =>
          cases rest with
          | nil =>
              cases read
              exact ⟨.plainName name isName, rfl⟩
          | cons part more =>
              dsimp only at read
              split at read
              case isTrue continues =>
                  cases read
                  exact ⟨.qualified name part isName continues, rfl⟩
              case isFalse =>
                  cases read
                  exact ⟨.plainName name isName, rfl⟩

theorem derives_nodeTest {taken : Taken NodeTest tokens.length}
    (read : grammar.nodeTest tokens = .ok taken)
    : grammar.Derives .test tokens taken.value taken.rest := by
  cases tokens with
  | nil => cases read
  | cons token rest =>
      rw [nodeTest] at read
      split at read
      case isTrue isAsterisk =>
          cases read
          exact ⟨.anyName isAsterisk, rfl⟩
      case isFalse =>
          split at read
          case isTrue isName => exact derives_namedTest isName read
          case isFalse => cases read

/-- The node test and the predicates of a step are read as they are derived. -/
theorem derives_stepOn (sound : grammar.SoundInside inner) {axis : String}
    {h : tokens.length ≤ bound} {taken : Taken Step tokens.length}
    (read : grammar.stepOn inner axis tokens h = .ok taken)
    : ∃ middle, ∃ test : grammar.Derivation .test tokens middle,
        ∃ predicates : grammar.Derivation .predicates middle taken.rest,
        taken.value = .mk axis test.tree predicates.tree := by
  obtain ⟨test, readTest, read⟩ := bind_eq_ok.mp read
  obtain ⟨predicates, readPredicates, read⟩ := bind_eq_ok.mp read
  cases read
  obtain ⟨testing, testTree⟩ := derives_nodeTest readTest
  obtain ⟨filtering, filterTree⟩ := derives_predicates sound readPredicates
  exact ⟨test.rest, testing, filtering,
    congr (congrArg (Step.mk axis) testTree.symm) filterTree.symm⟩

theorem derives_step (sound : grammar.SoundInside inner) {h : tokens.length ≤ bound}
    {taken : Taken Step tokens.length} (read : grammar.step inner tokens h = .ok taken)
    : grammar.Derives .step tokens taken.value taken.rest := by
  cases tokens with
  | nil => cases read
  | cons token rest =>
      rw [step.eq_def] at read
      dsimp only at read
      split at read
      case isTrue isDot =>
          cases read
          exact ⟨.self isDot, rfl⟩
      case isFalse =>
      split at read
      case isTrue isDouble =>
          cases read
          exact ⟨.parent isDouble, rfl⟩
      case isFalse =>
      split at read
      case isTrue isAt =>
          obtain ⟨onAxis, readOn, read⟩ := bind_eq_ok.mp read
          cases read
          obtain ⟨middle, test, predicates, same⟩ := derives_stepOn sound readOn
          exact ⟨.onAttributes isAt test predicates, same.symm⟩
      case isFalse =>
      have onChildren {taken : Taken Step (token :: rest).length} {h}
          (read : grammar.stepOn inner "child" (token :: rest) h = .ok taken)
          : grammar.Derives .step (token :: rest) taken.value taken.rest := by
        obtain ⟨middle, test, predicates, same⟩ := derives_stepOn sound read
        exact ⟨.onChildren test predicates, same.symm⟩
      cases rest with
      | nil => exact onChildren read
      | cons next more =>
          dsimp only at read
          split at read
          case isFalse => exact onChildren read
          case isTrue isDouble =>
              split at read
              case isTrue known =>
                  obtain ⟨onAxis, readOn, read⟩ := bind_eq_ok.mp read
                  cases read
                  obtain ⟨middle, test, predicates, same⟩ := derives_stepOn sound readOn
                  exact ⟨.onAxis token known.1 known.2 isDouble test predicates, same.symm⟩
              case isFalse => cases read

-----------------------------------------------------------------------------------------
-- Paths
-----------------------------------------------------------------------------------------

theorem derives_furtherSteps (sound : grammar.SoundInside inner) {tokens : List Token}
    {h : tokens.length ≤ bound} {taken : Taken (List Step) (tokens.length + 1)}
    (read : grammar.furtherSteps inner tokens h = .ok taken)
    : grammar.Derives .further tokens taken.value taken.rest := by
  fun_induction grammar.furtherSteps inner tokens h with
  | case1 | case2 =>
      cases read
      exact ⟨.noStep, rfl⟩
  | case3 separator rest h between separates _ ih =>
      obtain ⟨first, readFirst, read⟩ := bind_eq_ok.mp read
      obtain ⟨others, readOthers, read⟩ := bind_eq_ok.mp read
      cases read
      obtain ⟨next, nextTree⟩ := derives_step sound readFirst
      obtain ⟨more, moreTree⟩ := ih first readOthers
      show grammar.Derives .further _ (between ++ first.value :: others.value) others.rest
      refine ⟨.furtherStep between separates next more, ?_⟩
      show between ++ next.tree :: more.tree = _
      rw [nextTree, moreTree]

theorem derives_steps (sound : grammar.SoundInside inner) {h : tokens.length ≤ bound}
    {taken : Taken (List Step) tokens.length} (read : grammar.steps inner tokens h = .ok taken)
    : grammar.Derives .relative tokens taken.value taken.rest := by
  obtain ⟨first, readFirst, read⟩ := bind_eq_ok.mp read
  obtain ⟨others, readOthers, read⟩ := bind_eq_ok.mp read
  cases read
  obtain ⟨next, nextTree⟩ := derives_step sound readFirst
  obtain ⟨more, moreTree⟩ := derives_furtherSteps sound readOthers
  exact ⟨.stepwise next more, congr (congrArg List.cons nextTree) moreTree⟩

theorem derives_locationPath (sound : grammar.SoundInside inner) {h : tokens.length ≤ bound}
    {taken : Taken Expr tokens.length} (read : grammar.locationPath inner tokens h = .ok taken)
    : grammar.Derives .location tokens taken.value taken.rest := by
  cases tokens with
  | nil =>
      obtain ⟨steps, readSteps, -⟩ := bind_eq_ok.mp read
      obtain ⟨first, readFirst, -⟩ := bind_eq_ok.mp readSteps
      cases readFirst
  | cons token rest =>
      rw [locationPath] at read
      split at read
      case isTrue isSlash =>
          split at read
          case isTrue =>
              obtain ⟨steps, readSteps, read⟩ := bind_eq_ok.mp read
              cases read
              obtain ⟨path, same⟩ := derives_steps sound readSteps
              exact ⟨.fromRoot isSlash path, congrArg (Expr.path true) same⟩
          case isFalse alone =>
              cases read
              have noStep : ∀ next ∈ rest.head?, ¬ startsStep next := fun next first starts =>
                alone (by rw [Option.mem_def.mp first]; exact starts)
              exact ⟨.root isSlash noStep, rfl⟩
      case isFalse =>
          split at read
          case isTrue isDouble =>
              obtain ⟨steps, readSteps, read⟩ := bind_eq_ok.mp read
              cases read
              obtain ⟨path, same⟩ := derives_steps sound readSteps
              exact ⟨.anywhere isDouble path,
                congrArg (fun list => Expr.path true (.anywhereBelow :: list)) same⟩
          case isFalse =>
              obtain ⟨steps, readSteps, read⟩ := bind_eq_ok.mp read
              cases read
              obtain ⟨path, same⟩ := derives_steps sound readSteps
              exact ⟨.fromContext path, congrArg (Expr.path false) same⟩

-----------------------------------------------------------------------------------------
-- Primary expressions
-----------------------------------------------------------------------------------------

theorem derives_furtherArguments (sound : grammar.SoundInside inner) {tokens : List Token}
    {h : tokens.length < bound} {taken : Taken (List Expr) (tokens.length + 1)}
    (read : furtherArguments inner tokens h = .ok taken)
    : grammar.Derives (.furtherArguments taken.value.length) tokens taken.value taken.rest := by
  fun_induction furtherArguments inner tokens h with
  | case1 | case2 =>
      cases read
      exact ⟨.noFurtherArgument, rfl⟩
  | case3 comma rest h isComma _ ih =>
      obtain ⟨argument, readArgument, read⟩ := bind_eq_ok.mp read
      obtain ⟨others, readOthers, read⟩ := bind_eq_ok.mp read
      cases read
      obtain ⟨next, nextTree⟩ := sound _ _ argument readArgument
      obtain ⟨more, moreTree⟩ := ih argument readOthers
      show grammar.Derives (.furtherArguments (others.value.length + 1)) _
        (argument.value :: others.value) others.rest
      refine ⟨.furtherArgument (Decidable.not_not.mp isComma) next more, ?_⟩
      show next.tree :: more.tree = _
      rw [nextTree, moreTree]

theorem derives_callArguments (sound : grammar.SoundInside inner) {name : String} {opener : Token}
    {h : tokens.length < bound} {taken : Taken Expr tokens.length}
    (read : grammar.callArguments inner name opener tokens h = .ok taken)
    : ∃ closer list, grammar.Derives (.arguments list.length) tokens list (closer :: taken.rest)
      ∧ closer.kind = .closeParenthesis
      ∧ checkCall grammar.arityOf name list.length = .ok ()
      ∧ taken.value = .call name list := by
  obtain ⟨list, readList, read⟩ := bind_eq_ok.mp read
  obtain ⟨closed, readCloser, read⟩ := bind_eq_ok.mp read
  split at read
  case h_1 => cases read
  case h_2 accepted =>
  cases read
  obtain ⟨closer, left, closes, rest, same⟩ := eq_of_closing readCloser
  refine ⟨closer, list.value, ?_, closes, accepted, rfl⟩
  show grammar.Derives (.arguments list.value.length) tokens list.value (closer :: closed.rest)
  rw [same, ← rest]
  cases tokens with
  | nil => cases readList
  | cons token more =>
      dsimp only at readList
      split at readList
      case isTrue =>
          cases readList
          exact ⟨.noArgument, rfl⟩
      case isFalse =>
          obtain ⟨first, readFirst, readList⟩ := bind_eq_ok.mp readList
          obtain ⟨others, readOthers, readList⟩ := bind_eq_ok.mp readList
          cases readList
          obtain ⟨argument, argumentTree⟩ := sound _ _ first readFirst
          obtain ⟨further, furtherTree⟩ := derives_furtherArguments sound readOthers
          show grammar.Derives (.arguments (others.value.length + 1)) _
            (first.value :: others.value) others.rest
          refine ⟨.someArguments argument further, ?_⟩
          show argument.tree :: further.tree = _
          rw [argumentTree, furtherTree]

/-- What a call begins with: a name of a function, which may have a qualifier, and the parenthesis
that opens the arguments.
-/
inductive CallHead : List Token → String → Token → List Token → Prop
  | plain {name opener : Token} {arguments : List Token} (isName : name.kind = .name)
    (noType : ¬ isNodeTypeName name.text) (opens : opener.kind = .openParenthesis)
    : CallHead (name :: opener :: arguments) name.text opener arguments
  | qualified {name colon part opener : Token} {arguments : List Token}
    (isName : name.kind = .name) (noType : ¬ isNodeTypeName name.text)
    (isColon : colon.kind = .colon) (isPart : part.kind = .name)
    (opens : opener.kind = .openParenthesis)
    : CallHead (name :: colon :: part :: opener :: arguments) (name.text ++ ":" ++ part.text)
        opener arguments

theorem CallHead.of_callHead? {name : String} {opener : Token} {arguments : List Token}
    (head : callHead? tokens = some (name, opener, arguments))
    : CallHead tokens name opener arguments := by
  rw [callHead?.eq_def] at head
  split at head
  case h_2 => cases head
  case h_1 first next others =>
    split at head
    case isTrue => cases head
    case isFalse named =>
    rw [not_or, Decidable.not_not] at named
    split at head
    case isTrue opens =>
        cases head
        exact .plain named.1 named.2 opens
    case isFalse =>
    split at head
    case h_2 => cases head
    case h_1 part parenthesis more isColon =>
    split at head
    case isFalse => cases head
    case isTrue both =>
        cases head
        exact .qualified named.1 named.2 isColon both.1 both.2

theorem CallHead.suffix {name : String} {opener : Token} {arguments : List Token}
    (head : CallHead tokens name opener arguments)
    : arguments <:+ tokens := by
  cases head with
  | plain => exact List.suffix_append [_, _] _
  | qualified => exact List.suffix_append [_, _, _, _] _

/-- A call is derived from the name that it begins with and its arguments. -/
theorem derives_call {name : String} {opener closer : Token} {arguments rest : List Token}
    {list : List Expr} (head : callHead? tokens = some (name, opener, arguments))
    (derived : grammar.Derives (.arguments list.length) arguments list (closer :: rest))
    (closes : closer.kind = .closeParenthesis)
    (accepted : checkCall grammar.arityOf name list.length = .ok ())
    : grammar.Derives .primary tokens (.call name list) rest := by
  obtain ⟨derivation, same⟩ := derived
  have same := congrArg (Expr.call name) same
  cases CallHead.of_callHead? head with
  | plain isName noType opens =>
      exact ⟨.call _ isName noType opens derivation closes accepted, same⟩
  | qualified isName noType isColon isPart opens =>
      exact ⟨.qualifiedCall _ _ isName noType isColon isPart opens derivation closes accepted,
        same⟩

theorem derives_primary (sound : grammar.SoundInside inner) {h : tokens.length ≤ bound}
    {taken : Taken Expr tokens.length}
    (read : grammar.primary? inner tokens h = some (.ok taken))
    : grammar.Derives .primary tokens taken.value taken.rest := by
  cases tokens with
  | nil => cases read
  | cons token rest =>
      rw [primary?.eq_def] at read
      dsimp only at read
      split at read
      case h_1 isNumber =>
          cases read
          exact ⟨.number token isNumber, rfl⟩
      case h_2 isString =>
          cases read
          exact ⟨.string token isString, rfl⟩
      case h_3 isVariable =>
          cases read
          exact ⟨.reference token isVariable, rfl⟩
      case h_4 opens =>
          rw [Option.some.injEq] at read
          split at read
          case isTrue => cases read
          case isFalse =>
              obtain ⟨inside, readInside, read⟩ := bind_eq_ok.mp read
              obtain ⟨closed, readCloser, read⟩ := bind_eq_ok.mp read
              cases read
              obtain ⟨closer, closes, derivation, same⟩ :=
                derives_closed sound readInside readCloser
              exact ⟨.enclosed opens derivation closes, same⟩
      case h_5 =>
          split at read
          case h_1 => cases read
          case h_2 name opener arguments head =>
              rw [Option.some.injEq] at read
              obtain ⟨call, readCall, read⟩ := bind_eq_ok.mp read
              cases read
              obtain ⟨closer, list, derived, closes, accepted, same⟩ :=
                derives_callArguments sound readCall
              show grammar.Derives .primary _ call.value call.rest
              rw [same]
              exact derives_call head derived closes accepted

/-- A primary expression with predicates is continued by a path if there are further steps. -/
theorem derives_continued {primary : Expr} {list : List Expr} {steps : List Step}
    {middle later rest : List Token} (first : grammar.Derives .primary tokens primary middle)
    (predicates : grammar.Derives .predicates middle list later)
    (further : grammar.Derives .further later steps rest)
    : grammar.Derives (.expression .path) tokens
      (if steps.isEmpty then Derivation.filter primary list
        else .continued (Derivation.filter primary list) steps)
      rest := by
  obtain ⟨first, rfl⟩ := first
  obtain ⟨predicates, rfl⟩ := predicates
  obtain ⟨further, rfl⟩ := further
  cases further with
  | noStep => exact ⟨.filtered first predicates, rfl⟩
  | furtherStep between separates next others =>
      refine ⟨.continued between first predicates separates (.stepwise next others), ?_⟩
      show _ = if (between ++ next.tree :: others.tree).isEmpty then _ else _
      rw [if_neg (by simp)]
      rfl

theorem derives_pathExpression (sound : grammar.SoundInside inner) {h : tokens.length ≤ bound}
    {taken : Taken Expr tokens.length} (read : grammar.pathExpression inner tokens h = .ok taken)
    : grammar.Derives (.expression .path) tokens taken.value taken.rest := by
  rw [pathExpression] at read
  split at read
  case isTrue => cases read
  case isFalse =>
  split at read
  case h_1 =>
    obtain ⟨path, same⟩ := derives_locationPath sound read
    exact ⟨.located path, same⟩
  case h_2 reading starts =>
    obtain ⟨primary, readPrimary, read⟩ := bind_eq_ok.mp read
    obtain ⟨list, readList, read⟩ := bind_eq_ok.mp read
    obtain ⟨continuing, readContinuing, read⟩ := bind_eq_ok.mp read
    cases read
    subst readPrimary
    exact derives_continued (derives_primary sound starts) (derives_predicates sound readList)
      (derives_furtherSteps sound readContinuing)

-----------------------------------------------------------------------------------------
-- Operators
-----------------------------------------------------------------------------------------

/-- What a reader for a layer takes can be derived. -/
def SoundLayer (grammar : Grammar) {bound : Nat} (layer : Layer) (reader : Reader Expr bound)
    : Prop :=
  ∀ tokens h taken, reader tokens h = .ok taken →
    grammar.Derives (.expression layer) tokens taken.value taken.rest

/-- Operations of a level are read as they are derived. -/
theorem derives_operations {level : Level} {operand : Reader Expr bound}
    (sound : grammar.SoundLayer level.operand operand) {left : Expr} {tokens : List Token}
    {h : tokens.length ≤ bound} {taken : Taken Expr (tokens.length + 1)}
    (read : operations level.read? operand left tokens h = .ok taken)
    : ∃ combine, grammar.Derives (.operations level) tokens combine taken.rest
      ∧ taken.value = combine left := by
  fun_induction operations level.read? operand left tokens h with
  | case1 | case2 =>
      cases read
      exact ⟨_, ⟨.noOperation, rfl⟩, rfl⟩
  | case3 left token rest h combine operator _ ih =>
      obtain ⟨right, readRight, read⟩ := bind_eq_ok.mp read
      obtain ⟨whole, readWhole, read⟩ := bind_eq_ok.mp read
      cases read
      rw [Level.read?_eq] at operator
      obtain ⟨derivation, rightTree⟩ := sound _ _ right readRight
      obtain ⟨others, ⟨further, rfl⟩, same⟩ := ih right readWhole
      refine ⟨_, ⟨.operation combine operator derivation further, rfl⟩, ?_⟩
      show whole.value = further.tree (combine left derivation.tree)
      rw [same, rightTree]

theorem soundLayer_binary {level : Level} {operand : Reader Expr bound}
    (sound : grammar.SoundLayer level.operand operand)
    : grammar.SoundLayer (.binary level) (Grammar.level level.read? operand) := by
  intro tokens h taken read
  obtain ⟨first, readFirst, read⟩ := bind_eq_ok.mp read
  obtain ⟨whole, readWhole, read⟩ := bind_eq_ok.mp read
  cases read
  obtain ⟨left, leftTree⟩ := sound _ _ first readFirst
  obtain ⟨_, ⟨others, rfl⟩, same⟩ := derives_operations sound readWhole
  refine ⟨.operands left others, ?_⟩
  show others.tree left.tree = whole.value
  rw [leftTree, same]

/-- Negations are read as they are derived if unions are. -/
theorem soundLayer_negation {operand : Reader Expr bound}
    (sound : grammar.SoundLayer (.binary .union) operand)
    : grammar.SoundLayer .negation (negation operand) := by
  intro tokens h taken read
  induction tokens with
  | nil =>
      obtain ⟨derivation, same⟩ := sound _ _ taken read
      exact ⟨.plain derivation, same⟩
  | cons token rest ih =>
      rw [negation] at read
      split at read
      case isTrue minus =>
          obtain ⟨inside, readInside, read⟩ := bind_eq_ok.mp read
          cases read
          obtain ⟨derivation, same⟩ := ih _ inside readInside
          exact ⟨.negated minus derivation, congrArg Expr.negate same⟩
      case isFalse =>
          obtain ⟨derivation, same⟩ := sound _ _ taken read
          exact ⟨.plain derivation, same⟩

theorem soundLayer (sound : grammar.SoundInside inner) (layer : Layer)
    : grammar.SoundLayer layer (grammar.layer inner layer) := by
  fun_induction grammar.layer inner layer with
  | case1 => exact fun tokens h taken read => derives_pathExpression sound read
  | case2 ih => exact soundLayer_negation ih
  | case3 level ih => exact soundLayer_binary ih

/-- An expression is read as it is derived. -/
theorem derives_expression {tokens : List Token} {taken : Taken Expr tokens.length}
    (read : grammar.expression tokens = .ok taken)
    : grammar.Derives .whole tokens taken.value taken.rest := by
  fun_induction grammar.expression tokens with
  | case1 tokens ih =>
      rw [operators_eq] at read
      exact soundLayer (fun inside h taken read => ih inside h read) _ _ _ taken read

/-- All tokens are read as they are derived. -/
theorem derives_whole {tokens : List Token} {root : Expr} (read : grammar.whole tokens = .ok root)
    : grammar.Derives .whole tokens root [] := by
  rw [whole] at read
  split at read
  case isTrue => cases read
  case isFalse =>
    obtain ⟨taken, readTaken, read⟩ := bind_eq_ok.mp read
    split at read
    case isTrue done =>
        cases read
        have derived := derives_expression readTaken
        rwa [List.isEmpty_iff.mp done] at derived
    case isFalse => cases read

end PathQuery.Grammar
