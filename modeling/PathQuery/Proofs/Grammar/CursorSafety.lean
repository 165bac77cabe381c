import PathQuery.Proofs.Grammar.Cursor
import PathQuery.Proofs.Grammar.Structure
import PathQuery.Proofs.Grammar.ValidPrefix

/-! A cursor over the tokens of a text reads what the readers read, if its depth is more than the
number of the tokens. So it never takes a token past the end, no assertion fails, all numerals are
converted and its calls and loops come to an end.
-/

namespace PathQuery.Cursor

variable {α β : Type} {grammar : Grammar} {tokens : List Token} {depth : Nat}

-----------------------------------------------------------------------------------------
-- Runs
-----------------------------------------------------------------------------------------

/-- A cursor comes to what a reading comes to: the same value with the same tokens left, among which
numbers are numerals, or the same fault.
-/
inductive Runs {α : Type} {bound : Nat} : Except Halt (α × List Token) → Reading α bound → Prop
  | taken {value : α} {rest : List Token} {fewer : rest.length < bound}
    (numerals : Token.HaveNumerals rest)
    : Runs (.ok (value, rest)) (.ok ⟨value, rest, fewer⟩)
  | fault (fault : ParseFault) : Runs (.error (.fault fault)) (.error fault)

theorem bind_apply (first : Cursor α) (next : α → Cursor β) (tokens : List Token)
    : (first >>= next) tokens = first tokens >>= fun outcome => next outcome.1 outcome.2 :=
  rfl

/-- A cursor goes on as a reading does if it does so from the same value and tokens. -/
theorem Runs.bind {bound larger : Nat} {first : Cursor α} {next : α → Cursor β}
    {reading : Reading α bound} {further : Taken α bound → Reading β larger}
    (runs : Runs (first tokens) reading)
    (goes : ∀ value rest fewer, Token.HaveNumerals rest →
      Runs (next value rest) (further ⟨value, rest, fewer⟩))
    : Runs ((first >>= next) tokens) (reading >>= further) := by
  rw [bind_apply]
  generalize first tokens = outcome at runs
  cases runs with
  | taken numerals => exact goes _ _ _ numerals
  | fault fault => exact .fault fault

theorem Runs.weakened {bound larger : Nat} {outcome : Except Halt (α × List Token)}
    {reading : Reading α bound} (runs : Runs outcome reading) (h : bound ≤ larger)
    : Runs outcome (reading >>= fun taken => .ok (taken.weaken h)) := by
  cases runs with
  | taken numerals => exact .taken numerals
  | fault fault => exact .fault fault

theorem bind_eq {first : Cursor α} {value : α} {rest : List Token}
    (taken : first tokens = .ok (value, rest)) (next : α → Cursor β)
    : (first >>= next) tokens = next value rest := by
  rw [bind_apply, taken]
  rfl

section Branches

variable {token : Token} {rest : List Token} {kind : TokenKind} (yes no : Cursor α)

theorem atEnd_cons (token : Token) (rest : List Token)
    : (atEnd >>= fun ends => if ends then yes else no) (token :: rest) = no (token :: rest) :=
  rfl

theorem follows_pos (same : token.kind = kind)
    : (follows kind >>= fun found => if found then yes else no) (token :: rest)
      = yes (token :: rest) := by
  show (if Option.any (·.kind = kind) (some token) then yes else no) (token :: rest) = _
  rw [if_pos (by simp [same])]

theorem follows_neg (other : token.kind ≠ kind)
    : (follows kind >>= fun found => if found then yes else no) (token :: rest)
      = no (token :: rest) := by
  show (if Option.any (·.kind = kind) (some token) then yes else no) (token :: rest) = _
  rw [if_neg (by simp [other])]

/-- What is tested without moving on decides between two branches. -/
theorem test_bind {test : Cursor Bool} {found : Bool} {tokens : List Token}
    (tested : test tokens = .ok (found, tokens))
    : (test >>= fun found => if found then yes else no) tokens
      = if found then yes tokens else no tokens := by
  rw [bind_eq tested]
  cases found <;> rfl

theorem lookahead_bind (offset : Nat) (next : Option Token → Cursor α) (tokens : List Token)
    : (lookahead offset >>= next) tokens = next tokens[offset]? tokens :=
  rfl

theorem consume_bind (next : Token → Cursor α) (token : Token) (rest : List Token)
    : (consume >>= next) (token :: rest) = next token rest :=
  rfl

end Branches

theorem runs_closing (numerals : Token.HaveNumerals tokens) (opener : Token) (kind : TokenKind)
    (closer : String)
    : Runs (expectClosing grammar opener kind closer tokens)
        (grammar.closing opener kind closer tokens) := by
  cases tokens with
  | nil => exact .fault _
  | cons token rest =>
      rw [expectClosing, atEnd_cons, Grammar.closing]
      split
      case isTrue same =>
          rw [follows_pos _ _ same]
          exact .taken numerals.tail
      case isFalse other =>
          rw [follows_neg _ _ other]
          exact .fault _

/-- A cursor for inner expressions comes to what the reader for them does. -/
def RunsInside {bound : Nat} (inner : Cursor Expr) (reader : InnerReader bound) : Prop :=
  ∀ tokens h, Token.HaveNumerals tokens → Runs (inner tokens) (reader tokens h)

variable {bound : Nat} {inner : Cursor Expr} {reader : InnerReader bound}

-----------------------------------------------------------------------------------------
-- Steps
-----------------------------------------------------------------------------------------

/-- Where a token is left, there is depth for one more round. -/
theorem exists_depth {token : Token} {rest : List Token} (deep : (token :: rest).length ≤ depth)
    : ∃ less, depth = less + 1 ∧ rest.length ≤ less := by
  obtain ⟨less, rfl⟩ := Nat.exists_eq_succ_of_ne_zero (Nat.ne_zero_of_lt deep)
  exact ⟨less, rfl, Nat.le_of_succ_le_succ deep⟩

theorem runs_predicates (inside : RunsInside inner reader) {tokens : List Token} {depth : Nat}
    {h : tokens.length ≤ bound} (numerals : Token.HaveNumerals tokens)
    (deep : tokens.length ≤ depth)
    : Runs (predicates grammar inner (depth + 1) tokens) (grammar.predicates reader tokens h) := by
  fun_induction grammar.predicates reader tokens h generalizing depth with
  | case1 => exact .taken numerals
  | case2 token rest h other =>
      rw [predicates, follows_neg _ _ other]
      exact .taken numerals
  | case3 opener opens =>
      rw [predicates, follows_pos _ _ (Decidable.not_not.mp opens)]
      exact .fault _
  | case4 opener opens next more h ends =>
      rw [predicates, follows_pos _ _ (Decidable.not_not.mp opens), consume_bind, atEnd_cons,
        follows_pos _ _ ends]
      exact .fault _
  | case5 opener opens next more h noEnd _ ih =>
      rw [predicates, follows_pos _ _ (Decidable.not_not.mp opens), consume_bind, atEnd_cons,
        follows_neg _ _ noEnd]
      obtain ⟨depth, rfl, deepRest⟩ := exists_depth deep
      refine (inside _ _ numerals.tail).bind fun predicate left fewer numerals => ?_
      refine (runs_closing numerals _ _ _).bind fun _ rest fewerStill numerals => ?_
      refine (ih ⟨predicate, left, fewer⟩ ⟨(), rest, fewerStill⟩ numerals ?_).bind ?_
      · exact (fewerStill.trans fewer).le.trans deepRest
      · exact fun _ _ _ numerals => .taken numerals

theorem target_nil (name : Token) : target name [] = .ok (none, []) := by
  rw [target]
  split <;> rfl

theorem target_string {name literal : Token} {rest : List Token}
    (found : name.text = "processing-instruction" ∧ literal.kind = .string)
    : target name (literal :: rest) = .ok (some (Grammar.unquoted literal.text), rest) := by
  rw [target, if_pos found.1, follows_pos _ _ found.2]
  rfl

theorem target_other {name token : Token} {rest : List Token}
    (other : ¬ (name.text = "processing-instruction" ∧ token.kind = .string))
    : target name (token :: rest) = .ok (none, token :: rest) := by
  rw [target]
  split
  case isTrue isTarget =>
      rw [follows_neg _ _ fun isString => other ⟨isTarget, isString⟩]
      rfl
  case isFalse => rfl

theorem runs_nodeType (name opener : Token) (numerals : Token.HaveNumerals tokens)
    : Runs (nodeType grammar name (opener :: tokens)) (grammar.nodeType name opener tokens) := by
  rw [nodeType, consume_bind]
  cases tokens with
  | nil =>
      rw [bind_eq (target_nil name)]
      exact .fault _
  | cons token rest =>
      rw [Grammar.nodeType]
      by_cases found : name.text = "processing-instruction" ∧ token.kind = .string
      · rw [bind_eq (target_string found), if_pos found]
        refine (runs_closing numerals.tail _ _ _).bind fun _ _ _ numerals => ?_
        rw [if_pos found.1]
        exact .taken numerals
      · rw [bind_eq (target_other found), if_neg found]
        exact (runs_closing numerals _ _ _).bind fun _ _ _ numerals => .taken numerals

theorem opensType_eq (name token : Token) (rest : List Token)
    : opensType name (token :: rest)
      = .ok (decide (token.kind = .openParenthesis ∧ Grammar.isNodeTypeName name.text),
          token :: rest) := by
  rw [Bool.decide_and, Bool.decide_eq_true]
  rfl

theorem qualifies_eq (name colon part : Token) (rest : List Token)
    : qualifies name (colon :: part :: rest)
      = .ok (Grammar.continuesName name colon part, colon :: part :: rest) :=
  rfl

theorem runs_namedTest {name : Token} (numerals : Token.HaveNumerals (name :: tokens))
    : Runs (namedTest grammar (name :: tokens)) (grammar.namedTest name tokens) := by
  rw [namedTest, consume_bind]
  cases tokens with
  | nil => exact .taken numerals.tail
  | cons token rest =>
      rw [Grammar.namedTest.eq_def, test_bind _ _ (opensType_eq name token rest)]
      simp only [decide_eq_true_eq]
      split
      case isTrue typed => exact (runs_nodeType name token numerals.tail.tail).weakened _
      case isFalse =>
          cases rest with
          | nil => exact .taken numerals.tail
          | cons part more =>
              rw [test_bind _ _ (qualifies_eq name token part more)]
              dsimp only
              split
              · exact .taken numerals.tail.tail.tail
              · exact .taken numerals.tail

theorem runs_nodeTest (numerals : Token.HaveNumerals tokens)
    : Runs (nodeTest grammar tokens) (grammar.nodeTest tokens) := by
  cases tokens with
  | nil => exact .fault _
  | cons token rest =>
      rw [nodeTest, atEnd_cons, Grammar.nodeTest]
      split
      case isTrue isAsterisk =>
          rw [follows_pos _ _ isAsterisk]
          exact .taken numerals.tail
      case isFalse noAsterisk =>
          rw [follows_neg _ _ noAsterisk]
          split
          case isTrue isName =>
              rw [follows_pos _ _ isName]
              exact runs_namedTest numerals
          case isFalse noName =>
              rw [follows_neg _ _ noName]
              exact .fault _

theorem runs_stepOn (inside : RunsInside inner reader) {axis : String}
    {h : tokens.length ≤ bound} (numerals : Token.HaveNumerals tokens)
    (deep : tokens.length ≤ depth)
    : Runs (stepOn grammar inner (depth + 1) axis tokens)
        (grammar.stepOn reader axis tokens h) := by
  refine (runs_nodeTest numerals).bind fun test rest fewer numerals => ?_
  refine (runs_predicates inside numerals (fewer.le.trans deep)).bind ?_
  exact fun _ _ _ numerals => .taken numerals

theorem runs_step (inside : RunsInside inner reader) {h : tokens.length ≤ bound}
    (numerals : Token.HaveNumerals tokens) (deep : tokens.length ≤ depth)
    : Runs (step grammar inner (depth + 1) tokens) (grammar.step reader tokens h) := by
  cases tokens with
  | nil => exact .fault _
  | cons token rest =>
      have deepRest : rest.length ≤ depth := (Nat.le_succ _).trans deep
      rw [step, atEnd_cons, Grammar.step.eq_def]
      dsimp only
      split
      case isTrue isDot =>
          rw [follows_pos _ _ isDot]
          exact .taken numerals.tail
      case isFalse noDot =>
      rw [follows_neg _ _ noDot]
      split
      case isTrue isDouble =>
          rw [follows_pos _ _ isDouble]
          exact .taken numerals.tail
      case isFalse noDouble =>
      rw [follows_neg _ _ noDouble]
      split
      case isTrue isAt =>
          rw [follows_pos _ _ isAt]
          exact (runs_stepOn inside numerals.tail deepRest).weakened _
      case isFalse noAt =>
      rw [follows_neg _ _ noAt, lookahead_bind]
      cases rest with
      | nil => exact runs_stepOn inside numerals deep
      | cons next more =>
          simp only [List.getElem?_cons_succ, List.getElem?_cons_zero, Option.any_some,
            decide_eq_true_eq]
          split
          case isFalse => exact runs_stepOn inside numerals deep
          case isTrue isDouble =>
              rw [stepOnAxis, consume_bind]
              split
              case isTrue known =>
                  rw [consume_bind]
                  have deepMore : more.length ≤ depth := (Nat.le_succ _).trans deepRest
                  exact (runs_stepOn inside numerals.tail.tail deepMore).weakened _
              case isFalse => exact .fault _

-----------------------------------------------------------------------------------------
-- Paths
-----------------------------------------------------------------------------------------

theorem runs_furtherSteps (inside : RunsInside inner reader) {tokens : List Token} {depth : Nat}
    {h : tokens.length ≤ bound} (numerals : Token.HaveNumerals tokens)
    (deep : tokens.length ≤ depth)
    : Runs (furtherSteps grammar inner (depth + 1) tokens)
        (grammar.furtherSteps reader tokens h) := by
  fun_induction grammar.furtherSteps reader tokens h generalizing depth with
  | case1 => exact .taken numerals
  | case2 token rest h noStep =>
      rw [furtherSteps, lookahead_bind]
      simp only [List.getElem?_cons_zero, Option.bind_some, noStep]
      exact .taken numerals
  | case3 separator rest h between separates _ ih =>
      rw [furtherSteps, lookahead_bind]
      simp only [List.getElem?_cons_zero, Option.bind_some, separates]
      rw [consume_bind]
      obtain ⟨depth, rfl, deepRest⟩ := exists_depth deep
      refine (runs_step inside numerals.tail deepRest).bind fun first left fewer numerals => ?_
      refine (ih ⟨first, left, fewer⟩ numerals (fewer.le.trans deepRest)).bind ?_
      exact fun _ _ _ numerals => .taken numerals

theorem runs_relativeSteps (inside : RunsInside inner reader) {h : tokens.length ≤ bound}
    (numerals : Token.HaveNumerals tokens) (deep : tokens.length ≤ depth)
    : Runs (relativeSteps grammar inner (depth + 1) tokens) (grammar.steps reader tokens h) := by
  refine (runs_step inside numerals deep).bind fun _ _ fewer numerals => ?_
  refine (runs_furtherSteps inside numerals (fewer.le.trans deep)).bind ?_
  exact fun _ _ _ numerals => .taken numerals

theorem runs_locationPath (inside : RunsInside inner reader) {h : tokens.length ≤ bound}
    (numerals : Token.HaveNumerals tokens) (deep : tokens.length ≤ depth)
    : Runs (locationPath grammar inner (depth + 1) tokens)
        (grammar.locationPath reader tokens h) := by
  cases tokens with
  | nil => exact .fault _
  | cons token rest =>
      have deepRest : rest.length ≤ depth := (Nat.le_succ _).trans deep
      rw [locationPath, Grammar.locationPath]
      split
      case isTrue isSlash =>
          rw [follows_pos _ _ isSlash, consume_bind, lookahead_bind]
          have starts : rest[0]?.any Grammar.startsStep
              = (rest.head?.map Grammar.startsStep).getD false := by
            cases rest <;> rfl
          rw [starts]
          split
          · refine (runs_relativeSteps inside numerals.tail deepRest).bind ?_
            exact fun _ _ _ numerals => .taken numerals
          · exact .taken numerals.tail
      case isFalse noSlash =>
      rw [follows_neg _ _ noSlash]
      split
      case isTrue isDouble =>
          rw [follows_pos _ _ isDouble, consume_bind]
          refine (runs_relativeSteps inside numerals.tail deepRest).bind ?_
          exact fun _ _ _ numerals => .taken numerals
      case isFalse noDouble =>
          rw [follows_neg _ _ noDouble]
          refine (runs_relativeSteps inside numerals deep).bind ?_
          exact fun _ _ _ numerals => .taken numerals

-----------------------------------------------------------------------------------------
-- Primary expressions
-----------------------------------------------------------------------------------------

theorem runs_furtherArguments (inside : RunsInside inner reader) {tokens : List Token}
    {depth : Nat} {h : tokens.length < bound} (numerals : Token.HaveNumerals tokens)
    (deep : tokens.length ≤ depth)
    : Runs (furtherArguments inner (depth + 1) tokens)
        (Grammar.furtherArguments reader tokens h) := by
  fun_induction Grammar.furtherArguments reader tokens h generalizing depth with
  | case1 => exact .taken numerals
  | case2 token rest h noComma =>
      rw [furtherArguments, follows_neg _ _ noComma]
      exact .taken numerals
  | case3 comma rest h isComma _ ih =>
      rw [furtherArguments, follows_pos _ _ (Decidable.not_not.mp isComma), consume_bind]
      obtain ⟨depth, rfl, deepRest⟩ := exists_depth deep
      refine (inside _ _ numerals.tail).bind fun argument left fewer numerals => ?_
      refine (ih ⟨argument, left, fewer⟩ numerals (fewer.le.trans deepRest)).bind ?_
      exact fun _ _ _ numerals => .taken numerals

theorem runs_callArguments (inside : RunsInside inner reader) (name : String) (opener : Token)
    {h : tokens.length < bound} (numerals : Token.HaveNumerals tokens)
    (deep : tokens.length ≤ depth)
    : Runs (callArguments grammar inner (depth + 1) name opener tokens)
        (grammar.callArguments reader name opener tokens h) := by
  cases tokens with
  | nil => exact .fault _
  | cons token rest =>
      rw [callArguments, atEnd_cons]
      refine Runs.bind ?_ fun list left _ numerals => ?_
      · dsimp only
        split
        case isTrue closes =>
            rw [follows_pos _ _ closes]
            exact .taken numerals
        case isFalse other =>
            rw [follows_neg _ _ other]
            refine (inside _ _ numerals).bind fun _ _ fewer numerals => ?_
            refine (runs_furtherArguments inside numerals (fewer.le.trans deep)).bind ?_
            exact fun _ _ _ numerals => .taken numerals
      · refine (runs_closing numerals _ _ _).bind fun _ _ _ numerals => ?_
        dsimp only
        cases checkCall grammar.arityOf name list.length with
        | error fault => exact .fault _
        | ok => exact .taken numerals

/-- A call is expected where one begins. -/
theorem primaryFollows_call {token : Token} {rest : List Token}
    (noLiteral : token.kind ∉ [.number, .openParenthesis, .string, .variable])
    : primaryFollows (token :: rest)
      = .ok ((Grammar.callHead? (token :: rest)).isSome, token :: rest) := by
  rw [primaryFollows, lookahead_bind]
  dsimp only [List.getElem?_cons_zero]
  rw [if_neg noLiteral]
  by_cases other : token.kind ≠ .name ∨ Grammar.isNodeTypeName token.text
  · rw [if_pos other, show Grammar.callHead? (token :: rest) = none by
      cases rest <;> simp [Grammar.callHead?.eq_def, other]]
    rfl
  rw [if_neg other, lookahead_bind]
  cases rest with
  | nil => rfl
  | cons next more =>
      rw [Grammar.callHead?.eq_def]
      simp only [if_neg other, List.getElem?_cons_succ, List.getElem?_cons_zero, Option.any_some,
        decide_eq_true_eq]
      by_cases isColon : next.kind = .colon
      · have noOpener : next.kind ≠ .openParenthesis := by simp [isColon]
        rw [if_pos isColon, lookahead_bind, lookahead_bind, if_neg noOpener, isColon]
        rcases more with _ | ⟨part, _ | ⟨opener, last⟩⟩
        · rfl
        · show Except.ok (decide (part.kind = .name) && false, _) = _
          rw [Bool.and_false]
          rfl
        · show Except.ok (decide (part.kind = .name) && decide (opener.kind = .openParenthesis), _)
            = _
          rw [← Bool.decide_and]
          congr 2
          dsimp only
          split
          case isTrue both => exact decide_eq_true both
          case isFalse other => exact decide_eq_false other
      · rw [if_neg isColon]
        show Except.ok (decide (next.kind = .openParenthesis), _) = _
        congr 2
        split
        · simp_all
        · split <;> simp_all

/-- Where a call begins, the name and the parenthesis are there. -/
theorem functionCall_eq {name : String} {opener : Token} {arguments : List Token}
    (head : Grammar.CallHead tokens name opener arguments)
    : functionCall grammar inner depth tokens
      = callArguments grammar inner depth name opener arguments := by
  cases head with
  | @plain name opener arguments isName noType opens =>
      have named : functionName (name :: opener :: arguments)
          = .ok (name.text, opener :: arguments) := by
        rw [functionName, consume_bind, follows_neg _ _ (by simp [opens])]
        rfl
      rw [functionCall, bind_eq named, consume_bind, if_pos opens]
  | @qualified name colon part opener arguments isName noType isColon isPart opens =>
      have named : functionName (name :: colon :: part :: opener :: arguments)
          = .ok (name.text ++ ":" ++ part.text, opener :: arguments) := by
        rw [functionName, consume_bind, follows_pos _ _ isColon]
        rfl
      rw [functionCall, bind_eq named, consume_bind, if_pos opens]

theorem primary_call {name : String} {opener : Token} {arguments : List Token}
    (head : Grammar.CallHead tokens name opener arguments)
    : primary grammar inner depth tokens
      = callArguments grammar inner depth name opener arguments := by
  rw [← functionCall_eq head]
  cases head with
  | plain isName | qualified isName =>
      rw [primary, lookahead_bind]
      simp only [List.getElem?_cons_zero, isName]

/-- A primary expression is expected where one is read. -/
theorem primaryFollows_eq {token : Token} {rest : List Token} (reader : InnerReader bound)
    (h : (token :: rest).length ≤ bound)
    : primaryFollows (token :: rest)
      = .ok ((grammar.primary? reader (token :: rest) h).isSome, token :: rest) := by
  by_cases literal : token.kind ∈ [.number, .openParenthesis, .string, .variable]
  · rw [primaryFollows, lookahead_bind]
    dsimp only [List.getElem?_cons_zero]
    rw [if_pos literal, Grammar.primary?.eq_def]
    simp only [List.mem_cons, List.not_mem_nil, or_false] at literal
    rcases literal with isKind | isKind | isKind | isKind <;> simp only [isKind] <;> rfl
  · rw [primaryFollows_call literal, Grammar.primary?.eq_def]
    dsimp only
    split
    case h_1 isKind | h_2 isKind | h_3 isKind | h_4 isKind => simp [isKind] at literal
    case h_5 =>
        split
        case h_1 none =>
            rw [none]
            rfl
        case h_2 head => rw [Option.isSome_of_eq_some head, Option.isSome_some]

theorem runs_number {text : String} (spelled : TokenKind.Spells .number text.toList)
    (numerals : Token.HaveNumerals tokens) {fewer : tokens.length < bound}
    : Runs (number text tokens) (.ok ⟨.number (Number.ofText text), tokens, fewer⟩) := by
  obtain ⟨numeral, read⟩ := Token.exists_numeral spelled
  rw [number, read, Number.ofText_eq_toNumber spelled read]
  exact .taken numerals

theorem runs_primary (inside : RunsInside inner reader) {h : tokens.length ≤ bound}
    {reading : Reading Expr tokens.length}
    (begins : grammar.primary? reader tokens h = some reading)
    (numerals : Token.HaveNumerals tokens) (deep : tokens.length ≤ depth)
    : Runs (primary grammar inner (depth + 1) tokens) reading := by
  cases tokens with
  | nil => cases begins
  | cons token rest =>
      rw [Grammar.primary?.eq_def] at begins
      dsimp only at begins
      split at begins
      case h_1 isNumber =>
          cases begins
          rw [primary, lookahead_bind]
          simp only [List.getElem?_cons_zero, isNumber]
          exact runs_number (numerals token List.mem_cons_self isNumber) numerals.tail
      case h_2 isString =>
          cases begins
          rw [primary, lookahead_bind]
          simp only [List.getElem?_cons_zero, isString]
          exact .taken numerals.tail
      case h_3 isVariable =>
          cases begins
          rw [primary, lookahead_bind]
          simp only [List.getElem?_cons_zero, isVariable]
          exact .taken numerals.tail
      case h_4 opens =>
          cases begins
          rw [primary, lookahead_bind]
          simp only [List.getElem?_cons_zero, opens]
          rw [consume_bind, enclosed]
          cases rest with
          | nil => exact .fault _
          | cons next more =>
              rw [atEnd_cons]
              refine (inside _ _ numerals.tail).bind fun taken left fewer numerals => ?_
              refine (runs_closing numerals _ _ _).bind fun _ _ _ numerals => ?_
              exact .taken numerals
      case h_5 =>
          split at begins
          case h_1 => cases begins
          case h_2 name opener arguments found =>
              cases begins
              have head := Grammar.CallHead.of_callHead? found
              rw [primary_call head]
              have fewer := Grammar.length_of_callHead? found
              refine (runs_callArguments inside name opener ?_ (fewer.le.trans deep)).weakened _
              exact numerals.suffix head.suffix

-----------------------------------------------------------------------------------------
-- Paths that continue
-----------------------------------------------------------------------------------------

/-- What follows a separator is a path with a step at least. -/
theorem runs_separated (inside : RunsInside inner reader) {separator : Token} {rest : List Token}
    {between : List Step} (separates : Grammar.separatorSteps? separator = some between)
    {h : (separator :: rest).length ≤ bound} (numerals : Token.HaveNumerals rest)
    (deep : rest.length ≤ depth) {larger : Nat} {next : List Step → Cursor β}
    {further : Taken (List Step) _ → Reading β larger}
    (goes : ∀ first others left fewer, Token.HaveNumerals left →
      Runs (next (first :: others) left) (further ⟨between ++ first :: others, left, fewer⟩))
    : Runs ((relativeSteps grammar inner (depth + 1) >>= next) rest)
        (grammar.furtherSteps reader (separator :: rest) h >>= further) := by
  rw [relativeSteps, Grammar.furtherSteps]
  simp only [separates, bind_assoc]
  refine (runs_step inside numerals deep).bind fun first left fewer numerals => ?_
  refine (runs_furtherSteps inside numerals (fewer.le.trans deep)).bind ?_
  exact fun others left _ numerals => goes first others left _ numerals

theorem runs_continuation (inside : RunsInside inner reader) (start : Expr)
    {h : tokens.length ≤ bound} {larger : Nat} (le : tokens.length + 1 ≤ larger)
    (numerals : Token.HaveNumerals tokens) (deep : tokens.length ≤ depth)
    : Runs (continuation grammar inner (depth + 1) start tokens)
        (grammar.furtherSteps reader tokens h >>= fun further =>
          .ok ((further.map fun steps =>
            if steps.isEmpty then start else .continued start steps).weaken le)) := by
  cases tokens with
  | nil =>
      rw [Grammar.furtherSteps]
      exact .taken numerals
  | cons token rest =>
      have deepRest : rest.length ≤ depth := (Nat.le_succ _).trans deep
      rw [continuation]
      by_cases isSlash : token.kind = .slash
      · have separates : Grammar.separatorSteps? token = some [] := if_pos isSlash
        rw [follows_pos _ _ isSlash, consume_bind]
        apply runs_separated inside separates numerals.tail deepRest
        exact fun _ _ _ _ numerals => .taken numerals
      rw [follows_neg _ _ isSlash]
      by_cases isDouble : token.kind = .doubleSlash
      · have separates : Grammar.separatorSteps? token = some [.anywhereBelow] := by
          rw [Grammar.separatorSteps?, if_neg isSlash, if_pos isDouble]
        rw [follows_pos _ _ isDouble, consume_bind]
        apply runs_separated inside separates numerals.tail deepRest
        exact fun _ _ _ _ numerals => .taken numerals
      have stops : Grammar.separatorSteps? token = none := by
        rw [Grammar.separatorSteps?, if_neg isSlash, if_neg isDouble]
      rw [follows_neg _ _ isDouble, Grammar.furtherSteps]
      simp only [stops]
      exact .taken numerals

theorem runs_pathExpression (inside : RunsInside inner reader) {h : tokens.length ≤ bound}
    (numerals : Token.HaveNumerals tokens) (deep : tokens.length ≤ depth)
    : Runs (pathExpression grammar inner (depth + 1) tokens)
        (grammar.pathExpression reader tokens h) := by
  cases tokens with
  | nil => exact .fault _
  | cons token rest =>
      have expects : primaryFollows (token :: rest)
          = .ok ((grammar.primary? reader (token :: rest) h).isSome, token :: rest) :=
        primaryFollows_eq reader h
      rw [pathExpression, atEnd_cons, test_bind _ _ expects, Grammar.pathExpression]
      cases begins : grammar.primary? reader (token :: rest) h with
      | none => exact runs_locationPath inside numerals deep
      | some reading =>
          refine (runs_primary inside begins numerals deep).bind fun _ _ fewer numerals => ?_
          have deep := fewer.le.trans deep
          refine (runs_predicates inside numerals deep).bind fun _ _ fewer numerals => ?_
          have deep := (Nat.le_of_lt_succ fewer).trans deep
          exact runs_continuation inside _ _ numerals deep

-----------------------------------------------------------------------------------------
-- Operators
-----------------------------------------------------------------------------------------

/-- A cursor for operands comes to what the reader for them does. -/
def RunsOperands (operand : Cursor Expr) (reader : Reader Expr bound) : Prop :=
  ∀ tokens h, Token.HaveNumerals tokens → Runs (operand tokens) (reader tokens h)

variable {operand : Cursor Expr} {operandReader : Reader Expr bound}

theorem runs_operations {operator? : Token → Option (Expr → Expr → Expr)}
    (operands : RunsOperands operand operandReader) {left : Expr} {tokens : List Token}
    {depth : Nat} {h : tokens.length ≤ bound} (numerals : Token.HaveNumerals tokens)
    (deep : tokens.length ≤ depth)
    : Runs (operations operator? operand (depth + 1) left tokens)
        (Grammar.operations operator? operandReader left tokens h) := by
  fun_induction Grammar.operations operator? operandReader left tokens h
      generalizing depth with
  | case1 => exact .taken numerals
  | case2 left token rest h noOperator =>
      rw [operations, lookahead_bind]
      simp only [List.getElem?_cons_zero, Option.bind_some, noOperator]
      exact .taken numerals
  | case3 left token rest h combine isOperator _ ih =>
      rw [operations, lookahead_bind]
      simp only [List.getElem?_cons_zero, Option.bind_some, isOperator]
      rw [consume_bind]
      obtain ⟨depth, rfl, deepRest⟩ := exists_depth deep
      refine (operands _ _ numerals.tail).bind fun right left fewer numerals => ?_
      exact (ih ⟨right, left, fewer⟩ numerals (fewer.le.trans deepRest)).weakened _

theorem runs_level {operator? : Token → Option (Expr → Expr → Expr)}
    (operands : RunsOperands operand operandReader) (deep : bound ≤ depth)
    : RunsOperands (level (depth + 1) operator? operand)
        (Grammar.level operator? operandReader) := by
  intro tokens h numerals
  refine (operands tokens h numerals).bind fun left rest fewer numerals => ?_
  exact (runs_operations operands numerals ((fewer.le.trans h).trans deep)).weakened _

theorem runs_negation (operands : RunsOperands operand operandReader) {tokens : List Token}
    {depth : Nat} {h : tokens.length ≤ bound} (numerals : Token.HaveNumerals tokens)
    (deep : tokens.length ≤ depth)
    : Runs (negation operand (depth + 1) tokens) (Grammar.negation operandReader tokens h) := by
  fun_induction Grammar.negation operandReader tokens h generalizing depth with
  | case1 => exact operands [] _ numerals
  | case2 token rest h isMinus ih =>
      rw [negation, lookahead_bind]
      simp only [List.getElem?_cons_zero, Option.any_some, isMinus, and_self, decide_true,
        ↓reduceIte]
      rw [consume_bind]
      obtain ⟨depth, rfl, deepRest⟩ := exists_depth deep
      exact (ih numerals.tail deepRest).bind fun _ _ _ numerals => .taken numerals
  | case3 token rest h noMinus =>
      rw [negation, lookahead_bind]
      simp only [List.getElem?_cons_zero, Option.any_some, noMinus, decide_false,
        Bool.false_eq_true, ↓reduceIte]
      exact operands _ _ numerals

theorem runs_layer (inside : RunsInside inner reader) (deep : bound ≤ depth) (layer : Layer)
    : RunsOperands (Cursor.layer grammar inner (depth + 1) layer)
        (grammar.layer reader layer) := by
  fun_induction Grammar.layer grammar reader layer with
  | case1 =>
      rw [Cursor.layer]
      exact fun tokens h numerals => runs_pathExpression inside numerals (h.trans deep)
  | case2 ih =>
      rw [Cursor.layer]
      exact fun tokens h numerals => runs_negation ih numerals (h.trans deep)
  | case3 level ih =>
      rw [Cursor.layer]
      exact runs_level ih deep

-----------------------------------------------------------------------------------------
-- Whole expressions
-----------------------------------------------------------------------------------------

/-- By induction on the depth, as the tokens of inner expressions are fewer. -/
theorem runs_expression {depth : Nat} {tokens : List Token}
    (numerals : Token.HaveNumerals tokens) (deep : tokens.length < depth)
    : Runs (expression grammar depth tokens) (grammar.expression tokens) := by
  induction depth generalizing tokens with
  | zero => exact absurd deep (Nat.not_lt_zero _)
  | succ depth ih =>
      rw [expression, Grammar.expression, Grammar.operators_eq]
      have deep := Nat.le_of_lt_succ deep
      have inside : RunsInside (expression grammar depth)
          (fun inside (_ : inside.length < tokens.length) => grammar.expression inside) :=
        fun inside fewer numerals => ih numerals (fewer.trans_le deep)
      exact runs_layer inside deep _ tokens le_rfl numerals

/-- All tokens are taken as they are read, with the same fault if they are no expression. -/
theorem whole_eq (numerals : Token.HaveNumerals tokens) (deep : tokens.length < depth)
    : whole grammar depth tokens
      = ((grammar.whole tokens).map (·, [])).mapError Halt.fault := by
  cases tokens with
  | nil => rfl
  | cons token rest =>
      have runs : Runs (expression grammar depth (token :: rest)) (grammar.expression _) :=
        runs_expression numerals deep
      rw [whole, atEnd_cons, bind_apply, Grammar.whole]
      generalize expression grammar depth (token :: rest) = outcome at runs
      generalize grammar.expression (token :: rest) = reading at runs
      cases runs with
      | fault => rfl
      | @taken root left => cases left <;> rfl

/-- A cursor over tokens whose numbers are numerals, as are those of any text, reads the tree of a
derivation, and it reads it whenever there is one.
-/
theorem whole_eq_ok_iff_derived (numerals : Token.HaveNumerals tokens)
    (deep : tokens.length < depth) (root : Expr)
    : whole grammar depth tokens = .ok (root, [])
      ↔ ∃ derivation : grammar.Derivation .whole tokens [], derivation.tree = root := by
  have same : whole grammar depth tokens = .ok (root, []) ↔ grammar.whole tokens = .ok root := by
    rw [whole_eq numerals deep]
    cases grammar.whole tokens <;> simp [Except.map, Except.mapError]
  rw [same]
  constructor
  · exact Grammar.derives_whole
  · rintro ⟨derivation, rfl⟩
    exact derivation.whole_eq

/-- A cursor comes to what is read of a text, if its depth is more than the length of the text. -/
theorem ofText_eq (arityOf : String → Option Arity) {depth : Nat} {source : String}
    (deep : source.length < depth)
    : ofText arityOf depth source = (Expression.ofText arityOf source).mapError Halt.fault := by
  rw [ofText, Expression.ofText]
  cases split : Token.ofText source with
  | error malformed => rfl
  | ok tokens =>
      have within : tokens.length ≤ source.length := by
        rw [← String.length_toList]
        exact (Token.reads_of_ofText split).length_le
      have numerals := Token.haveNumerals_of_ofText split
      dsimp only
      rw [whole_eq numerals (within.trans_lt deep)]
      cases Grammar.whole ⟨source.length, arityOf⟩ tokens <;> rfl

/-- Where a source can be malformed: at the start of a token, at the first place at which no lexeme
begins, and at its end.
-/
inductive Placed (source : String) (malformed : Malformed) : Prop
  | token {tokens : List Token} {token : Token} (split : Token.ofText source = .ok tokens)
    (member : token ∈ tokens) (here : malformed.position = token.position)
  | character {tokens : List Token} (stops : Token.StopsAt source malformed tokens)
  | ending (here : malformed.position = source.length)

/-- What is wrong with an expression is at a place of its text, or a call that is refused. -/
theorem placed_or_refused {arityOf : String → Option Arity} {source : String}
    {fault : ParseFault} (read : Expression.ofText arityOf source = .error fault)
    : (∃ malformed, fault = .malformed malformed ∧ Placed source malformed)
      ∨ ∃ refused name count, fault = .call refused
        ∧ checkCall arityOf name count = .error refused := by
  cases split : Token.ofText source with
  | error malformed =>
      rw [Expression.ofText, split] at read
      cases read
      obtain ⟨tokens, stops⟩ := Token.exists_stopsAt split
      exact .inl ⟨malformed, rfl, .character stops⟩
  | ok tokens =>
      rw [Expression.ofText_eq_map split, map_eq_error] at read
      have halts := Grammar.halts_whole read
      cases fault with
      | call refused =>
          obtain ⟨name, count, checked⟩ := halts
          exact .inr ⟨refused, name, count, rfl, checked⟩
      | malformed malformed =>
          obtain ⟨before, after, rfl, here, -⟩ := halts
          refine .inl ⟨malformed, rfl, ?_⟩
          cases after with
          | nil => exact .ending here
          | cons token after => exact .token split (by simp) here

/-- A cursor over any text comes to an end, and what it comes to is an expression, a fault at a
place of the text or a call that is refused. So it takes no token past the end, fails no assertion
and converts all numerals.
-/
theorem ofText_reads_or_faults (arityOf : String → Option Arity) {depth : Nat} {source : String}
    (deep : source.length < depth)
    : (∃ root, ofText arityOf depth source = .ok ⟨root, source⟩
        ∧ Expression.ofText arityOf source = .ok ⟨root, source⟩)
      ∨ (∃ malformed, ofText arityOf depth source = .error (.fault (.malformed malformed))
        ∧ Expression.ofText arityOf source = .error (.malformed malformed)
        ∧ Placed source malformed)
      ∨ ∃ refused name count, ofText arityOf depth source = .error (.fault (.call refused))
        ∧ Expression.ofText arityOf source = .error (.call refused)
        ∧ checkCall arityOf name count = .error refused := by
  rw [ofText_eq arityOf deep]
  cases read : Expression.ofText arityOf source with
  | ok expression =>
      obtain ⟨_, -, -, rfl⟩ := (Expression.ofText_eq_ok_iff arityOf source expression).mp read
      exact .inl ⟨expression.root, rfl, rfl⟩
  | error fault =>
      rcases placed_or_refused read with ⟨malformed, rfl, placed⟩ | ⟨_, _, _, rfl, checked⟩
      · exact .inr (.inl ⟨malformed, rfl, rfl, placed⟩)
      · exact .inr (.inr ⟨_, _, _, rfl, rfl, checked⟩)

/-- A predicate that is not closed makes a text malformed at its end. -/
theorem ofText_unclosed
    : "*[*".length < 4
      ∧ ofText (fun _ => none) 4 "*[*" = .error (.fault (.malformed ⟨3, .neverClosed "[" 1⟩))
      ∧ Placed "*[*" ⟨3, .neverClosed "[" 1⟩ := by
  have deep : "*[*".length < 4 := by decide
  have refused : Expression.ofText (fun _ => none) "*[*"
      = .error (.malformed ⟨3, .neverClosed "[" 1⟩) := by
    cbv
  refine ⟨deep, by rw [ofText_eq _ deep, refused]; rfl, ?_⟩
  rcases ofText_reads_or_faults (fun _ => none) deep with
    ⟨_, -, other⟩ | ⟨_, -, same, placed⟩ | ⟨_, _, _, -, other, -⟩
  · rw [refused] at other
    cases other
  · rw [refused] at same
    cases same
    exact placed
  · rw [refused] at other
    cases other

end PathQuery.Cursor
