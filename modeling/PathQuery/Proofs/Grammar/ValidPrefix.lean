import Mathlib.Data.List.Permutation
import PathQuery.Proofs.Grammar.Completeness
import PathQuery.Proofs.Grammar.Continuation
import PathQuery.Proofs.Grammar.WellFormed
import PathQuery.Proofs.Token.Joining

/-! Faults stand as early as they can: the tokens before the place of a fault begin an expression,
where functions take any arguments. An asterisk completes what has no step yet, and brackets and
parentheses close what is open.
-/

namespace PathQuery

namespace Grammar

-----------------------------------------------------------------------------------------
-- Completions
-----------------------------------------------------------------------------------------

/-- The grammar in which there are functions of all names, which take any arguments. -/
def lenient (grammar : Grammar) : Grammar where
  sourceLength := grammar.sourceLength
  arityOf _ := some ⟨0, none⟩

theorem checkCall_lenient (grammar : Grammar) (name : String) (count : Nat)
    : checkCall grammar.lenient.arityOf name count = .ok () := by
  simp [checkCall, lenient, Arity.accepts]

theorem admits_lenient (grammar : Grammar) : grammar.lenient.Admits grammar :=
  fun name count _ => grammar.checkCall_lenient name count

/-- Some tokens are a part, up to those that are left, where functions take any arguments. -/
def Takes (grammar : Grammar) (part : Part) (tokens rest : List Token) : Prop :=
  Nonempty (grammar.lenient.Derivation part tokens rest)

/-- A token of a kind comes first. -/
def Closes (kind : TokenKind) (tokens rest : List Token) : Prop :=
  ∃ closer : Token, closer.kind = kind ∧ tokens = closer :: rest

/-- The kinds of tokens that complete what is begun. -/
def completing : List TokenKind :=
  [.asterisk, .closeParenthesis, .closeBracket]

/-- Some tokens can be completed to what is taken before any tokens that no step begins with. Of
the further tokens only the kinds matter.
-/
def Completes (takes : List Token → List Token → Prop) (before : List Token) : Prop :=
  ∃ kinds : List TokenKind, kinds ⊆ completing ∧ ∀ further : List Token,
    further.map Token.kind = kinds → ∀ rest, ¬ StartsStep rest →
      takes (before ++ (further ++ rest)) rest

/-- Some tokens, of which there is one at least, can be completed. -/
def Enters (takes : List Token → List Token → Prop) (before : List Token) : Prop :=
  before ≠ [] ∧ Completes takes before

variable {grammar : Grammar} {takes next whole : List Token → List Token → Prop}
  {tokens middle rest before : List Token}

namespace Completes

theorem preceded (first : List Token) (completes : Completes takes before)
    (more : ∀ tokens rest, takes tokens rest → whole (first ++ tokens) rest)
    : Completes whole (first ++ before) := by
  obtain ⟨kinds, only, completed⟩ := completes
  refine ⟨kinds, only, fun further same rest ends => ?_⟩
  rw [List.append_assoc]
  exact more _ _ (completed further same rest ends)

theorem imp (completes : Completes takes before)
    (more : ∀ tokens rest, takes tokens rest → whole tokens rest)
    : Completes whole before :=
  completes.preceded [] more

/-- What is taken needs no further tokens. -/
theorem of_follows (follows : Follows takes tokens rest)
    : ∃ taken, tokens = taken ++ rest ∧ Completes takes taken := by
  obtain ⟨taken, rfl, always⟩ := follows
  refine ⟨taken, rfl, [], List.nil_subset _, ?_⟩
  intro further none others ends
  obtain rfl := List.map_eq_nil_iff.mp none
  exact always others fun starts => absurd starts ends

theorem nothing : Completes (· = ·) [] := by
  refine ⟨[], List.nil_subset _, ?_⟩
  intro further none rest _
  obtain rfl := List.map_eq_nil_iff.mp none
  rfl

/-- A step is completed by an asterisk. -/
theorem of_asterisk (missing : ∀ asterisk : Token, asterisk.kind = .asterisk →
      ∀ rest, takes (asterisk :: rest) rest)
    : Completes takes [] := by
  refine ⟨[.asterisk], by decide, ?_⟩
  intro further same rest _
  obtain ⟨asterisk, rfl, kind⟩ := List.map_eq_singleton_iff.mp same
  exact missing asterisk kind rest

theorem closed {kind : TokenKind} (completes : Completes takes before)
    (closing : kind = .closeParenthesis ∨ kind = .closeBracket)
    : Completes (Relation.Comp takes (Closes kind)) before := by
  obtain ⟨kinds, only, completed⟩ := completes
  refine ⟨kinds ++ [kind], ?_, ?_⟩
  · intro other member
    rcases List.mem_append.mp member with earlier | last
    · exact only earlier
    · obtain rfl := List.mem_singleton.mp last
      rcases closing with rfl | rfl <;> decide
  · intro further same rest _
    obtain ⟨first, last, rfl, sameFirst, sameLast⟩ := List.map_eq_append_iff.mp same
    obtain ⟨closer, rfl, closes⟩ := List.map_eq_singleton_iff.mp sameLast
    have ends : ¬ StartsStep (closer :: rest) := by
      rw [startsStep_cons, startsStep_iff, closes]
      rcases closing with rfl | rfl <;> decide
    refine ⟨closer :: rest, ?_, closer, closes, rfl⟩
    rw [List.append_assoc]
    exact completed first sameFirst _ ends

end Completes

-----------------------------------------------------------------------------------------
-- Faults
-----------------------------------------------------------------------------------------

/-- Reading halts with a fault: at a place in the tokens up to which they can be completed, or at a
call that is refused.
-/
def Halts (grammar : Grammar) (completes : List Token → Prop) (tokens : List Token)
    : ParseFault → Prop
  | .malformed malformed =>
      ∃ before after, tokens = before ++ after ∧ malformed.position = grammar.positionOf after
        ∧ completes before
  | .call fault => ∃ name count, checkCall grammar.arityOf name count = .error fault

namespace Halts

variable {completes others : List Token → Prop} {fault : ParseFault}

theorem here (problem : Problem) (missing : completes [])
    : grammar.Halts completes tokens (.malformed ⟨grammar.positionOf tokens, problem⟩) :=
  ⟨[], tokens, rfl, rfl, missing⟩

theorem after (taken : List Token) (halts : grammar.Halts completes tokens fault)
    (more : ∀ before after, tokens = before ++ after → completes before →
      others (taken ++ before))
    : grammar.Halts others (taken ++ tokens) fault := by
  cases fault with
  | malformed malformed =>
      obtain ⟨before, after, rfl, here, completed⟩ := halts
      exact ⟨taken ++ before, after, (List.append_assoc _ _ _).symm, here,
        more before after rfl completed⟩
  | call fault => exact halts

/-- What completes the tokens after some others completes them together with those. -/
theorem preceded (first : List Token) (halts : grammar.Halts (Completes takes) tokens fault)
    (more : ∀ tokens rest, takes tokens rest → whole (first ++ tokens) rest)
    : grammar.Halts (Completes whole) (first ++ tokens) fault :=
  halts.after first fun _ _ _ completes => completes.preceded first more

theorem imp (halts : grammar.Halts (Completes takes) tokens fault)
    (more : ∀ tokens rest, takes tokens rest → whole tokens rest)
    : grammar.Halts (Completes whole) tokens fault :=
  halts.preceded [] more

theorem entered (first : Token) (halts : grammar.Halts (Completes takes) tokens fault)
    (more : ∀ tokens rest, takes tokens rest → whole (first :: tokens) rest)
    : grammar.Halts (Enters whole) (first :: tokens) fault :=
  halts.after [first] fun _ _ _ completes =>
    ⟨List.cons_ne_nil _ _, completes.preceded [first] more⟩

theorem of_entered (halts : grammar.Halts (Enters takes) tokens fault)
    : grammar.Halts (Completes takes) tokens fault :=
  halts.after [] fun _ _ _ enters => enters.2

/-- Where reading halts in a part that it has entered, the part before that stays as it is. -/
theorem followed (first : Follows takes tokens middle)
    (halts : grammar.Halts (Enters next) middle fault)
    (more : ∀ tokens middle rest, takes tokens middle → next middle rest → whole tokens rest)
    : grammar.Halts (Enters whole) tokens fault := by
  obtain ⟨taken, rfl, always⟩ := first
  refine halts.after taken ?_
  rintro (_ | ⟨token, before⟩) after rfl ⟨entered, kinds, only, completed⟩
  · exact absurd rfl entered
  · refine ⟨by simp, kinds, only, fun further same rest ends => ?_⟩
    rw [List.append_assoc]
    refine more _ _ _ (always _ fun starts => ?_) (completed further same rest ends)
    exact startsStep_cons.mpr (startsStep_cons.mp starts)

/-- Where the token that closes a part is missing, the part is complete. -/
theorem unclosed {opener : Token} {kind : TokenKind} {closer : String}
    (follows : Follows takes tokens middle)
    (closing : kind = .closeParenthesis ∨ kind = .closeBracket)
    (read : grammar.closing opener kind closer middle = .error fault)
    : grammar.Halts (Completes (Relation.Comp takes (Closes kind))) tokens fault := by
  obtain ⟨taken, rfl, completes⟩ := Completes.of_follows follows
  have position : ∃ problem, fault = .malformed ⟨grammar.positionOf middle, problem⟩ := by
    cases middle with
    | nil =>
        cases read
        exact ⟨_, rfl⟩
    | cons token rest =>
        rw [Grammar.closing] at read
        split at read
        case isTrue => cases read
        case isFalse =>
            cases read
            exact ⟨_, rfl⟩
  obtain ⟨problem, rfl⟩ := position
  exact ⟨taken, middle, rfl, rfl, completes.closed closing⟩

end Halts

-----------------------------------------------------------------------------------------
-- Parts
-----------------------------------------------------------------------------------------

theorem follows_of_derives {part : Part} {value : part.Value}
    (derives : grammar.Derives part tokens value rest)
    : Follows (grammar.Takes part) tokens rest := by
  obtain ⟨derivation, -⟩ := derives
  exact (derivation.follows grammar.admits_lenient).imp fun _ _ ⟨again, _⟩ => ⟨again⟩

namespace Takes

theorem step (takes : grammar.Takes .test tokens rest) : grammar.Takes .step tokens rest :=
  takes.elim fun test => ⟨.onChildren test .noPredicate⟩

theorem relative (takes : grammar.Takes .step tokens rest) : grammar.Takes .relative tokens rest :=
  takes.elim fun first => ⟨.stepwise first .noStep⟩

theorem path (takes : grammar.Takes .relative tokens rest)
    : grammar.Takes (.expression .path) tokens rest :=
  takes.elim fun steps => ⟨.located (.fromContext steps)⟩

theorem binary {level : Level} (takes : grammar.Takes (.expression level.operand) tokens rest)
    : grammar.Takes (.expression (.binary level)) tokens rest :=
  takes.elim fun first => ⟨.operands first .noOperation⟩

/-- A path is an expression of any layer. -/
theorem layer (takes : grammar.Takes (.expression .path) tokens rest)
    : (layer : Layer) → grammar.Takes (.expression layer) tokens rest
  | .path => takes
  | .negation => (takes.layer (.binary .union)).elim fun operand => ⟨.plain operand⟩
  | .binary level => (takes.layer level.operand).binary
termination_by layer => layer.height
decreasing_by
  · decide
  · exact level.height_operand

end Takes

theorem completes_test : Completes (grammar.Takes .test) [] :=
  .of_asterisk fun _ isAsterisk _ => ⟨.anyName isAsterisk⟩

theorem completes_step : Completes (grammar.Takes .step) [] :=
  completes_test.imp fun _ _ test => test.step

theorem completes_path : Completes (grammar.Takes (.expression .path)) [] :=
  completes_step.imp fun _ _ step => step.relative.path

theorem completes_whole : Completes (grammar.Takes .whole) [] :=
  completes_path.imp fun _ _ path => path.layer _

/-- A reader for inner expressions halts where they can be completed. -/
def HaltsInside (grammar : Grammar) {bound : Nat} (inner : InnerReader bound) : Prop :=
  ∀ tokens h fault, inner tokens h = .error fault →
    grammar.Halts (Completes (grammar.Takes .whole)) tokens fault

variable {bound : Nat} {inner : InnerReader bound} {fault : ParseFault}

-----------------------------------------------------------------------------------------
-- Steps
-----------------------------------------------------------------------------------------

/-- An inner expression with the token that closes it comes before other tokens. -/
theorem follows_closed (sound : grammar.SoundInside inner) {opener : Token} {kind : TokenKind}
    {closer : String} {h : tokens.length < bound} {taken : Taken Expr tokens.length}
    {closed : Taken Unit taken.rest.length} (read : inner tokens h = .ok taken)
    (readCloser : grammar.closing opener kind closer taken.rest = .ok closed)
    : Follows (Relation.Comp (grammar.Takes .whole) (Closes kind)) tokens closed.rest := by
  obtain ⟨token, same, derives⟩ := derives_closed sound read readCloser
  refine ((follows_of_derives derives).followed (Follows.token token _)).imp ?_
  rintro _ _ ⟨_, inside, rfl⟩
  exact ⟨_, inside, token, same, rfl⟩

theorem halts_predicates (sound : grammar.SoundInside inner) (halting : grammar.HaltsInside inner)
    {tokens : List Token} {h : tokens.length ≤ bound}
    (read : grammar.predicates inner tokens h = .error fault)
    : grammar.Halts (Enters (grammar.Takes .predicates)) tokens fault := by
  have last {opener : Token} (opens : ¬ opener.kind ≠ .openBracket) {tokens : List Token}
      (halts : grammar.Halts
        (Completes (Relation.Comp (grammar.Takes .whole) (Closes .closeBracket))) tokens fault)
      : grammar.Halts (Enters (grammar.Takes .predicates)) (opener :: tokens) fault := by
    refine halts.entered opener ?_
    rintro _ _ ⟨_, ⟨inside⟩, closer, closes, rfl⟩
    exact ⟨.predicate (Decidable.not_not.mp opens) inside closes .noPredicate⟩
  fun_induction grammar.predicates inner tokens h with
  | case1 | case2 => cases read
  | case3 opener opens =>
      cases read
      exact last opens (.here _ (completes_whole.closed (.inr rfl)))
  | case4 opener opens =>
      cases read
      exact last opens (.here _ (completes_whole.closed (.inr rfl)))
  | case5 opener opens next more h noEnd _ ih =>
      rcases bind_eq_error.mp read with readInside | ⟨predicate, readInside, read⟩
      · apply last opens
        exact (halting _ _ _ readInside).after [] fun _ _ _ completes => completes.closed (.inr rfl)
      rcases bind_eq_error.mp read with readCloser | ⟨closed, readCloser, read⟩
      · apply last opens
        exact .unclosed (follows_of_derives (sound _ _ _ readInside)) (.inr rfl) readCloser
      rcases bind_eq_error.mp read with readOthers | ⟨others, -, read⟩
      · have first := (Follows.token opener _).followed (follows_closed sound readInside readCloser)
        refine (ih predicate closed readOthers).followed first ?_
        rintro _ _ _ ⟨_, rfl, _, ⟨inside⟩, closer, closes, rfl⟩ ⟨others⟩
        exact ⟨.predicate (Decidable.not_not.mp opens) inside closes others⟩
      · cases read

theorem halts_nodeType {name opener : Token} (isName : name.kind = .name)
    (known : isNodeTypeName name.text) (opens : opener.kind = .openParenthesis)
    (read : grammar.nodeType name opener tokens = .error fault)
    : grammar.Halts (Completes (grammar.Takes .test)) (name :: opener :: tokens) fault := by
  have closed {tokens : List Token}
      (halts : grammar.Halts (Completes (Relation.Comp (· = ·) (Closes .closeParenthesis)))
        tokens fault)
      : grammar.Halts (Completes (grammar.Takes .test)) (name :: opener :: tokens) fault := by
    refine halts.preceded [name, opener] ?_
    rintro _ _ ⟨_, rfl, closer, closes, rfl⟩
    exact ⟨.nodeType name isName known opens closes⟩
  cases tokens with
  | nil =>
      cases read
      exact closed (.here _ (Completes.nothing.closed (.inl rfl)))
  | cons token rest =>
      rw [nodeType] at read
      split at read
      case isTrue target =>
          rcases bind_eq_error.mp read with readCloser | ⟨_, -, read⟩
          · have halts := Halts.unclosed (Follows.token token rest) (.inl rfl) readCloser
            refine halts.preceded [name, opener] ?_
            rintro _ _ ⟨_, rfl, closer, closes, rfl⟩
            exact ⟨.target token isName target.1 opens target.2 closes⟩
          · cases read
      case isFalse =>
          rcases bind_eq_error.mp read with readCloser | ⟨_, -, read⟩
          · exact closed (.unclosed (.of_taken [] fun _ => rfl) (.inl rfl) readCloser)
          · cases read

theorem halts_namedTest {name : Token} (isName : name.kind = .name)
    (read : grammar.namedTest name tokens = .error fault)
    : grammar.Halts (Completes (grammar.Takes .test)) (name :: tokens) fault := by
  cases tokens with
  | nil => cases read
  | cons token rest =>
      rw [namedTest.eq_def] at read
      dsimp only at read
      split at read
      case isTrue typed =>
          rcases bind_eq_error.mp read with readType | ⟨_, -, read⟩
          · exact halts_nodeType isName typed.2 typed.1 readType
          · cases read
      case isFalse =>
          cases rest with
          | nil => cases read
          | cons part more =>
              dsimp only at read
              split at read <;> cases read

theorem halts_nodeTest (read : grammar.nodeTest tokens = .error fault)
    : grammar.Halts (Completes (grammar.Takes .test)) tokens fault := by
  cases tokens with
  | nil =>
      cases read
      exact .here _ completes_test
  | cons token rest =>
      rw [nodeTest] at read
      split at read
      case isTrue => cases read
      case isFalse =>
          split at read
          case isTrue isName => exact halts_namedTest isName read
          case isFalse =>
              cases read
              exact .here _ completes_test

/-- What makes a step of a node test and predicates is preceded by its axis. -/
theorem halts_stepOn (sound : grammar.SoundInside inner) (halting : grammar.HaltsInside inner)
    {axis : String} {h : tokens.length ≤ bound}
    (read : grammar.stepOn inner axis tokens h = .error fault)
    : grammar.Halts (Completes (Relation.Comp (grammar.Takes .test) (grammar.Takes .predicates)))
        tokens fault := by
  rcases bind_eq_error.mp read with readTest | ⟨test, readTest, read⟩
  · exact (halts_nodeTest readTest).imp fun _ _ test => ⟨_, test, ⟨.noPredicate⟩⟩
  rcases bind_eq_error.mp read with readPredicates | ⟨_, -, read⟩
  · have first := follows_of_derives (derives_nodeTest readTest)
    exact ((halts_predicates sound halting readPredicates).followed first
      fun _ _ _ test predicates => ⟨_, test, predicates⟩).of_entered
  · cases read

theorem halts_step (sound : grammar.SoundInside inner) (halting : grammar.HaltsInside inner)
    {h : tokens.length ≤ bound} (read : grammar.step inner tokens h = .error fault)
    : grammar.Halts (Completes (grammar.Takes .step)) tokens fault := by
  cases tokens with
  | nil =>
      cases read
      exact .here _ completes_step
  | cons token rest =>
      rw [step.eq_def] at read
      dsimp only at read
      split at read
      case isTrue => cases read
      case isFalse =>
      split at read
      case isTrue => cases read
      case isFalse =>
      split at read
      case isTrue isAt =>
          rcases bind_eq_error.mp read with readOn | ⟨_, -, read⟩
          · refine (halts_stepOn sound halting readOn).preceded [token] ?_
            rintro _ _ ⟨_, ⟨test⟩, ⟨predicates⟩⟩
            exact ⟨.onAttributes isAt test predicates⟩
          · cases read
      case isFalse =>
      have onChildren {h} (read : grammar.stepOn inner "child" (token :: rest) h = .error fault)
          : grammar.Halts (Completes (grammar.Takes .step)) (token :: rest) fault := by
        refine (halts_stepOn sound halting read).imp ?_
        rintro _ _ ⟨_, ⟨test⟩, ⟨predicates⟩⟩
        exact ⟨.onChildren test predicates⟩
      cases rest with
      | nil => exact onChildren read
      | cons next more =>
          dsimp only at read
          split at read
          case isFalse => exact onChildren read
          case isTrue isDouble =>
              split at read
              case isTrue known =>
                  rcases bind_eq_error.mp read with readOn | ⟨_, -, read⟩
                  · refine (halts_stepOn sound halting readOn).preceded [token, next] ?_
                    rintro _ _ ⟨_, ⟨test⟩, ⟨predicates⟩⟩
                    exact ⟨.onAxis token known.1 known.2 isDouble test predicates⟩
                  · cases read
              case isFalse =>
                  cases read
                  exact .here _ completes_step

-----------------------------------------------------------------------------------------
-- Paths
-----------------------------------------------------------------------------------------

theorem halts_furtherSteps (sound : grammar.SoundInside inner)
    (halting : grammar.HaltsInside inner) {tokens : List Token} {h : tokens.length ≤ bound}
    (read : grammar.furtherSteps inner tokens h = .error fault)
    : grammar.Halts (Enters (grammar.Takes .further)) tokens fault := by
  fun_induction grammar.furtherSteps inner tokens h with
  | case1 | case2 => cases read
  | case3 separator rest h between separates _ ih =>
      rcases bind_eq_error.mp read with readFirst | ⟨first, readFirst, read⟩
      · refine (halts_step sound halting readFirst).entered separator ?_
        rintro _ _ ⟨next⟩
        exact ⟨.furtherStep between separates next .noStep⟩
      rcases bind_eq_error.mp read with readOthers | ⟨_, -, read⟩
      · have step := follows_of_derives (derives_step sound readFirst)
        refine (ih first readOthers).followed ((Follows.token separator _).followed step) ?_
        rintro _ _ _ ⟨_, rfl, ⟨next⟩⟩ ⟨others⟩
        exact ⟨.furtherStep between separates next others⟩
      · cases read

theorem halts_steps (sound : grammar.SoundInside inner) (halting : grammar.HaltsInside inner)
    {h : tokens.length ≤ bound} (read : grammar.steps inner tokens h = .error fault)
    : grammar.Halts (Completes (grammar.Takes .relative)) tokens fault := by
  rcases bind_eq_error.mp read with readFirst | ⟨first, readFirst, read⟩
  · exact (halts_step sound halting readFirst).imp fun _ _ step => step.relative
  rcases bind_eq_error.mp read with readOthers | ⟨_, -, read⟩
  · have step := follows_of_derives (derives_step sound readFirst)
    refine ((halts_furtherSteps sound halting readOthers).followed step ?_).of_entered
    rintro _ _ _ ⟨first⟩ ⟨others⟩
    exact ⟨.stepwise first others⟩
  · cases read

theorem halts_locationPath (sound : grammar.SoundInside inner)
    (halting : grammar.HaltsInside inner) {h : tokens.length ≤ bound}
    (read : grammar.locationPath inner tokens h = .error fault)
    : grammar.Halts (Completes (grammar.Takes (.expression .path))) tokens fault := by
  have fromContext {tokens : List Token} {h : tokens.length ≤ bound}
      (read : (grammar.steps inner tokens h >>= fun taken => .ok (taken.map (Expr.path false)))
        = .error fault)
      : grammar.Halts (Completes (grammar.Takes (.expression .path))) tokens fault := by
    rcases bind_eq_error.mp read with readSteps | ⟨_, -, read⟩
    · exact (halts_steps sound halting readSteps).imp fun _ _ steps => steps.path
    · cases read
  cases tokens with
  | nil => exact fromContext read
  | cons token rest =>
      rw [locationPath] at read
      split at read
      case isTrue isSlash =>
          split at read
          case isTrue =>
              rcases bind_eq_error.mp read with readSteps | ⟨_, -, read⟩
              · refine (halts_steps sound halting readSteps).preceded [token] ?_
                rintro _ _ ⟨steps⟩
                exact ⟨.located (.fromRoot isSlash steps)⟩
              · cases read
          case isFalse => cases read
      case isFalse =>
          split at read
          case isTrue isDouble =>
              rcases bind_eq_error.mp read with readSteps | ⟨_, -, read⟩
              · refine (halts_steps sound halting readSteps).preceded [token] ?_
                rintro _ _ ⟨steps⟩
                exact ⟨.located (.anywhere isDouble steps)⟩
              · cases read
          case isFalse => exact fromContext read

-----------------------------------------------------------------------------------------
-- Primary expressions
-----------------------------------------------------------------------------------------

/-- Arguments of some number. -/
def TakesArguments (grammar : Grammar) (tokens rest : List Token) : Prop :=
  ∃ count, grammar.Takes (.arguments count) tokens rest

theorem halts_furtherArguments (sound : grammar.SoundInside inner)
    (halting : grammar.HaltsInside inner) {tokens : List Token} {h : tokens.length < bound}
    (read : furtherArguments inner tokens h = .error fault)
    : grammar.Halts
        (Enters fun tokens rest => ∃ count, grammar.Takes (.furtherArguments count) tokens rest)
        tokens fault := by
  fun_induction furtherArguments inner tokens h with
  | case1 | case2 => cases read
  | case3 comma rest h isComma _ ih =>
      rcases bind_eq_error.mp read with readArgument | ⟨argument, readArgument, read⟩
      · refine (halting _ _ _ readArgument).entered comma ?_
        rintro _ _ ⟨next⟩
        exact ⟨_, ⟨.furtherArgument (Decidable.not_not.mp isComma) next .noFurtherArgument⟩⟩
      rcases bind_eq_error.mp read with readOthers | ⟨_, -, read⟩
      · have next := follows_of_derives (sound _ _ _ readArgument)
        refine (ih argument readOthers).followed ((Follows.token comma _).followed next) ?_
        rintro _ _ _ ⟨_, rfl, ⟨next⟩⟩ ⟨count, ⟨others⟩⟩
        exact ⟨_, ⟨.furtherArgument (Decidable.not_not.mp isComma) next others⟩⟩
      · cases read

/-- Arguments with the parenthesis that closes them. -/
theorem halts_callArguments (sound : grammar.SoundInside inner)
    (halting : grammar.HaltsInside inner) {name : String} {opener : Token}
    {h : tokens.length < bound}
    (read : grammar.callArguments inner name opener tokens h = .error fault)
    : grammar.Halts
        (Completes (Relation.Comp grammar.TakesArguments (Closes .closeParenthesis)))
        tokens fault := by
  have closed {tokens : List Token}
      (halts : grammar.Halts (Completes grammar.TakesArguments) tokens fault)
      : grammar.Halts
          (Completes (Relation.Comp grammar.TakesArguments (Closes .closeParenthesis)))
          tokens fault :=
    halts.after [] fun _ _ _ completes => completes.closed (.inl rfl)
  have noArgument : Completes grammar.TakesArguments [] :=
    Completes.nothing.imp fun _ _ same => same ▸ ⟨0, ⟨.noArgument⟩⟩
  rcases bind_eq_error.mp read with readList | ⟨list, readList, read⟩
  · cases tokens with
    | nil =>
        cases readList
        exact closed (.here _ noArgument)
    | cons token rest =>
        dsimp only at readList
        split at readList
        case isTrue => cases readList
        case isFalse =>
            rcases bind_eq_error.mp readList with readFirst | ⟨first, readFirst, readList⟩
            · refine closed ((halting _ _ _ readFirst).imp ?_)
              rintro _ _ ⟨first⟩
              exact ⟨_, ⟨.someArguments first .noFurtherArgument⟩⟩
            rcases bind_eq_error.mp readList with readOthers | ⟨_, -, readList⟩
            · have first := follows_of_derives (sound _ _ _ readFirst)
              have others := halts_furtherArguments sound halting readOthers
              refine closed (others.followed first ?_).of_entered
              rintro _ _ _ ⟨first⟩ ⟨count, ⟨others⟩⟩
              exact ⟨_, ⟨.someArguments first others⟩⟩
            · cases readList
  rcases bind_eq_error.mp read with readCloser | ⟨_, -, read⟩
  · refine .unclosed ?_ (.inl rfl) readCloser
    cases tokens with
    | nil => cases readList
    | cons token rest =>
        dsimp only at readList
        split at readList
        case isTrue =>
            cases readList
            exact .of_taken [] fun _ => ⟨0, ⟨.noArgument⟩⟩
        case isFalse =>
            obtain ⟨first, readFirst, readList⟩ := bind_eq_ok.mp readList
            obtain ⟨others, readOthers, readList⟩ := bind_eq_ok.mp readList
            cases readList
            have next := follows_of_derives (sound _ _ _ readFirst)
            have more := follows_of_derives (derives_furtherArguments sound readOthers)
            refine (next.followed more).imp ?_
            rintro _ _ ⟨_, ⟨first⟩, ⟨others⟩⟩
            exact ⟨_, ⟨.someArguments first others⟩⟩
  · split at read
    case h_1 refused =>
        cases read
        exact ⟨_, _, refused⟩
    case h_2 => cases read

/-- A call of any arguments begins with what calls the function. -/
theorem takes_call {name : String} {opener : Token} {arguments : List Token}
    (head : callHead? tokens = some (name, opener, arguments))
    : ∃ first, tokens = first ++ arguments ∧ ∀ tokens rest,
        Relation.Comp grammar.TakesArguments (Closes .closeParenthesis) tokens rest →
        grammar.Takes .primary (first ++ tokens) rest := by
  have accepted name count := grammar.checkCall_lenient name count
  cases CallHead.of_callHead? head with
  | @plain name opener _ isName noType opens =>
      refine ⟨[name, opener], rfl, ?_⟩
      rintro _ _ ⟨_, ⟨count, ⟨arguments⟩⟩, closer, closes, rfl⟩
      exact ⟨.call name isName noType opens arguments closes (accepted _ _)⟩
  | @qualified name colon part opener _ isName noType isColon isPart opens =>
      refine ⟨[name, colon, part, opener], rfl, ?_⟩
      rintro _ _ ⟨_, ⟨count, ⟨arguments⟩⟩, closer, closes, rfl⟩
      exact ⟨.qualifiedCall name part isName noType isColon isPart opens arguments closes
        (accepted _ _)⟩

theorem halts_primary (sound : grammar.SoundInside inner) (halting : grammar.HaltsInside inner)
    {h : tokens.length ≤ bound} (read : grammar.primary? inner tokens h = some (.error fault))
    : grammar.Halts (Completes (grammar.Takes .primary)) tokens fault := by
  cases tokens with
  | nil => cases read
  | cons token rest =>
      rw [primary?.eq_def] at read
      dsimp only at read
      split at read
      case h_1 | h_2 | h_3 => cases read
      case h_4 opens =>
          rw [Option.some.injEq] at read
          have enclosed {tokens : List Token}
              (halts : grammar.Halts
                (Completes (Relation.Comp (grammar.Takes .whole) (Closes .closeParenthesis)))
                tokens fault)
              : grammar.Halts (Completes (grammar.Takes .primary)) (token :: tokens) fault := by
            refine halts.preceded [token] ?_
            rintro _ _ ⟨_, ⟨inside⟩, closer, closes, rfl⟩
            exact ⟨.enclosed opens inside closes⟩
          split at read
          case isTrue empty =>
              cases read
              obtain rfl := List.isEmpty_iff.mp empty
              exact enclosed (.here _ (completes_whole.closed (.inl rfl)))
          case isFalse =>
              rcases bind_eq_error.mp read with readInside | ⟨_, readInside, read⟩
              · apply enclosed
                exact (halting _ _ _ readInside).after [] fun _ _ _ completes =>
                  completes.closed (.inl rfl)
              rcases bind_eq_error.mp read with readCloser | ⟨_, -, read⟩
              · apply enclosed
                exact .unclosed (follows_of_derives (sound _ _ _ readInside)) (.inl rfl) readCloser
              · cases read
      case h_5 =>
          split at read
          case h_1 => cases read
          case h_2 name opener arguments head =>
              rw [Option.some.injEq] at read
              rcases bind_eq_error.mp read with readCall | ⟨_, -, read⟩
              · obtain ⟨first, same, calls⟩ := takes_call head
                rw [same]
                exact (halts_callArguments sound halting readCall).preceded first calls
              · cases read

/-- A primary expression with predicates can have steps after it. -/
theorem Takes.continued {later : List Token} (first : grammar.Takes .primary tokens middle)
    (predicates : grammar.Takes .predicates middle later)
    (further : grammar.Takes .further later rest)
    : grammar.Takes (.expression .path) tokens rest := by
  obtain ⟨first⟩ := first
  obtain ⟨predicates⟩ := predicates
  obtain ⟨further⟩ := further
  cases further with
  | noStep => exact ⟨.filtered first predicates⟩
  | furtherStep between separates next others =>
      exact ⟨.continued between first predicates separates (.stepwise next others)⟩

theorem halts_pathExpression (sound : grammar.SoundInside inner)
    (halting : grammar.HaltsInside inner) {h : tokens.length ≤ bound}
    (read : grammar.pathExpression inner tokens h = .error fault)
    : grammar.Halts (Completes (grammar.Takes (.expression .path))) tokens fault := by
  rw [pathExpression] at read
  split at read
  case isTrue empty =>
    cases read
    obtain rfl := List.isEmpty_iff.mp empty
    exact .here _ completes_path
  case isFalse =>
  split at read
  case h_1 => exact halts_locationPath sound halting read
  case h_2 reading starts =>
    rcases bind_eq_error.mp read with rfl | ⟨primary, rfl, readRest⟩
    · refine (halts_primary sound halting starts).imp fun _ _ first => ?_
      exact first.continued ⟨.noPredicate⟩ ⟨.noStep⟩
    have first := follows_of_derives (derives_primary sound starts)
    rcases bind_eq_error.mp readRest with readList | ⟨list, readList, readRest⟩
    · refine ((halts_predicates sound halting readList).followed first ?_).of_entered
      exact fun _ _ _ first predicates => first.continued predicates ⟨.noStep⟩
    rcases bind_eq_error.mp readRest with readSteps | ⟨_, -, readRest⟩
    · have predicates := follows_of_derives (derives_predicates sound readList)
      have further := halts_furtherSteps sound halting readSteps
      refine (further.followed (first.followed predicates) ?_).of_entered
      rintro _ _ _ ⟨_, first, predicates⟩ further
      exact first.continued predicates further
    · cases readRest

-----------------------------------------------------------------------------------------
-- Operators
-----------------------------------------------------------------------------------------

/-- A reader for a layer halts where it can be completed. -/
def HaltsLayer (grammar : Grammar) {bound : Nat} (layer : Layer) (reader : Reader Expr bound)
    : Prop :=
  ∀ tokens h fault, reader tokens h = .error fault →
    grammar.Halts (Completes (grammar.Takes (.expression layer))) tokens fault

theorem halts_operations {level : Level} {operand : Reader Expr bound}
    (sound : grammar.SoundLayer level.operand operand)
    (halting : grammar.HaltsLayer level.operand operand) {left : Expr} {tokens : List Token}
    {h : tokens.length ≤ bound}
    (read : operations level.read? operand left tokens h = .error fault)
    : grammar.Halts (Enters (grammar.Takes (.operations level))) tokens fault := by
  fun_induction operations level.read? operand left tokens h with
  | case1 | case2 => cases read
  | case3 left token rest h combine operator _ ih =>
      rw [Level.read?_eq] at operator
      rcases bind_eq_error.mp read with readRight | ⟨right, readRight, read⟩
      · refine (halting _ _ _ readRight).entered token ?_
        rintro _ _ ⟨right⟩
        exact ⟨.operation combine operator right .noOperation⟩
      rcases bind_eq_error.mp read with readOthers | ⟨_, -, read⟩
      · have next := follows_of_derives (sound _ _ _ readRight)
        refine (ih right readOthers).followed ((Follows.token token _).followed next) ?_
        rintro _ _ _ ⟨_, rfl, ⟨right⟩⟩ ⟨others⟩
        exact ⟨.operation combine operator right others⟩
      · cases read

theorem haltsLayer_binary {level : Level} {operand : Reader Expr bound}
    (sound : grammar.SoundLayer level.operand operand)
    (halting : grammar.HaltsLayer level.operand operand)
    : grammar.HaltsLayer (.binary level) (Grammar.level level.read? operand) := by
  intro tokens h fault read
  rcases bind_eq_error.mp read with readFirst | ⟨first, readFirst, read⟩
  · exact (halting _ _ _ readFirst).imp fun _ _ first => first.binary
  rcases bind_eq_error.mp read with readOthers | ⟨_, -, read⟩
  · have left := follows_of_derives (sound _ _ _ readFirst)
    refine ((halts_operations sound halting readOthers).followed left ?_).of_entered
    rintro _ _ _ ⟨first⟩ ⟨others⟩
    exact ⟨.operands first others⟩
  · cases read

theorem haltsLayer_negation {operand : Reader Expr bound}
    (halting : grammar.HaltsLayer (.binary .union) operand)
    : grammar.HaltsLayer .negation (negation operand) := by
  have plain {tokens : List Token} {h fault} (read : operand tokens h = .error fault)
      : grammar.Halts (Completes (grammar.Takes (.expression .negation))) tokens fault := by
    refine (halting _ _ _ read).imp ?_
    rintro _ _ ⟨operand⟩
    exact ⟨.plain operand⟩
  intro tokens h fault read
  induction tokens with
  | nil => exact plain read
  | cons token rest ih =>
      rw [negation] at read
      split at read
      case isTrue minus =>
          rcases bind_eq_error.mp read with readInside | ⟨_, -, read⟩
          · refine (ih _ readInside).preceded [token] ?_
            rintro _ _ ⟨operand⟩
            exact ⟨.negated minus operand⟩
          · cases read
      case isFalse => exact plain read

theorem haltsLayer (sound : grammar.SoundInside inner) (halting : grammar.HaltsInside inner)
    (layer : Layer) : grammar.HaltsLayer layer (grammar.layer inner layer) := by
  fun_induction grammar.layer inner layer with
  | case1 => exact fun _ _ _ read => halts_pathExpression sound halting read
  | case2 ih => exact haltsLayer_negation ih
  | case3 level ih => exact haltsLayer_binary (soundLayer sound level.operand) ih

theorem halts_expression {tokens : List Token} (read : grammar.expression tokens = .error fault)
    : grammar.Halts (Completes (grammar.Takes .whole)) tokens fault := by
  fun_induction grammar.expression tokens generalizing fault with
  | case1 tokens ih =>
      rw [operators_eq] at read
      apply haltsLayer (fun _ _ _ read => derives_expression read) _ _ _ _ _ read
      exact fun inside h fault read => ih inside h read

/-- All tokens are read up to a place where what comes before can be completed. -/
theorem halts_whole (read : grammar.whole tokens = .error fault)
    : grammar.Halts (Completes (grammar.Takes .whole)) tokens fault := by
  rw [whole] at read
  split at read
  case isTrue empty =>
    cases read
    obtain rfl := List.isEmpty_iff.mp empty
    exact .here _ completes_whole
  case isFalse =>
    rcases bind_eq_error.mp read with readAll | ⟨all, readAll, read⟩
    · exact halts_expression readAll
    · split at read
      case isTrue => cases read
      case isFalse =>
          cases read
          obtain ⟨taken, same, completes⟩ :=
            Completes.of_follows (follows_of_derives (derives_expression readAll))
          exact ⟨taken, all.rest, same, rfl, completes⟩

end Grammar

-----------------------------------------------------------------------------------------
-- Expressions
-----------------------------------------------------------------------------------------

theorem marks_of_completing
    : ∀ kind ∈ Grammar.completing, ∃ c, (kind, [c]) ∈ TokenKind.marks := by
  simp [Grammar.completing, TokenKind.marks]

/-- The tokens that begin before the end of a text that is read are those that it is read into. -/
theorem Token.Reads.filter_eq {rest first second : List Char} {before after : List Token}
    (early : Token.Reads (second ++ rest) 0 first before)
    (late : Token.Reads rest (0 + first.length) second after)
    : (before ++ after).filter (·.position < first.length) = before := by
  rw [List.filter_append, List.filter_eq_self.mpr, List.filter_eq_nil_iff.mpr, List.append_nil]
  · intro token member
    have past := (late.within token member).1
    rw [decide_eq_true_eq]
    omega
  · intro token member
    have within := (early.within token member).2
    have positive := Token.length_pos_of_spells (early.longest rfl token member).spells
    rw [decide_eq_true_eq]
    omega

/-- The tokens before the position of a syntax error begin an expression: there is a text that has
these and further tokens, and that is an expression where functions of all names take any arguments.
-/
theorem Expression.exists_extension {arityOf : String → Option Arity} {source : String}
    {tokens : List Token} {malformed : Malformed} (split : Token.ofText source = .ok tokens)
    (refused : Expression.ofText arityOf source = .error (.malformed malformed))
    : ∃ more further expression,
        Token.ofText (String.ofList (source.toList.take malformed.position ++ more))
          = .ok (tokens.filter (·.position < malformed.position) ++ further)
        ∧ Expression.ofText (fun _ => some ⟨0, none⟩)
            (String.ofList (source.toList.take malformed.position ++ more))
          = .ok expression := by
  rw [ofText_eq_map split, map_eq_error] at refused
  obtain ⟨before, after, rfl, here, kinds, only, completed⟩ := Grammar.halts_whole refused
  obtain ⟨first, second, parts, early, late, place⟩ := (Token.reads_of_ofText split).split
  have position : malformed.position = first.length := by
    rw [here, ← Nat.zero_add first.length, place]
    cases after with
    | nil => simp [Grammar.positionOf, String.length_toList]
    | cons token after => rfl
  obtain ⟨more, further, same, reads⟩ :=
    Token.exists_reads_of_marks (0 + first.length) fun kind member =>
      marks_of_completing kind (only member)
  have scanned := (early.alone.joined (by decide) reads).scan_eq
  rw [← String.toList_ofList (l := first ++ ' ' :: more), ← Token.ofText] at scanned
  obtain ⟨derivation⟩ := completed further same [] (by simp [Grammar.StartsStep])
  rw [List.append_nil] at derivation
  let extended := String.ofList (first ++ ' ' :: more)
  have admits : (Grammar.mk extended.length fun _ => some ⟨0, none⟩).Admits
      (Grammar.lenient ⟨source.length, arityOf⟩) :=
    fun _ _ accepted => accepted
  obtain ⟨again, -⟩ := derivation.admitted admits
  rw [position, parts, List.take_left, early.filter_eq late]
  refine ⟨' ' :: more, further, ⟨again.tree, extended⟩, scanned, ?_⟩
  rw [ofText_eq_map scanned, again.whole_eq]
  rfl

/-- An axis is followed by a number, which is no node test. -/
theorem Expression.exists_extension_axis
    : Expression.ofText (fun _ => none) "//self::2" = .error (.malformed ⟨8, .unrecognizedNodeTest⟩)
      ∧ ∃ more further expression,
        Token.ofText (String.ofList ("//self::2".toList.take 8 ++ more))
          = .ok ([⟨0, "//", .doubleSlash⟩, ⟨2, "self", .name⟩, ⟨6, "::", .doubleColon⟩] ++ further)
        ∧ Expression.ofText (fun _ => some ⟨0, none⟩)
            (String.ofList ("//self::2".toList.take 8 ++ more))
          = .ok expression := by
  have split : Token.ofText "//self::2"
      = .ok [⟨0, "//", .doubleSlash⟩, ⟨2, "self", .name⟩, ⟨6, "::", .doubleColon⟩,
          ⟨8, "2", .number⟩] := by cbv
  have refused : Expression.ofText (fun _ => none) "//self::2"
      = .error (.malformed ⟨8, .unrecognizedNodeTest⟩) := by cbv
  have before : [⟨0, "//", .doubleSlash⟩, ⟨2, "self", .name⟩, ⟨6, "::", .doubleColon⟩,
        ⟨8, "2", .number⟩].filter (fun token : Token => token.position < 8)
      = [⟨0, "//", .doubleSlash⟩, ⟨2, "self", .name⟩, ⟨6, "::", .doubleColon⟩] := by decide
  have extension := exists_extension split refused
  dsimp only at extension
  rw [before] at extension
  exact ⟨refused, extension⟩

end PathQuery
