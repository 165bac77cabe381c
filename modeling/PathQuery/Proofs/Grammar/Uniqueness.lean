import PathQuery.Proofs.Grammar.Completeness
import PathQuery.Proofs.Grammar.Soundness

/-! The grammar is unambiguous: tokens have one derivation at most. As a derivation is read
where its part stops, two derivations from the same tokens leave the same ones, so that all
parts of them begin and end at the same places.
-/

namespace PathQuery.Grammar

variable {grammar : Grammar} {tokens rest left : List Token}

/-- A reading gives one value and leaves the same tokens. -/
theorem Gives.unique {α : Type} {bound : Nat} {reading : Reading α bound} {value other : α}
    (gives : Gives reading value rest) (given : Gives reading other left)
    : value = other ∧ rest = left := by
  obtain ⟨fewer, rfl⟩ := gives
  obtain ⟨fewer, same⟩ := given
  cases same
  exact ⟨rfl, rfl⟩

namespace Derivation

/-- Two derivations of a part leave the same tokens if both stop, as the part is read in one
way. Calls are read with their closing parenthesis, so arguments come below.
-/
theorem rest_unique {part : Part} (derivation : grammar.Derivation part tokens rest)
    (other : grammar.Derivation part tokens left) (stops : part.Stops rest)
    (stopsOther : part.Stops left) (notArguments : ∀ count, part ≠ .arguments count)
    : rest = left := by
  have gives := derivation.reads stops
  have given := other.reads stopsOther
  have fits := Nat.le_refl tokens.length
  -- the reader of the part, given as many tokens as there are, gives both
  cases part with
  | arguments count => exact absurd rfl (notArguments count)
  | expression | location | relative | further | step | predicates =>
      exact ((gives tokens.length fits).unique (given tokens.length fits)).2
  | operations =>
      exact ((gives tokens.length fits (.string "")).unique
        (given tokens.length fits (.string ""))).2
  | test => exact (Gives.unique gives given).2
  | primary =>
      obtain ⟨reading, starts, gives⟩ := gives tokens.length fits
      obtain ⟨again, same, given⟩ := given tokens.length fits
      rw [starts, Option.some.injEq] at same
      subst same
      exact (gives.unique given).2
  | furtherArguments =>
      exact ((gives _ (Nat.lt_succ_self _)).unique (given _ (Nat.lt_succ_self _))).2

/-- Further arguments are as many in two derivations if both stop. -/
theorem furtherArguments_unique {count more : Nat}
    (others : grammar.Derivation (.furtherArguments count) tokens rest)
    (further : grammar.Derivation (.furtherArguments more) tokens left)
    (stops : (Part.furtherArguments count).Stops rest)
    (stopsOther : (Part.furtherArguments more).Stops left)
    : count = more ∧ rest = left := by
  obtain ⟨same, leaves⟩ := (others.reads stops _ (Nat.lt_succ_self _)).unique
    (further.reads stopsOther _ (Nat.lt_succ_self _))
  exact ⟨by rw [← others.length_furtherArguments, same, further.length_furtherArguments], leaves⟩

/-- Arguments are as many in two derivations up to what closes the call. -/
theorem arguments_unique {count more : Nat} {closer other : Token}
    (arguments : grammar.Derivation (.arguments count) tokens (closer :: rest))
    (again : grammar.Derivation (.arguments more) tokens (other :: left))
    (closes : closer.kind = .closeParenthesis) (closesOther : other.kind = .closeParenthesis)
    : count = more ∧ closer :: rest = other :: left := by
  have stops (count : Nat) {token : Token} (closes : token.kind = .closeParenthesis)
      (more : List Token)
      : (Part.furtherArguments count).Stops (token :: more) :=
    Part.stops_cons _ (Part.ends_furtherArguments count closes) more
  -- no argument begins with what closes the call
  have opened {token : Token} {others : List Token}
      (closes : token.kind = .closeParenthesis)
      (begins : BeginsWith (Layer.binary .or).kinds (token :: others))
      : False := by
    obtain ⟨first, more, ⟨⟩, kind⟩ := begins
    rw [closes] at kind
    exact absurd kind (by decide)
  cases arguments with
  | noArgument =>
      cases again with
      | noArgument => exact ⟨rfl, rfl⟩
      | someArguments first _ => exact (opened closes (first.begins _ rfl)).elim
  | someArguments first others =>
      cases again with
      | noArgument => exact (opened closesOther (first.begins _ rfl)).elim
      | someArguments second further =>
          obtain rfl := first.rest_unique second
            (others.stops_furtherArguments (stops _ closes _))
            (further.stops_furtherArguments (stops _ closesOther _)) (by simp)
          obtain ⟨rfl, same⟩ := others.furtherArguments_unique further (stops _ closes _)
            (stops _ closesOther _)
          exact ⟨rfl, same⟩

-----------------------------------------------------------------------------------------
-- Productions that exclude each other
-----------------------------------------------------------------------------------------

theorem not_negated {token : Token}
    (operand : grammar.Derivation (.expression (.binary .union)) (token :: tokens) rest)
    (minus : token.Is .operator "-")
    : False := by
  obtain ⟨first, more, ⟨⟩, kind⟩ := operand.begins _ rfl
  rw [minus.1] at kind
  exact absurd kind (by decide)

/-- No tokens begin both a location path and a primary expression. -/
theorem not_primary (path : grammar.Derivation .location tokens rest)
    (primary : grammar.Derivation .primary tokens left) (stops : Part.location.Stops rest)
    : False := by
  have none := path.primary?_location stops (grammar.inside tokens.length) (Nat.le_refl _)
  obtain ⟨reading, some, -⟩ := primary.reads (fun _ _ => trivial) tokens.length (Nat.le_refl _)
  rw [none] at some
  cases some

theorem not_slash {token : Token} (path : grammar.Derivation .relative (token :: tokens) rest)
    (slash : token.kind ∉ stepKinds)
    : False := by
  obtain ⟨first, more, ⟨⟩, kind⟩ := path.begins _ rfl
  exact slash kind

/-- A slash is not the root where a path follows it. -/
theorem not_alone (path : grammar.Derivation .relative tokens rest)
    (alone : ∀ next ∈ tokens.head?, ¬ startsStep next)
    : False := by
  obtain ⟨first, more, rfl, kind⟩ := path.begins _ rfl
  exact alone first rfl ((startsStep_iff first).mpr kind)

theorem not_abbreviated {token : Token} (test : grammar.Derivation .test (token :: tokens) rest)
    (stops : Part.test.Stops rest) (other : token.kind ≠ .asterisk ∧ token.kind ≠ .name)
    : False := by
  obtain ⟨first, more, ⟨⟩, kind, -⟩ := test.begins_test stops
  exact kind.elim other.1 other.2

theorem not_axis {name colons : Token}
    (test : grammar.Derivation .test (name :: colons :: tokens) rest) (stops : Part.test.Stops rest)
    (isDouble : colons.kind = .doubleColon)
    : False := by
  obtain ⟨first, more, ⟨⟩, -, noAxis⟩ := test.begins_test stops
  exact noAxis colons rfl isDouble

theorem not_separated {token : Token} {between : List Step}
    (separates : separatorSteps? token = some between) (ends : Part.location.Ends token)
    : False := by
  rcases kind_of_separatorSteps? separates with kind | kind <;>
    exact absurd (kind ▸ by decide) ends

-----------------------------------------------------------------------------------------
-- Unique derivations
-----------------------------------------------------------------------------------------

/-- No other derivation of the part leaves the same tokens, where the part stops. -/
def IsOnly {part : Part} (derivation : grammar.Derivation part tokens rest) : Prop :=
  part.Stops rest → ∀ other : grammar.Derivation part tokens rest, derivation = other

variable {part next : Part} {middle between : List Token}

/-- Two parts in a row have one derivation each, as the first one ends at the same place. -/
theorem IsOnly.followed {first : grammar.Derivation part tokens middle}
    {others : grammar.Derivation next middle rest} (onlyFirst : first.IsOnly)
    (onlyOthers : others.IsOnly) (second : grammar.Derivation part tokens between)
    (further : grammar.Derivation next between rest) (stopsFirst : part.Stops middle)
    (stopsSecond : part.Stops between) (stops : next.Stops rest)
    (notArguments : ∀ count, part ≠ .arguments count)
    : middle = between ∧ first ≍ second ∧ others ≍ further := by
  obtain rfl := first.rest_unique second stopsFirst stopsSecond notArguments
  exact ⟨rfl, heq_of_eq (onlyFirst stopsFirst second), heq_of_eq (onlyOthers stops further)⟩

-----------------------------------------------------------------------------------------
-- Operators
-----------------------------------------------------------------------------------------

theorem only_operands {level : Level}
    {first : grammar.Derivation (.expression level.operand) tokens middle}
    {others : grammar.Derivation (.operations level) middle rest} (onlyFirst : first.IsOnly)
    (onlyOthers : others.IsOnly)
    : (operands first others).IsOnly := by
  intro stops other
  cases other with
  | operands second further =>
      obtain ⟨rfl, ⟨⟩, ⟨⟩⟩ := onlyFirst.followed onlyOthers second further
        (others.stops_operations stops) (further.stops_operations stops) stops (by simp)
      rfl

/-- Where a level stops, no operator of it follows. -/
theorem not_operation {level : Level} {token : Token} {combine : Expr → Expr → Expr}
    (operator : level.operation? token = some combine)
    (stops : (Part.operations level).Stops (token :: tokens))
    : False := by
  have none := (stops _ rfl).2 _ (Nat.le_refl _)
  rw [operator] at none
  cases none

theorem only_operation {level : Level} {token : Token} {combine : Expr → Expr → Expr}
    (operator : level.operation? token = some combine)
    {right : grammar.Derivation (.expression level.operand) tokens middle}
    {others : grammar.Derivation (.operations level) middle rest} (onlyRight : right.IsOnly)
    (onlyOthers : others.IsOnly)
    : (operation combine operator right others).IsOnly := by
  intro stops other
  cases other with
  | noOperation => exact (not_operation operator stops).elim
  | operation again same second further =>
      rw [operator, Option.some.injEq] at same
      subst same
      obtain ⟨rfl, ⟨⟩, ⟨⟩⟩ := onlyRight.followed onlyOthers second further
        (others.stops_operations stops) (further.stops_operations stops) stops (by simp)
      rfl

theorem only_negated {token : Token} (minus : token.Is .operator "-")
    {operand : grammar.Derivation (.expression .negation) tokens rest} (only : operand.IsOnly)
    : (negated minus operand).IsOnly := by
  intro stops other
  cases other with
  | negated _ again => rw [only stops again]
  | plain again => exact (again.not_negated minus).elim

theorem only_plain {operand : grammar.Derivation (.expression (.binary .union)) tokens rest}
    (only : operand.IsOnly)
    : (plain operand).IsOnly := by
  intro stops other
  cases other with
  | negated minus => exact (operand.not_negated minus).elim
  | plain again => rw [only stops again]

-----------------------------------------------------------------------------------------
-- Paths
-----------------------------------------------------------------------------------------

theorem only_located {path : grammar.Derivation .location tokens rest} (only : path.IsOnly)
    : (located path).IsOnly := by
  intro stops other
  have stopsPath := (Part.stops_path stops).1
  cases other with
  | located again => rw [only stopsPath again]
  | filtered primary => exact (path.not_primary primary stopsPath).elim
  | continued _ primary => exact (path.not_primary primary stopsPath).elim

/-- Predicates after a primary expression end before a separator or before what follows the
path, not both.
-/
theorem not_continued {separator : Token} {further : List Token} {between : List Step}
    (primary : grammar.Derivation .primary tokens middle)
    (predicates : grammar.Derivation .predicates middle rest)
    (again : grammar.Derivation .primary tokens left)
    (others : grammar.Derivation .predicates left (separator :: further))
    (separates : separatorSteps? separator = some between)
    (stops : (Part.expression .path).Stops rest)
    : False := by
  obtain ⟨stopsPath, stopsPredicates⟩ := Part.stops_path stops
  obtain rfl := primary.rest_unique again (fun _ _ => trivial) (fun _ _ => trivial) (by simp)
  obtain rfl := predicates.rest_unique others stopsPredicates
    (Part.stops_cons _ (ends_of_separatorSteps? separates) further) (by simp)
  exact not_separated separates (stopsPath _ rfl)

theorem only_filtered {primary : grammar.Derivation .primary tokens middle}
    {predicates : grammar.Derivation .predicates middle rest} (onlyPrimary : primary.IsOnly)
    (onlyPredicates : predicates.IsOnly)
    : (filtered primary predicates).IsOnly := by
  intro stops other
  obtain ⟨stopsPath, stopsPredicates⟩ := Part.stops_path stops
  cases other with
  | located path => exact (path.not_primary primary stopsPath).elim
  | filtered again further =>
      obtain ⟨rfl, ⟨⟩, ⟨⟩⟩ := onlyPrimary.followed onlyPredicates again further
        (fun _ _ => trivial) (fun _ _ => trivial) stopsPredicates (by simp)
      rfl
  | continued _ again further separates =>
      exact (not_continued primary predicates again further separates stops).elim

theorem only_continued {separator : Token} {between : List Step} {further : List Token}
    {primary : grammar.Derivation .primary tokens middle}
    {predicates : grammar.Derivation .predicates middle (separator :: further)}
    (separates : separatorSteps? separator = some between)
    {steps : grammar.Derivation .relative further rest} (onlyPrimary : primary.IsOnly)
    (onlyPredicates : predicates.IsOnly) (onlySteps : steps.IsOnly)
    : (continued between primary predicates separates steps).IsOnly := by
  intro stops other
  have stopsPath := (Part.stops_path stops).1
  have stopsPredicates {token : Token} {found : List Step} {more : List Token}
      (separates : separatorSteps? token = some found)
      : Part.predicates.Stops (token :: more) :=
    Part.stops_cons _ (ends_of_separatorSteps? separates) more
  cases other with
  | located path => exact (path.not_primary primary stopsPath).elim
  | filtered again others =>
      exact (not_continued again others primary predicates separates stops).elim
  | continued _ again others separated path =>
      obtain rfl := primary.rest_unique again (fun _ _ => trivial) (fun _ _ => trivial) (by simp)
      obtain ⟨rfl, rfl⟩ := List.cons.inj <| predicates.rest_unique others
        (stopsPredicates separates) (stopsPredicates separated) (by simp)
      rw [separates, Option.some.injEq] at separated
      subst separated
      rw [onlyPrimary (fun _ _ => trivial) again, onlyPredicates (stopsPredicates separates) others,
        onlySteps stopsPath path]

theorem only_fromContext {steps : grammar.Derivation .relative tokens rest} (only : steps.IsOnly)
    : (fromContext steps).IsOnly := by
  intro stops other
  cases other with
  | fromContext again => rw [only stops again]
  | root isSlash | fromRoot isSlash | anywhere isSlash =>
      exact (steps.not_slash (by simp [isSlash, stepKinds])).elim

theorem only_root {slash : Token} (isSlash : slash.kind = .slash)
    (alone : ∀ next ∈ rest.head?, ¬ startsStep next)
    : (root isSlash alone : grammar.Derivation .location (slash :: rest) rest).IsOnly := by
  intro stops other
  cases other with
  | fromContext again => exact (again.not_slash (by simp [isSlash, stepKinds])).elim
  | root => rfl
  | fromRoot _ again => exact (again.not_alone alone).elim
  | anywhere isDouble => simp [isSlash] at isDouble

theorem only_fromRoot {slash : Token} (isSlash : slash.kind = .slash)
    {steps : grammar.Derivation .relative tokens rest} (only : steps.IsOnly)
    : (fromRoot isSlash steps).IsOnly := by
  intro stops other
  cases other with
  | fromContext again => exact (again.not_slash (by simp [isSlash, stepKinds])).elim
  | root _ alone => exact (steps.not_alone alone).elim
  | fromRoot _ again => rw [only stops again]
  | anywhere isDouble => simp [isSlash] at isDouble

theorem only_anywhere {slash : Token} (isDouble : slash.kind = .doubleSlash)
    {steps : grammar.Derivation .relative tokens rest} (only : steps.IsOnly)
    : (anywhere isDouble steps).IsOnly := by
  intro stops other
  cases other with
  | fromContext again => exact (again.not_slash (by simp [isDouble, stepKinds])).elim
  | root isSlash | fromRoot isSlash => simp [isDouble] at isSlash
  | anywhere _ again => rw [only stops again]

theorem only_stepwise {first : grammar.Derivation .step tokens middle}
    {others : grammar.Derivation .further middle rest} (onlyFirst : first.IsOnly)
    (onlyOthers : others.IsOnly)
    : (stepwise first others).IsOnly := by
  intro stops other
  cases other with
  | stepwise second further =>
      obtain ⟨rfl, ⟨⟩, ⟨⟩⟩ := onlyFirst.followed onlyOthers second further
        (others.stops_further stops) (further.stops_further stops) stops (by simp)
      rfl

theorem only_furtherStep {separator : Token} {between : List Step}
    (separates : separatorSteps? separator = some between)
    {next : grammar.Derivation .step tokens middle}
    {others : grammar.Derivation .further middle rest} (onlyNext : next.IsOnly)
    (onlyOthers : others.IsOnly)
    : (furtherStep between separates next others).IsOnly := by
  intro stops other
  cases other with
  | noStep => exact (not_separated separates (stops _ rfl)).elim
  | furtherStep _ separated second further =>
      rw [separates, Option.some.injEq] at separated
      subst separated
      obtain ⟨rfl, ⟨⟩, ⟨⟩⟩ := onlyNext.followed onlyOthers second further
        (others.stops_further stops) (further.stops_further stops) stops (by simp)
      rfl

-----------------------------------------------------------------------------------------
-- Steps
-----------------------------------------------------------------------------------------

/-- Tokens have one derivation of a node test that leaves the same tokens. -/
theorem unique_test (test other : grammar.Derivation .test tokens rest) : test = other := by
  cases test with
  | anyName isAsterisk =>
      cases other with
      | anyName => rfl
      | plainName _ isName => simp [isAsterisk] at isName
  | plainName name isName =>
      cases other with
      | anyName isAsterisk => simp [isName] at isAsterisk
      | plainName => rfl
  | qualified name part isName continues =>
      have isColon := (kind_of_continuesName continues).1
      cases other with
      | qualified => rfl
      | nodeType _ _ _ opens => simp [isColon] at opens
  | nodeType name isName known opens closes =>
      cases other with
      | qualified _ _ _ continues =>
          have isColon := (kind_of_continuesName continues).1
          simp [opens] at isColon
      | nodeType => rfl
  | target literal isName known opens isString closes =>
      cases other with
      | target => rfl

theorem only_self {dot : Token} (isDot : dot.kind = .dot)
    : (self isDot : grammar.Derivation .step (dot :: rest) rest).IsOnly := by
  intro stops other
  cases other with
  | self => rfl
  | parent isDouble => simp [isDot] at isDouble
  | onAttributes isAt => simp [isDot] at isAt
  | onAxis _ isName => simp [isDot] at isName
  | onChildren test predicates =>
      exact (test.not_abbreviated (predicates.stops_predicates stops) (by simp [isDot])).elim

theorem only_parent {dots : Token} (isDouble : dots.kind = .doubleDot)
    : (parent isDouble : grammar.Derivation .step (dots :: rest) rest).IsOnly := by
  intro stops other
  cases other with
  | self isDot => simp [isDouble] at isDot
  | parent => rfl
  | onAttributes isAt => simp [isDouble] at isAt
  | onAxis _ isName => simp [isDouble] at isName
  | onChildren test predicates =>
      exact (test.not_abbreviated (predicates.stops_predicates stops) (by simp [isDouble])).elim

section

variable {test : grammar.Derivation .test tokens middle}
  {predicates : grammar.Derivation .predicates middle rest}

theorem only_onAttributes {sign : Token} (isAt : sign.kind = .at) (onlyTest : test.IsOnly)
    (onlyPredicates : predicates.IsOnly)
    : (onAttributes isAt test predicates).IsOnly := by
  intro stops other
  cases other with
  | self isDot => simp [isAt] at isDot
  | parent isDouble => simp [isAt] at isDouble
  | onAttributes _ again further =>
      obtain ⟨rfl, ⟨⟩, ⟨⟩⟩ := onlyTest.followed onlyPredicates again further
        (predicates.stops_predicates stops) (further.stops_predicates stops) stops (by simp)
      rfl
  | onAxis _ isName => simp [isAt] at isName
  | onChildren again further =>
      exact (again.not_abbreviated (further.stops_predicates stops) (by simp [isAt])).elim

theorem only_onAxis (name : Token) {colons : Token} (isName : name.kind = .name)
    (known : (Axis.ofName? name.text).isSome) (isDouble : colons.kind = .doubleColon)
    (onlyTest : test.IsOnly) (onlyPredicates : predicates.IsOnly)
    : (onAxis name isName known isDouble test predicates).IsOnly := by
  intro stops other
  cases other with
  | self isDot => simp [isName] at isDot
  | parent isDots => simp [isName] at isDots
  | onAttributes isAt => simp [isName] at isAt
  | onAxis _ _ _ _ again further =>
      obtain ⟨rfl, ⟨⟩, ⟨⟩⟩ := onlyTest.followed onlyPredicates again further
        (predicates.stops_predicates stops) (further.stops_predicates stops) stops (by simp)
      rfl
  | onChildren again further =>
      exact (again.not_axis (further.stops_predicates stops) isDouble).elim

theorem only_onChildren (onlyTest : test.IsOnly) (onlyPredicates : predicates.IsOnly)
    : (onChildren test predicates).IsOnly := by
  intro stops other
  have stopsTest := predicates.stops_predicates stops
  cases other with
  | self isDot => exact (test.not_abbreviated stopsTest (by simp [isDot])).elim
  | parent isDouble => exact (test.not_abbreviated stopsTest (by simp [isDouble])).elim
  | onAttributes isAt => exact (test.not_abbreviated stopsTest (by simp [isAt])).elim
  | onAxis _ _ _ isDouble => exact (test.not_axis stopsTest isDouble).elim
  | onChildren again further =>
      obtain ⟨rfl, ⟨⟩, ⟨⟩⟩ := onlyTest.followed onlyPredicates again further stopsTest
        (further.stops_predicates stops) stops (by simp)
      rfl

end

theorem only_predicate {opener closer : Token} (opens : opener.kind = .openBracket)
    {inside : grammar.Derivation .whole tokens (closer :: middle)}
    (closes : closer.kind = .closeBracket)
    {others : grammar.Derivation .predicates middle rest} (onlyInside : inside.IsOnly)
    (onlyOthers : others.IsOnly)
    : (predicate opens inside closes others).IsOnly := by
  intro stops other
  have closing {closer : Token} (closes : closer.kind = .closeBracket) (more : List Token)
      : Part.whole.Stops (closer :: more) := Part.stops_whole (.inr (.inl closes)) more
  cases other with
  | noPredicate => exact (stops _ rfl (by simp [opens])).elim
  | predicate _ again closesAgain further =>
      obtain ⟨rfl, rfl⟩ := List.cons.inj <|
        inside.rest_unique again (closing closes _) (closing closesAgain _) (by simp)
      rw [onlyInside (closing closes _) again, onlyOthers stops further]

-----------------------------------------------------------------------------------------
-- Primary expressions
-----------------------------------------------------------------------------------------

/-- A primary expression of one token has one derivation, as tokens have one kind. -/
theorem only_atom {token : Token} {derivation : grammar.Derivation .primary (token :: rest) rest}
    (atom : token.kind = .number ∨ token.kind = .string ∨ token.kind = .variable)
    : derivation.IsOnly := by
  intro stops other
  cases derivation with
  | number _ isNumber =>
      cases other with
      | number => rfl
      | string _ isString => simp [isNumber] at isString
      | reference _ isVariable => simp [isNumber] at isVariable
      | enclosed opens => simp [isNumber] at opens
      | call _ isName | qualifiedCall _ _ isName => simp [isNumber] at isName
  | string _ isString =>
      cases other with
      | number _ isNumber => simp [isString] at isNumber
      | string => rfl
      | reference _ isVariable => simp [isString] at isVariable
      | enclosed opens => simp [isString] at opens
      | call _ isName | qualifiedCall _ _ isName => simp [isString] at isName
  | reference _ isVariable =>
      cases other with
      | number _ isNumber => simp [isVariable] at isNumber
      | string _ isString => simp [isVariable] at isString
      | reference => rfl
      | enclosed opens => simp [isVariable] at opens
      | call _ isName | qualifiedCall _ _ isName => simp [isVariable] at isName
  | enclosed opens => simp [opens] at atom
  | call _ isName | qualifiedCall _ _ isName => simp [isName] at atom

theorem only_enclosed {opener closer : Token} (opens : opener.kind = .openParenthesis)
    {inside : grammar.Derivation .whole tokens (closer :: rest)}
    (closes : closer.kind = .closeParenthesis) (only : inside.IsOnly)
    : (enclosed opens inside closes).IsOnly := by
  intro stops other
  have closing {closer : Token} (closes : closer.kind = .closeParenthesis) (more : List Token)
      : Part.whole.Stops (closer :: more) := Part.stops_whole (.inl closes) more
  cases other with
  | number _ isNumber => simp [opens] at isNumber
  | string _ isString => simp [opens] at isString
  | reference _ isVariable => simp [opens] at isVariable
  | enclosed _ again closesAgain =>
      obtain ⟨rfl, -⟩ := List.cons.inj <|
        inside.rest_unique again (closing closes _) (closing closesAgain _) (by simp)
      rw [only (closing closes _) again]
  | call _ isName | qualifiedCall _ _ isName => simp [opens] at isName

section

variable {count : Nat} {opener closer : Token}
  {arguments : grammar.Derivation (.arguments count) tokens (closer :: rest)}

theorem only_call (name : Token) (isName : name.kind = .name)
    (noType : ¬ isNodeTypeName name.text) (opens : opener.kind = .openParenthesis)
    (closes : closer.kind = .closeParenthesis)
    (accepted : checkCall grammar.arityOf name.text count = .ok ()) (only : arguments.IsOnly)
    : (call name isName noType opens arguments closes accepted).IsOnly := by
  intro stops other
  cases other with
  | number _ isNumber => simp [isName] at isNumber
  | string _ isString => simp [isName] at isString
  | reference _ isVariable => simp [isName] at isVariable
  | enclosed opens => simp [isName] at opens
  | call _ _ _ _ again closesAgain =>
      obtain ⟨rfl, same⟩ := arguments.arguments_unique again closes closesAgain
      obtain ⟨rfl, -⟩ := List.cons.inj same
      rw [only (Part.stops_cons (.arguments count) closes rest) again]
  | qualifiedCall _ _ _ _ isColon => simp [opens] at isColon

theorem only_qualifiedCall (name part : Token) {colon : Token} (isName : name.kind = .name)
    (noType : ¬ isNodeTypeName name.text) (isColon : colon.kind = .colon)
    (isPart : part.kind = .name) (opens : opener.kind = .openParenthesis)
    (closes : closer.kind = .closeParenthesis)
    (accepted : checkCall grammar.arityOf (name.text ++ ":" ++ part.text) count = .ok ())
    (only : arguments.IsOnly)
    : (qualifiedCall name part isName noType isColon isPart opens arguments closes
        accepted).IsOnly := by
  intro stops other
  cases other with
  | number _ isNumber => simp [isName] at isNumber
  | string _ isString => simp [isName] at isString
  | reference _ isVariable => simp [isName] at isVariable
  | enclosed opens => simp [isName] at opens
  | call _ _ _ opens => simp [isColon] at opens
  | qualifiedCall _ _ _ _ _ _ _ again closesAgain =>
      obtain ⟨rfl, same⟩ := arguments.arguments_unique again closes closesAgain
      obtain ⟨rfl, -⟩ := List.cons.inj same
      rw [only (Part.stops_cons (.arguments count) closes rest) again]

end

theorem only_someArguments {count : Nat} {first : grammar.Derivation .whole tokens middle}
    {others : grammar.Derivation (.furtherArguments count) middle rest} (onlyFirst : first.IsOnly)
    (onlyOthers : others.IsOnly)
    : (someArguments first others).IsOnly := by
  intro stops other
  have closing : (Part.furtherArguments count).Stops rest :=
    stops.imp fun _ closes => Part.ends_furtherArguments count closes
  cases other with
  | someArguments second further =>
      obtain ⟨rfl, ⟨⟩, ⟨⟩⟩ := onlyFirst.followed onlyOthers second further
        (others.stops_furtherArguments closing) (further.stops_furtherArguments closing) closing
        (by simp)
      rfl

theorem only_furtherArgument {count : Nat} {comma : Token} (isComma : comma.kind = .comma)
    {next : grammar.Derivation .whole tokens middle}
    {others : grammar.Derivation (.furtherArguments count) middle rest} (onlyNext : next.IsOnly)
    (onlyOthers : others.IsOnly)
    : (furtherArgument isComma next others).IsOnly := by
  intro stops other
  cases other with
  | furtherArgument _ second further =>
      obtain ⟨rfl, ⟨⟩, ⟨⟩⟩ := onlyNext.followed onlyOthers second further
        (others.stops_furtherArguments stops) (further.stops_furtherArguments stops) stops
        (by simp)
      rfl

-----------------------------------------------------------------------------------------
-- Any part
-----------------------------------------------------------------------------------------

/-- Tokens have one derivation of a part that leaves the same tokens and stops, by induction on
the derivation with one lemma for each production of parts.
-/
theorem unique (derivation : grammar.Derivation part tokens rest) : derivation.IsOnly := by
  induction derivation with
  | operands _ _ onlyFirst onlyOthers => exact only_operands onlyFirst onlyOthers
  | noOperation =>
      intro stops other
      cases other with
      | noOperation => rfl
      | operation _ operator => exact (not_operation operator stops).elim
  | operation _ operator _ _ onlyRight onlyOthers =>
      exact only_operation operator onlyRight onlyOthers
  | negated minus _ only => exact only_negated minus only
  | plain _ only => exact only_plain only
  | located _ only => exact only_located only
  | filtered _ _ onlyPrimary onlyPredicates => exact only_filtered onlyPrimary onlyPredicates
  | continued _ _ _ separates _ onlyPrimary onlyPredicates onlySteps =>
      exact only_continued separates onlyPrimary onlyPredicates onlySteps
  | fromContext _ only => exact only_fromContext only
  | root isSlash alone => exact only_root isSlash alone
  | fromRoot isSlash _ only => exact only_fromRoot isSlash only
  | anywhere isDouble _ only => exact only_anywhere isDouble only
  | stepwise _ _ onlyFirst onlyOthers => exact only_stepwise onlyFirst onlyOthers
  | noStep =>
      intro stops other
      cases other with
      | noStep => rfl
      | furtherStep _ separates => exact (not_separated separates (stops _ rfl)).elim
  | furtherStep _ separates _ _ onlyNext onlyOthers =>
      exact only_furtherStep separates onlyNext onlyOthers
  | self isDot => exact only_self isDot
  | parent isDouble => exact only_parent isDouble
  | onAttributes isAt _ _ onlyTest onlyPredicates =>
      exact only_onAttributes isAt onlyTest onlyPredicates
  | onAxis name isName known isDouble _ _ onlyTest onlyPredicates =>
      exact only_onAxis name isName known isDouble onlyTest onlyPredicates
  | onChildren _ _ onlyTest onlyPredicates => exact only_onChildren onlyTest onlyPredicates
  | noPredicate =>
      intro stops other
      cases other with
      | noPredicate => rfl
      | predicate opens => exact (stops _ rfl (by simp [opens])).elim
  | predicate opens _ closes _ onlyInside onlyOthers =>
      exact only_predicate opens closes onlyInside onlyOthers
  | anyName | plainName | qualified | nodeType | target =>
      exact fun _ other => unique_test _ other
  | number _ isNumber => exact only_atom (.inl isNumber)
  | string _ isString => exact only_atom (.inr (.inl isString))
  | reference _ isVariable => exact only_atom (.inr (.inr isVariable))
  | enclosed opens _ closes only => exact only_enclosed opens closes only
  | call name isName noType opens _ closes accepted only =>
      exact only_call name isName noType opens closes accepted only
  | qualifiedCall name part isName noType isColon isPart opens _ closes accepted only =>
      exact only_qualifiedCall name part isName noType isColon isPart opens closes accepted only
  | noArgument =>
      intro stops other
      cases other with
      | noArgument => rfl
  | someArguments _ _ onlyFirst onlyOthers => exact only_someArguments onlyFirst onlyOthers
  | noFurtherArgument =>
      intro stops other
      cases other with
      | noFurtherArgument => rfl
  | furtherArgument isComma _ _ onlyNext onlyOthers =>
      exact only_furtherArgument isComma onlyNext onlyOthers

end Derivation

-----------------------------------------------------------------------------------------
-- Whole expressions
-----------------------------------------------------------------------------------------

/-- Tokens are read as an expression if they can be derived as that, and in one way only. A number
stands for what it spells, which is NaN unless it is a numeral; those of a text all are.
-/
theorem whole_eq_ok_iff (grammar : Grammar) (tokens : List Token) (root : Expr)
    : (grammar.whole tokens = .ok root
        ↔ ∃ derivation : grammar.Derivation .whole tokens [], derivation.tree = root)
      ∧ ∀ derivation other : grammar.Derivation .whole tokens [], derivation = other := by
  refine ⟨⟨derives_whole, ?_⟩, fun derivation other =>
    derivation.unique (Part.stops_nil _) other⟩
  rintro ⟨derivation, rfl⟩
  exact derivation.whole_eq

end PathQuery.Grammar
