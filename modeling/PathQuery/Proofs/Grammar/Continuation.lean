import Mathlib.Logic.Relation
import PathQuery.Proofs.Grammar.Soundness

/-! What comes after a part of an expression does not matter to the part, except that a slash is a
path of its own only where no step begins after it. So the tokens of a part have a derivation before
any others, with any functions that take the same calls, and also when a step inside of the part is
given its axis.
-/

namespace PathQuery.Grammar

-----------------------------------------------------------------------------------------
-- Tokens that follow
-----------------------------------------------------------------------------------------

/-- A step can begin with the first of some tokens. -/
def StartsStep (tokens : List Token) : Prop :=
  ∃ token ∈ tokens.head?, startsStep token

theorem startsStep_cons {token : Token} {rest : List Token}
    : StartsStep (token :: rest) ↔ startsStep token := by
  simp [StartsStep]

/-- The first token of some tokens decides whether a step can begin with them. -/
theorem startsStep_append {before after other : List Token}
    (starts : StartsStep other → StartsStep after)
    : StartsStep (before ++ other) → StartsStep (before ++ after) := by
  cases before with
  | nil => exact starts
  | cons token before => exact fun first => startsStep_cons.mpr (startsStep_cons.mp first)

/-- Some tokens are taken up to the ones that are left, as they would be before others: before any
that no step can begin with, and before all if a step can begin with those that are left.
-/
def Follows (takes : List Token → List Token → Prop) (tokens rest : List Token) : Prop :=
  ∃ taken, tokens = taken ++ rest
    ∧ ∀ others, (StartsStep others → StartsStep rest) → takes (taken ++ others) others

namespace Follows

variable {takes next : List Token → List Token → Prop} {tokens middle rest : List Token}

theorem of_taken (taken : List Token) (always : ∀ others, takes (taken ++ others) others)
    : Follows takes (taken ++ rest) rest :=
  ⟨taken, rfl, fun others _ => always others⟩

theorem token (token : Token) (rest : List Token)
    : Follows (· = token :: ·) (token :: rest) rest :=
  of_taken [token] fun _ => rfl

theorem imp (follows : Follows takes tokens rest)
    (more : ∀ tokens rest, takes tokens rest → next tokens rest)
    : Follows next tokens rest := by
  obtain ⟨taken, same, before⟩ := follows
  exact ⟨taken, same, fun others starts => more _ _ (before others starts)⟩

theorem self (follows : Follows takes tokens rest) : takes tokens rest := by
  obtain ⟨taken, rfl, before⟩ := follows
  exact before rest id

/-- What is taken second begins as it did, or leaves that to what comes after it. -/
theorem followed (first : Follows takes tokens middle) (second : Follows next middle rest)
    : Follows (Relation.Comp takes next) tokens rest := by
  obtain ⟨taken, rfl, before⟩ := first
  obtain ⟨more, rfl, beforeNext⟩ := second
  refine ⟨taken ++ more, (List.append_assoc _ _ _).symm, ?_⟩
  intro others starts
  rw [List.append_assoc]
  exact ⟨more ++ others, before _ (startsStep_append starts), beforeNext others starts⟩

end Follows

-----------------------------------------------------------------------------------------
-- Tokens that are inserted
-----------------------------------------------------------------------------------------

/-- Tokens are taken also when others are inserted in a place inside of them where a step begins. -/
def Grows (inserted place : List Token) (takes : List Token → List Token → Prop)
    (tokens rest : List Token)
    : Prop :=
  ∃ before, tokens = before ++ place ∧ StartsStep place ∧ takes (before ++ (inserted ++ place)) rest

/-- Some tokens are taken whatever follows them, and with others inserted in some places. -/
structure Flexible (inserted : List Token) (places : List (List Token))
    (takes : List Token → List Token → Prop) (tokens rest : List Token) : Prop where
  follows : Follows takes tokens rest
  grows : ∀ place ∈ places, Grows inserted place takes tokens rest

namespace Flexible

variable {takes next : List Token → List Token → Prop} {tokens middle rest inserted : List Token}
  {places more : List (List Token)}

theorem of_taken (taken : List Token) (always : ∀ others, takes (taken ++ others) others)
    : Flexible inserted [] takes (taken ++ rest) rest :=
  ⟨.of_taken taken always, nofun⟩

theorem imp (flexible : Flexible inserted places takes tokens rest)
    (more : ∀ tokens rest, takes tokens rest → next tokens rest)
    : Flexible inserted places next tokens rest := by
  refine ⟨flexible.follows.imp more, fun place member => ?_⟩
  obtain ⟨before, same, starts, takes⟩ := flexible.grows place member
  exact ⟨before, same, starts, more _ _ takes⟩

/-- What is inserted comes into the first part, or into what follows that. -/
theorem followed (first : Flexible inserted places takes tokens middle)
    (second : Flexible inserted more next middle rest)
    : Flexible inserted (places ++ more) (Relation.Comp takes next) tokens rest := by
  refine ⟨first.follows.followed second.follows, fun place member => ?_⟩
  rcases List.mem_append.mp member with early | late
  · obtain ⟨before, same, starts, takes⟩ := first.grows place early
    exact ⟨before, same, starts, middle, takes, second.follows.self⟩
  · obtain ⟨taken, rfl, always⟩ := first.follows
    obtain ⟨before, rfl, starts, takes⟩ := second.grows place late
    refine ⟨taken ++ before, (List.append_assoc _ _ _).symm, starts, _, ?_, takes⟩
    rw [List.append_assoc]
    exact always _ (startsStep_append fun _ => starts)

/-- A token comes before what is taken. -/
theorem opened (token : Token) (second : Flexible inserted places next tokens rest)
    : Flexible inserted places (Relation.Comp (· = token :: ·) next) (token :: tokens) rest :=
  followed (of_taken [token] fun _ => rfl) second

/-- A token comes after what is taken. -/
theorem closed {token : Token} (first : Flexible inserted places takes tokens (token :: rest))
    : Flexible inserted places (Relation.Comp takes (· = token :: ·)) tokens rest := by
  have last : Flexible inserted [] (· = token :: ·) (token :: rest) rest :=
    of_taken [token] fun _ => rfl
  exact List.append_nil places ▸ first.followed last

end Flexible

-----------------------------------------------------------------------------------------
-- Derivations
-----------------------------------------------------------------------------------------

/-- A grammar takes all calls that another one takes. -/
def Admits (wider grammar : Grammar) : Prop :=
  ∀ name count, checkCall grammar.arityOf name count = .ok () →
    checkCall wider.arityOf name count = .ok ()

theorem Admits.refl (grammar : Grammar) : grammar.Admits grammar :=
  fun _ _ accepted => accepted

/-- The places in which a step without an axis begins. -/
def Derivation.childSteps {grammar : Grammar} {part : Part} {tokens rest : List Token}
    : grammar.Derivation part tokens rest → List (List Token)
  | onChildren test predicates => tokens :: (test.childSteps ++ predicates.childSteps)
  | operands first others => first.childSteps ++ others.childSteps
  | operation _ _ right others => right.childSteps ++ others.childSteps
  | negated _ operand => operand.childSteps
  | plain operand => operand.childSteps
  | located path => path.childSteps
  | filtered primary predicates => primary.childSteps ++ predicates.childSteps
  | continued _ primary predicates _ steps =>
      primary.childSteps ++ (predicates.childSteps ++ steps.childSteps)
  | fromContext steps => steps.childSteps
  | fromRoot _ steps => steps.childSteps
  | anywhere _ steps => steps.childSteps
  | stepwise first others => first.childSteps ++ others.childSteps
  | furtherStep _ _ next others => next.childSteps ++ others.childSteps
  | onAttributes _ test predicates => test.childSteps ++ predicates.childSteps
  | onAxis _ _ _ _ test predicates => test.childSteps ++ predicates.childSteps
  | predicate _ inside _ others => inside.childSteps ++ others.childSteps
  | enclosed _ inside _ => inside.childSteps
  | call _ _ _ _ arguments _ _ => arguments.childSteps
  | qualifiedCall _ _ _ _ _ _ _ arguments _ _ => arguments.childSteps
  | someArguments first others => first.childSteps ++ others.childSteps
  | furtherArgument _ next others => next.childSteps ++ others.childSteps
  | _ => []

/-- A step begins with its node test. -/
theorem Derivation.startsStep_test {grammar : Grammar} {tokens rest : List Token}
    (test : grammar.Derivation .test tokens rest)
    : StartsStep tokens := by
  cases test with
  | anyName kind => exact startsStep_cons.mpr (by simp [startsStep, kind])
  | plainName _ kind | qualified _ _ kind | nodeType _ kind | target _ kind =>
      exact startsStep_cons.mpr (by simp [startsStep, kind])

/-- What is derived can be followed by other tokens, and its steps can be given their axis, by
induction on the derivation.
-/
theorem Derivation.flexible {grammar wider : Grammar} (admits : wider.Admits grammar)
    {axis colons : Token} (child : axis.Is .name "child") (isDouble : colons.kind = .doubleColon)
    {part : Part} {tokens rest : List Token} (derivation : grammar.Derivation part tokens rest)
    : Flexible [axis, colons] derivation.childSteps (wider.Derives part · derivation.tree ·) tokens
        rest := by
  induction derivation with
  | operands _ _ first others =>
      refine (first.followed others).imp ?_
      rintro _ _ ⟨_, ⟨first, left⟩, others, change⟩
      exact ⟨.operands first others, congr change left⟩
  | noOperation => exact .of_taken [] fun _ => ⟨.noOperation, rfl⟩
  | operation combine operator _ _ right others =>
      refine ((right.followed others).opened _).imp ?_
      rintro _ _ ⟨_, rfl, _, ⟨right, same⟩, others, change⟩
      refine ⟨.operation combine operator right others, ?_⟩
      show (fun left => others.tree (combine left right.tree)) = _
      rw [change, same]
      rfl
  | negated minus _ operand =>
      refine (operand.opened _).imp ?_
      rintro _ _ ⟨_, rfl, operand, same⟩
      exact ⟨.negated minus operand, congrArg Expr.negate same⟩
  | plain _ operand =>
      refine operand.imp ?_
      rintro _ _ ⟨operand, same⟩
      exact ⟨.plain operand, same⟩
  | located _ path =>
      refine path.imp ?_
      rintro _ _ ⟨path, same⟩
      exact ⟨.located path, same⟩
  | filtered _ _ primary predicates =>
      refine (primary.followed predicates).imp ?_
      rintro _ _ ⟨_, ⟨primary, first⟩, predicates, list⟩
      exact ⟨.filtered primary predicates, congr (congrArg filter first) list⟩
  | continued between _ _ separates _ primary predicates steps =>
      refine (primary.followed (predicates.followed (steps.opened _))).imp ?_
      rintro _ _ ⟨_, ⟨primary, first⟩, _, ⟨predicates, list⟩, _, rfl, steps, path⟩
      refine ⟨.continued between primary predicates separates steps, ?_⟩
      exact congr (congrArg Expr.continued (congr (congrArg filter first) list))
        (congrArg (between ++ ·) path)
  | fromContext _ steps =>
      refine steps.imp ?_
      rintro _ _ ⟨steps, same⟩
      exact ⟨.fromContext steps, congrArg (Expr.path false) same⟩
  | @root slash rest isSlash alone =>
      refine ⟨⟨[slash], rfl, fun others starts => ?_⟩, nofun⟩
      have stillAlone : ∀ next ∈ others.head?, ¬ startsStep next := by
        intro next first step
        obtain ⟨other, here, also⟩ := starts ⟨next, first, step⟩
        exact alone other here also
      exact ⟨.root isSlash stillAlone, rfl⟩
  | fromRoot isSlash _ steps =>
      refine (steps.opened _).imp ?_
      rintro _ _ ⟨_, rfl, steps, same⟩
      exact ⟨.fromRoot isSlash steps, congrArg (Expr.path true) same⟩
  | anywhere isDouble _ steps =>
      refine (steps.opened _).imp ?_
      rintro _ _ ⟨_, rfl, steps, same⟩
      exact ⟨.anywhere isDouble steps,
        congrArg (fun list => Expr.path true (.anywhereBelow :: list)) same⟩
  | stepwise _ _ first others =>
      refine (first.followed others).imp ?_
      rintro _ _ ⟨_, ⟨first, step⟩, others, list⟩
      exact ⟨.stepwise first others, congr (congrArg List.cons step) list⟩
  | noStep => exact .of_taken [] fun _ => ⟨.noStep, rfl⟩
  | furtherStep between separates _ _ next others =>
      refine ((next.followed others).opened _).imp ?_
      rintro _ _ ⟨_, rfl, _, ⟨next, step⟩, others, list⟩
      exact ⟨.furtherStep between separates next others,
        congrArg (between ++ ·) (congr (congrArg List.cons step) list)⟩
  | self isDot => exact .of_taken [_] fun _ => ⟨.self isDot, rfl⟩
  | parent isDouble => exact .of_taken [_] fun _ => ⟨.parent isDouble, rfl⟩
  | onAttributes isAt _ _ test predicates =>
      refine ((test.followed predicates).opened _).imp ?_
      rintro _ _ ⟨_, rfl, _, ⟨test, same⟩, predicates, list⟩
      exact ⟨.onAttributes isAt test predicates,
        congr (congrArg (Step.mk "attribute") same) list⟩
  | onAxis name isName known isDouble _ _ test predicates =>
      refine (((test.followed predicates).opened _).opened _).imp ?_
      rintro _ _ ⟨_, rfl, _, rfl, _, ⟨test, same⟩, predicates, list⟩
      exact ⟨.onAxis name isName known isDouble test predicates,
        congr (congrArg (Step.mk name.text) same) list⟩
  | @onChildren tokens _ rest test predicates further others =>
      have flexible := further.followed others
      have flexibleStep : Flexible [axis, colons] (test.childSteps ++ predicates.childSteps)
          (wider.Derives .step · (Step.mk "child" test.tree predicates.tree) ·) tokens rest := by
        refine flexible.imp ?_
        rintro _ _ ⟨_, ⟨test, same⟩, predicates, list⟩
        exact ⟨.onChildren test predicates, congr (congrArg (Step.mk "child") same) list⟩
      refine ⟨flexibleStep.follows, List.forall_mem_cons.mpr ⟨?_, flexibleStep.grows⟩⟩
      obtain ⟨_, ⟨test, same⟩, predicates, list⟩ := flexible.follows.self
      refine ⟨[], rfl, test.startsStep_test, .onAxis axis child.1 ?_ isDouble test predicates, ?_⟩
      · rw [child.2]
        decide
      · exact congr (congr (congrArg Step.mk child.2) same) list
  | noPredicate => exact .of_taken [] fun _ => ⟨.noPredicate, rfl⟩
  | predicate opens _ closes _ inside others =>
      refine ((inside.followed (others.opened _)).opened _).imp ?_
      rintro _ _ ⟨_, rfl, _, ⟨inside, same⟩, _, rfl, others, list⟩
      exact ⟨.predicate opens inside closes others, congr (congrArg List.cons same) list⟩
  | anyName isAsterisk => exact .of_taken [_] fun _ => ⟨.anyName isAsterisk, rfl⟩
  | plainName name isName => exact .of_taken [_] fun _ => ⟨.plainName name isName, rfl⟩
  | qualified name part isName continues =>
      exact .of_taken [_, _, _] fun _ => ⟨.qualified name part isName continues, rfl⟩
  | nodeType name isName known opens closes =>
      exact .of_taken [_, _, _] fun _ => ⟨.nodeType name isName known opens closes, rfl⟩
  | target literal isName known opens isString closes =>
      exact .of_taken [_, _, _, _] fun _ =>
        ⟨.target literal isName known opens isString closes, rfl⟩
  | number numeral isNumber => exact .of_taken [_] fun _ => ⟨.number numeral isNumber, rfl⟩
  | string literal isString => exact .of_taken [_] fun _ => ⟨.string literal isString, rfl⟩
  | reference dollar isVariable =>
      exact .of_taken [_] fun _ => ⟨.reference dollar isVariable, rfl⟩
  | enclosed opens _ closes inside =>
      refine (inside.closed.opened _).imp ?_
      rintro _ _ ⟨_, rfl, _, ⟨inside, same⟩, rfl⟩
      exact ⟨.enclosed opens inside closes, same⟩
  | call name isName noType opens _ closes accepted arguments =>
      refine ((arguments.closed.opened _).opened _).imp ?_
      rintro _ _ ⟨_, rfl, _, rfl, _, ⟨arguments, same⟩, rfl⟩
      exact ⟨.call name isName noType opens arguments closes (admits _ _ accepted),
        congrArg (Expr.call name.text) same⟩
  | qualifiedCall name part isName noType isColon isPart opens _ closes accepted arguments =>
      refine ((((arguments.closed.opened _).opened _).opened _).opened _).imp ?_
      rintro _ _ ⟨_, rfl, _, rfl, _, rfl, _, rfl, _, ⟨arguments, same⟩, rfl⟩
      exact ⟨.qualifiedCall name part isName noType isColon isPart opens arguments closes
        (admits _ _ accepted), congrArg (Expr.call (name.text ++ ":" ++ part.text)) same⟩
  | noArgument => exact .of_taken [] fun _ => ⟨.noArgument, rfl⟩
  | someArguments _ _ first others =>
      refine (first.followed others).imp ?_
      rintro _ _ ⟨_, ⟨first, same⟩, others, list⟩
      exact ⟨.someArguments first others, congr (congrArg List.cons same) list⟩
  | noFurtherArgument => exact .of_taken [] fun _ => ⟨.noFurtherArgument, rfl⟩
  | furtherArgument isComma _ _ next others =>
      refine ((next.followed others).opened _).imp ?_
      rintro _ _ ⟨_, rfl, _, ⟨next, same⟩, others, list⟩
      exact ⟨.furtherArgument isComma next others, congr (congrArg List.cons same) list⟩

/-- What is derived can be followed by other tokens. -/
theorem Derivation.follows {grammar wider : Grammar} (admits : wider.Admits grammar) {part : Part}
    {tokens rest : List Token} (derivation : grammar.Derivation part tokens rest)
    : Follows (wider.Derives part · derivation.tree ·) tokens rest := by
  let axis : Token := ⟨0, "child", .name⟩
  let colons : Token := ⟨5, "::", .doubleColon⟩
  have child : axis.kind = .name ∧ axis.text = "child" := ⟨rfl, rfl⟩
  have isDouble : colons.kind = .doubleColon := rfl
  exact (derivation.flexible admits child isDouble).follows

/-- What can be derived in a grammar can be derived in one that admits more. -/
theorem Derivation.admitted {grammar wider : Grammar} (admits : wider.Admits grammar) {part : Part}
    {tokens rest : List Token} (derivation : grammar.Derivation part tokens rest)
    : wider.Derives part tokens derivation.tree rest :=
  (derivation.follows admits).self

end PathQuery.Grammar
