import PathQuery.Proofs.Grammar.Layers
import PathQuery.Proofs.Grammar.Structure
import PathQuery.Proofs.Grammar.WellFormed

/-! Blanks between tokens do not matter to what is read, except at the colon of a qualified name.
Two texts with the same tokens in different places are read side by side, and end with the same
tree, the same refused call or syntax errors at the same token.
-/

namespace PathQuery

/-- Two tokens have the same kind and the same text. -/
structure Token.Like (token other : Token) : Prop where
  kind : token.kind = other.kind
  text : token.text = other.text

/-- A name, a colon and what follows it stand without gaps. -/
def Token.Contiguous (name colon part : Token) : Prop :=
  colon.position = name.position + name.text.length ∧ part.position = colon.position + 1

/-- Some tokens are the same as others up to their positions, and wherever a colon stands between
names or a name and an asterisk, these are contiguous in both or in none.
-/
structure Respaced (tokens others : List Token) : Prop where
  like : List.Forall₂ Token.Like tokens others
  contiguous : ∀ place name colon part rest name' colon' part' rest',
    tokens.drop place = name :: colon :: part :: rest →
    others.drop place = name' :: colon' :: part' :: rest' →
    name.kind = .name → colon.kind = .colon → part.kind = .name ∨ part.kind = .asterisk →
      (name.Contiguous colon part ↔ name'.Contiguous colon' part')

/-- The position of the token of a text in some place, the end of the text if there is none. -/
def Token.positionAt (source : String) (tokens : List Token) (place : Nat) : Nat :=
  (tokens[place]?.map Token.position).getD source.length

/-- Two readings end alike: with values that are the same, with the same refused call, or with
syntax errors at tokens in the same place, where the ends of the texts are places too.
-/
inductive ReadAlike {α : Type} (Same : α → α → Prop) (positionAt positionAt' : Nat → Nat)
    : Except ParseFault α → Except ParseFault α → Prop
  | value {value value' : α} (same : Same value value')
    : ReadAlike Same positionAt positionAt' (.ok value) (.ok value')
  | refused (fault : CallFault)
    : ReadAlike Same positionAt positionAt' (.error (.call fault)) (.error (.call fault))
  | malformed (place : Nat) (problem problem' : Problem)
    : ReadAlike Same positionAt positionAt' (.error (.malformed ⟨positionAt place, problem⟩))
        (.error (.malformed ⟨positionAt' place, problem'⟩))

namespace Grammar

/-- Two grammars with the same functions, and tokens to be read with the one and the other. -/
structure Respacing where
  first : Grammar
  second : Grammar
  tokens : List Token
  others : List Token
  arityOf_eq : first.arityOf = second.arityOf
  respaced : Respaced tokens others

namespace Respacing

variable {spacing : Respacing} {tokens tokens' : List Token}

-----------------------------------------------------------------------------------------
-- Side by side
-----------------------------------------------------------------------------------------

/-- As many tokens are left on the one side as on the other. -/
def Aligned (spacing : Respacing) (tokens tokens' : List Token) : Prop :=
  ∃ place, tokens = spacing.tokens.drop place ∧ tokens' = spacing.others.drop place

/-- Two readings end alike: with the same value and aligned tokens, with the same refused call, or
with syntax errors at aligned tokens.
-/
inductive Parallel (spacing : Respacing) {α : Type} {bound bound' : Nat}
    : Reading α bound → Reading α bound' → Prop
  | taken {value : α} {rest rest' : List Token} {fewer : rest.length < bound}
      {fewer' : rest'.length < bound'} (aligned : spacing.Aligned rest rest')
      : Parallel spacing (.ok ⟨value, rest, fewer⟩) (.ok ⟨value, rest', fewer'⟩)
  | refused (fault : CallFault)
      : Parallel spacing (.error (.call fault)) (.error (.call fault))
  | malformed {tokens tokens' : List Token} {problem problem' : Problem}
      (aligned : spacing.Aligned tokens tokens')
      : Parallel spacing (.error (.malformed ⟨spacing.first.positionOf tokens, problem⟩))
          (.error (.malformed ⟨spacing.second.positionOf tokens', problem'⟩))

theorem aligned_nil : spacing.Aligned [] [] := by
  refine ⟨spacing.tokens.length, List.drop_length.symm, ?_⟩
  rw [spacing.respaced.like.length_eq, List.drop_length]

/-- Aligned tokens are none on both sides, or begin with tokens that are alike. -/
theorem Aligned.cases (aligned : spacing.Aligned tokens tokens')
    : tokens = [] ∧ tokens' = []
      ∨ ∃ token token' rest rest', tokens = token :: rest ∧ tokens' = token' :: rest'
        ∧ token.Like token' ∧ spacing.Aligned rest rest' := by
  obtain ⟨place, here, there⟩ := aligned
  have like := List.forall₂_drop place spacing.respaced.like
  rw [← here, ← there] at like
  cases like with
  | nil => exact .inl ⟨rfl, rfl⟩
  | @cons token token' rest rest' same _ =>
      refine .inr ⟨token, token', rest, rest', rfl, rfl, same, place + 1, ?_, ?_⟩
      · rw [← List.drop_drop, ← here, List.drop_one, List.tail_cons]
      · rw [← List.drop_drop, ← there, List.drop_one, List.tail_cons]

theorem Aligned.eq_nil (aligned : spacing.Aligned [] tokens') : tokens' = [] := by
  obtain ⟨-, none⟩ | ⟨_, _, _, _, ⟨⟩, -⟩ := aligned.cases
  exact none

theorem Aligned.exists_cons {token : Token} {rest : List Token}
    (aligned : spacing.Aligned (token :: rest) tokens')
    : ∃ token' rest', tokens' = token' :: rest' ∧ token.Like token'
      ∧ spacing.Aligned rest rest' := by
  obtain ⟨⟨⟩, -⟩ | ⟨_, token', _, rest', ⟨⟩, same, like, next⟩ := aligned.cases
  exact ⟨token', rest', same, like, next⟩

theorem Aligned.isEmpty_eq (aligned : spacing.Aligned tokens tokens')
    : tokens'.isEmpty = tokens.isEmpty := by
  obtain ⟨rfl, rfl⟩ | ⟨_, _, _, _, rfl, rfl, -, -⟩ := aligned.cases <;> rfl

/-- A name is continued on the one side where it is on the other. -/
theorem Aligned.continuesName_iff {name name' colon colon' part part' : Token}
    {rest rest' : List Token}
    (aligned : spacing.Aligned (name :: colon :: part :: rest) (name' :: colon' :: part' :: rest'))
    (isName : name.kind = .name)
    : continuesName name colon part ↔ continuesName name' colon' part' := by
  obtain ⟨_, _, ⟨⟩, -, next⟩ := aligned.exists_cons
  obtain ⟨_, _, ⟨⟩, likeColon, next⟩ := next.exists_cons
  obtain ⟨_, _, ⟨⟩, likePart, -⟩ := next.exists_cons
  obtain ⟨place, here, there⟩ := aligned
  have same := spacing.respaced.contiguous place _ _ _ _ _ _ _ _ here.symm there.symm isName
  simp only [continuesName, Bool.and_eq_true, Bool.or_eq_true, decide_eq_true_eq, beq_iff_eq,
    ← likeColon.kind, ← likePart.kind]
  rw [Token.Contiguous, Token.Contiguous] at same
  grind

/-- What follows a reading is parallel if it is so after the same value and aligned tokens. -/
theorem Parallel.bind {α β : Type} {bound bound' larger larger' : Nat} {first : Reading α bound}
    {second : Reading α bound'} {next : Taken α bound → Reading β larger}
    {next' : Taken α bound' → Reading β larger'} (parallel : spacing.Parallel first second)
    (follows : ∀ value rest rest' fewer fewer', spacing.Aligned rest rest' →
      spacing.Parallel (next ⟨value, rest, fewer⟩) (next' ⟨value, rest', fewer'⟩))
    : spacing.Parallel (first >>= next) (second >>= next') := by
  cases parallel with
  | taken aligned => exact follows _ _ _ _ _ aligned
  | refused fault => exact .refused fault
  | malformed aligned => exact .malformed aligned

theorem parallel_closing (opener opener' : Token) (kind : TokenKind) (closer : String)
    (aligned : spacing.Aligned tokens tokens')
    : spacing.Parallel (spacing.first.closing opener kind closer tokens)
        (spacing.second.closing opener' kind closer tokens') := by
  obtain ⟨rfl, rfl⟩ | ⟨token, token', rest, rest', rfl, rfl, like, next⟩ := aligned.cases
  · exact .malformed aligned
  · rw [closing, closing, ← like.kind]
    split
    · exact .taken next
    · exact .malformed aligned

/-- Two readers for inner expressions end alike on aligned tokens. -/
def ParallelInside (spacing : Respacing) {bound bound' : Nat} (inner : InnerReader bound)
    (inner' : InnerReader bound') : Prop :=
  ∀ tokens tokens' h h', spacing.Aligned tokens tokens' →
    spacing.Parallel (inner tokens h) (inner' tokens' h')

variable {bound bound' : Nat} {inner : InnerReader bound} {inner' : InnerReader bound'}

-----------------------------------------------------------------------------------------
-- Steps
-----------------------------------------------------------------------------------------

theorem parallel_predicates (inside : spacing.ParallelInside inner inner')
    {tokens tokens' : List Token} {h : tokens.length ≤ bound} {h' : tokens'.length ≤ bound'}
    (aligned : spacing.Aligned tokens tokens')
    : spacing.Parallel (spacing.first.predicates inner tokens h)
        (spacing.second.predicates inner' tokens' h') := by
  fun_induction spacing.first.predicates inner tokens h generalizing tokens' with
  | case1 =>
      obtain rfl := aligned.eq_nil
      rw [predicates]
      exact .taken aligned
  | case2 token rest h noPredicate =>
      obtain ⟨_, _, rfl, like, -⟩ := aligned.exists_cons
      rw [predicates.eq_def]
      simp only [← like.kind, if_pos noPredicate]
      exact .taken aligned
  | case3 opener opens =>
      obtain ⟨_, _, rfl, like, next⟩ := aligned.exists_cons
      obtain rfl := next.eq_nil
      rw [predicates.eq_def]
      simp only [← like.kind, if_neg opens]
      exact .malformed next
  | case4 opener opens next more h ends =>
      obtain ⟨_, _, rfl, like, next⟩ := aligned.exists_cons
      obtain ⟨_, _, rfl, also, -⟩ := next.exists_cons
      rw [predicates.eq_def]
      simp only [← like.kind, if_neg opens, ← also.kind, if_pos ends]
      exact .malformed next
  | case5 opener opens next more h noEnd _ ih =>
      obtain ⟨_, _, rfl, like, next⟩ := aligned.exists_cons
      obtain ⟨_, _, rfl, also, -⟩ := next.exists_cons
      rw [predicates.eq_def]
      simp only [← like.kind, if_neg opens, ← also.kind, if_neg noEnd]
      refine (inside _ _ _ _ next).bind fun predicate left _ fewer _ aligned => ?_
      refine (parallel_closing _ _ _ _ aligned).bind fun _ rest _ fewerStill _ aligned => ?_
      exact (ih ⟨predicate, left, fewer⟩ ⟨(), rest, fewerStill⟩ aligned).bind
        fun _ _ _ _ _ aligned => .taken aligned

theorem parallel_nodeType {name name' opener opener' : Token} (like : name.Like name')
    (aligned : spacing.Aligned tokens tokens')
    : spacing.Parallel (spacing.first.nodeType name opener tokens)
        (spacing.second.nodeType name' opener' tokens') := by
  obtain ⟨rfl, rfl⟩ | ⟨token, token', rest, rest', rfl, rfl, also, next⟩ := aligned.cases
  · exact .malformed aligned_nil
  · rw [nodeType, nodeType, ← like.text, ← also.kind, ← also.text]
    split
    · exact (parallel_closing _ _ _ _ next).bind fun _ _ _ _ _ aligned => .taken aligned
    · exact (parallel_closing _ _ _ _ aligned).bind fun _ _ _ _ _ aligned => .taken aligned

theorem parallel_namedTest {name name' : Token} (isName : name.kind = .name)
    (aligned : spacing.Aligned (name :: tokens) (name' :: tokens'))
    : spacing.Parallel (spacing.first.namedTest name tokens)
        (spacing.second.namedTest name' tokens') := by
  obtain ⟨_, _, ⟨⟩, like, next⟩ := aligned.exists_cons
  obtain ⟨rfl, rfl⟩ | ⟨token, token', rest, rest', rfl, rfl, also, more⟩ := next.cases
  · rw [namedTest, namedTest, like.text]
    exact .taken aligned_nil
  · rw [namedTest.eq_def, namedTest.eq_def]
    simp only [← like.text, ← also.kind]
    split
    · exact (parallel_nodeType like more).bind fun _ _ _ _ _ aligned => .taken aligned
    · obtain ⟨rfl, rfl⟩ | ⟨part, part', rest, rest', rfl, rfl, likePart, rest⟩ := more.cases
      · exact .taken next
      · simp only [← likePart.kind, ← likePart.text, ← aligned.continuesName_iff isName]
        split
        · exact .taken rest
        · exact .taken next

theorem parallel_nodeTest (aligned : spacing.Aligned tokens tokens')
    : spacing.Parallel (spacing.first.nodeTest tokens) (spacing.second.nodeTest tokens') := by
  obtain ⟨rfl, rfl⟩ | ⟨token, token', rest, rest', rfl, rfl, like, next⟩ := aligned.cases
  · exact .malformed aligned_nil
  · rw [nodeTest, nodeTest, ← like.kind]
    split
    · exact .taken next
    split
    case isTrue isName => exact parallel_namedTest isName aligned
    case isFalse => exact .malformed aligned

theorem parallel_stepOn (inside : spacing.ParallelInside inner inner') (axis : String)
    {h : tokens.length ≤ bound} {h' : tokens'.length ≤ bound'}
    (aligned : spacing.Aligned tokens tokens')
    : spacing.Parallel (spacing.first.stepOn inner axis tokens h)
        (spacing.second.stepOn inner' axis tokens' h') := by
  refine (parallel_nodeTest aligned).bind fun _ _ _ _ _ aligned => ?_
  exact (parallel_predicates inside aligned).bind fun _ _ _ _ _ aligned => .taken aligned

theorem parallel_step (inside : spacing.ParallelInside inner inner')
    {h : tokens.length ≤ bound} {h' : tokens'.length ≤ bound'}
    (aligned : spacing.Aligned tokens tokens')
    : spacing.Parallel (spacing.first.step inner tokens h)
        (spacing.second.step inner' tokens' h') := by
  obtain ⟨rfl, rfl⟩ | ⟨token, token', rest, rest', rfl, rfl, like, next⟩ := aligned.cases
  · exact .malformed aligned_nil
  rw [step.eq_def, step.eq_def]
  simp only [← like.kind]
  split
  · exact .taken next
  split
  · exact .taken next
  split
  · exact (parallel_stepOn inside "attribute" next).bind fun _ _ _ _ _ aligned => .taken aligned
  obtain ⟨rfl, rfl⟩ | ⟨colons, colons', rest, rest', rfl, rfl, also, more⟩ := next.cases
  · exact parallel_stepOn inside "child" aligned
  simp only [← also.kind, ← like.text]
  split
  · split
    · exact (parallel_stepOn inside token.text more).bind fun _ _ _ _ _ aligned => .taken aligned
    · exact .malformed aligned
  · exact parallel_stepOn inside "child" aligned

-----------------------------------------------------------------------------------------
-- Paths
-----------------------------------------------------------------------------------------

theorem separatorSteps?_eq {token token' : Token} (like : token.Like token')
    : separatorSteps? token' = separatorSteps? token := by
  rw [separatorSteps?, separatorSteps?, like.kind]

theorem parallel_furtherSteps (inside : spacing.ParallelInside inner inner')
    {tokens tokens' : List Token} {h : tokens.length ≤ bound} {h' : tokens'.length ≤ bound'}
    (aligned : spacing.Aligned tokens tokens')
    : spacing.Parallel (spacing.first.furtherSteps inner tokens h)
        (spacing.second.furtherSteps inner' tokens' h') := by
  fun_induction spacing.first.furtherSteps inner tokens h generalizing tokens' with
  | case1 =>
      obtain rfl := aligned.eq_nil
      rw [furtherSteps]
      exact .taken aligned
  | case2 token rest h noStep =>
      obtain ⟨_, _, rfl, like, -⟩ := aligned.exists_cons
      rw [furtherSteps.eq_def]
      simp only [separatorSteps?_eq like, noStep]
      exact .taken aligned
  | case3 separator rest h between separates _ ih =>
      obtain ⟨_, _, rfl, like, next⟩ := aligned.exists_cons
      rw [furtherSteps.eq_def]
      simp only [separatorSteps?_eq like, separates]
      refine (parallel_step inside next).bind fun step left _ fewer _ aligned => ?_
      exact (ih ⟨step, left, fewer⟩ aligned).bind fun _ _ _ _ _ aligned => .taken aligned

theorem parallel_steps (inside : spacing.ParallelInside inner inner')
    {h : tokens.length ≤ bound} {h' : tokens'.length ≤ bound'}
    (aligned : spacing.Aligned tokens tokens')
    : spacing.Parallel (spacing.first.steps inner tokens h)
        (spacing.second.steps inner' tokens' h') := by
  refine (parallel_step inside aligned).bind fun _ _ _ _ _ aligned => ?_
  exact (parallel_furtherSteps inside aligned).bind fun _ _ _ _ _ aligned => .taken aligned

theorem startsStep_eq {token token' : Token} (like : token.Like token')
    : startsStep token' = startsStep token := by
  rw [startsStep, startsStep, like.kind]

theorem parallel_locationPath (inside : spacing.ParallelInside inner inner')
    {h : tokens.length ≤ bound} {h' : tokens'.length ≤ bound'}
    (aligned : spacing.Aligned tokens tokens')
    : spacing.Parallel (spacing.first.locationPath inner tokens h)
        (spacing.second.locationPath inner' tokens' h') := by
  obtain ⟨rfl, rfl⟩ | ⟨token, token', rest, rest', rfl, rfl, like, next⟩ := aligned.cases
  · exact (parallel_steps inside aligned).bind fun _ _ _ _ _ aligned => .taken aligned
  have starts : rest'.head?.map startsStep = rest.head?.map startsStep := by
    obtain ⟨rfl, rfl⟩ | ⟨_, _, _, _, rfl, rfl, also, -⟩ := next.cases
    · rfl
    · simp [startsStep_eq also]
  rw [locationPath, locationPath]
  simp only [← like.kind, starts]
  split
  · split
    · exact (parallel_steps inside next).bind fun _ _ _ _ _ aligned => .taken aligned
    · exact .taken next
  split
  · exact (parallel_steps inside next).bind fun _ _ _ _ _ aligned => .taken aligned
  · exact (parallel_steps inside aligned).bind fun _ _ _ _ _ aligned => .taken aligned

-----------------------------------------------------------------------------------------
-- Primary expressions
-----------------------------------------------------------------------------------------

theorem parallel_furtherArguments (inside : spacing.ParallelInside inner inner')
    {tokens tokens' : List Token} {h : tokens.length < bound} {h' : tokens'.length < bound'}
    (aligned : spacing.Aligned tokens tokens')
    : spacing.Parallel (furtherArguments inner tokens h) (furtherArguments inner' tokens' h') := by
  fun_induction furtherArguments inner tokens h generalizing tokens' with
  | case1 =>
      obtain rfl := aligned.eq_nil
      rw [furtherArguments]
      exact .taken aligned
  | case2 token rest h noComma =>
      obtain ⟨_, _, rfl, like, -⟩ := aligned.exists_cons
      rw [furtherArguments.eq_def]
      simp only [← like.kind, if_pos noComma]
      exact .taken aligned
  | case3 comma rest h isComma _ ih =>
      obtain ⟨_, _, rfl, like, next⟩ := aligned.exists_cons
      rw [furtherArguments.eq_def]
      simp only [← like.kind, if_neg isComma]
      refine (inside _ _ _ _ next).bind fun argument left _ fewer _ aligned => ?_
      exact (ih ⟨argument, left, fewer⟩ aligned).bind fun _ _ _ _ _ aligned => .taken aligned

theorem parallel_callArguments (inside : spacing.ParallelInside inner inner') (name : String)
    (opener opener' : Token) {h : tokens.length < bound} {h' : tokens'.length < bound'}
    (aligned : spacing.Aligned tokens tokens')
    : spacing.Parallel (spacing.first.callArguments inner name opener tokens h)
        (spacing.second.callArguments inner' name opener' tokens' h') := by
  refine Parallel.bind ?_ fun list left _ _ _ aligned => ?_
  · obtain ⟨rfl, rfl⟩ | ⟨token, token', rest, rest', rfl, rfl, like, next⟩ := aligned.cases
    · exact .malformed aligned_nil
    simp only [← like.kind]
    split
    · exact .taken aligned
    · refine (inside _ _ _ _ aligned).bind fun _ _ _ _ _ aligned => ?_
      exact (parallel_furtherArguments inside aligned).bind fun _ _ _ _ _ aligned => .taken aligned
  · refine (parallel_closing _ _ _ _ aligned).bind fun _ _ _ _ _ aligned => ?_
    simp only [← spacing.arityOf_eq]
    split
    · exact .refused _
    · exact .taken aligned

/-- The heads of two calls have the same name and are followed by aligned tokens. -/
def SameHead (spacing : Respacing) (head head' : String × Token × List Token) : Prop :=
  head.1 = head'.1 ∧ spacing.Aligned head.2.2 head'.2.2

theorem sameHead_callHead? (aligned : spacing.Aligned tokens tokens')
    : Option.Rel spacing.SameHead (callHead? tokens) (callHead? tokens') := by
  obtain ⟨rfl, rfl⟩ | ⟨name, name', rest, rest', rfl, rfl, like, next⟩ := aligned.cases
  · exact .none
  obtain ⟨rfl, rfl⟩ | ⟨token, token', rest, rest', rfl, rfl, also, more⟩ := next.cases
  · exact .none
  rw [callHead?.eq_def, callHead?.eq_def]
  simp only [← like.kind, ← like.text, ← also.kind]
  split
  · exact .none
  split
  · exact .some ⟨rfl, more⟩
  by_cases isColon : token.kind = .colon
  · simp only [isColon]
    obtain ⟨rfl, rfl⟩ | ⟨part, part', rest, rest', rfl, rfl, likePart, last⟩ := more.cases
    · exact .none
    obtain ⟨rfl, rfl⟩ | ⟨opener, opener', rest, rest', rfl, rfl, likeOpener, last⟩ := last.cases
    · exact .none
    simp only [← likePart.kind, ← likePart.text, ← likeOpener.kind]
    split
    · exact .some ⟨rfl, last⟩
    · exact .none
  · split
    case h_1 same => exact absurd same isColon
    case h_2 =>
      split
      case h_1 same => exact absurd same isColon
      case h_2 => exact .none

theorem parallel_primary (inside : spacing.ParallelInside inner inner')
    {h : tokens.length ≤ bound} {h' : tokens'.length ≤ bound'}
    (aligned : spacing.Aligned tokens tokens')
    : Option.Rel spacing.Parallel (spacing.first.primary? inner tokens h)
        (spacing.second.primary? inner' tokens' h') := by
  have heads := sameHead_callHead? aligned
  obtain ⟨rfl, rfl⟩ | ⟨token, token', rest, rest', rfl, rfl, like, next⟩ := aligned.cases
  · exact .none
  rw [primary?.eq_def, primary?.eq_def]
  simp only [← like.kind, ← like.text]
  split
  case h_1 | h_2 | h_3 => exact .some (.taken next)
  case h_4 =>
    refine .some ?_
    obtain ⟨rfl, rfl⟩ | ⟨_, _, _, _, rfl, rfl, -, -⟩ := next.cases
    · exact .malformed aligned_nil
    · refine (inside _ _ _ _ next).bind fun _ _ _ _ _ aligned => ?_
      exact (parallel_closing _ _ _ _ aligned).bind fun _ _ _ _ _ aligned => .taken aligned
  case h_5 =>
    split
    case h_1 noCall =>
      rw [noCall] at heads
      split
      case h_1 => exact .none
      case h_2 head =>
        rw [head] at heads
        cases heads
    case h_2 name opener arguments head =>
      rw [head] at heads
      split
      case h_1 noCall =>
        rw [noCall] at heads
        cases heads
      case h_2 name' opener' arguments' head' =>
        rw [head'] at heads
        obtain ⟨⟨rfl, aligned⟩⟩ := heads
        refine .some ?_
        exact (parallel_callArguments inside name opener opener' aligned).bind
          fun _ _ _ _ _ aligned => .taken aligned

theorem parallel_pathExpression (inside : spacing.ParallelInside inner inner')
    {h : tokens.length ≤ bound} {h' : tokens'.length ≤ bound'}
    (aligned : spacing.Aligned tokens tokens')
    : spacing.Parallel (spacing.first.pathExpression inner tokens h)
        (spacing.second.pathExpression inner' tokens' h') := by
  have starts : Option.Rel spacing.Parallel (spacing.first.primary? inner tokens h)
      (spacing.second.primary? inner' tokens' h') :=
    parallel_primary inside aligned
  rw [pathExpression, pathExpression]
  simp only [aligned.isEmpty_eq]
  split
  · exact .malformed aligned_nil
  split
  case h_1 noPrimary =>
    rw [noPrimary] at starts
    split
    case h_1 => exact parallel_locationPath inside aligned
    case h_2 primary =>
      rw [primary] at starts
      cases starts
  case h_2 primary =>
    rw [primary] at starts
    split
    case h_1 noPrimary =>
      rw [noPrimary] at starts
      cases starts
    case h_2 primary' =>
      rw [primary'] at starts
      obtain ⟨parallel⟩ := starts
      refine parallel.bind fun _ _ _ _ _ aligned => ?_
      refine (parallel_predicates inside aligned).bind fun _ _ _ _ _ aligned => ?_
      exact (parallel_furtherSteps inside aligned).bind fun _ _ _ _ _ aligned => .taken aligned

-----------------------------------------------------------------------------------------
-- Operators
-----------------------------------------------------------------------------------------

/-- Two readers end alike on aligned tokens. -/
def ParallelReaders (spacing : Respacing) {bound bound' : Nat} (reader : Reader Expr bound)
    (reader' : Reader Expr bound') : Prop :=
  ∀ tokens tokens' h h', spacing.Aligned tokens tokens' →
    spacing.Parallel (reader tokens h) (reader' tokens' h')

theorem read?_eq {token token' : Token} (like : token.Like token') (level : Level)
    : level.read? token' = level.read? token := by
  simp only [Level.read?_eq, Level.operation?, Token.Is, like.kind, like.text]

theorem parallel_operations {level : Level} {operand : Reader Expr bound}
    {operand' : Reader Expr bound'} (operands : spacing.ParallelReaders operand operand')
    {left : Expr} {tokens tokens' : List Token} {h : tokens.length ≤ bound}
    {h' : tokens'.length ≤ bound'} (aligned : spacing.Aligned tokens tokens')
    : spacing.Parallel (operations level.read? operand left tokens h)
        (operations level.read? operand' left tokens' h') := by
  fun_induction operations level.read? operand left tokens h generalizing tokens' with
  | case1 =>
      obtain rfl := aligned.eq_nil
      rw [operations]
      exact .taken aligned
  | case2 left token rest h noOperator =>
      obtain ⟨_, _, rfl, like, -⟩ := aligned.exists_cons
      rw [operations.eq_def]
      simp only [read?_eq like, noOperator]
      exact .taken aligned
  | case3 left token rest h combine operator _ ih =>
      obtain ⟨_, _, rfl, like, next⟩ := aligned.exists_cons
      rw [operations.eq_def]
      simp only [read?_eq like, operator]
      refine (operands _ _ _ _ next).bind fun right rest _ fewer _ aligned => ?_
      exact (ih ⟨right, rest, fewer⟩ aligned).bind fun _ _ _ _ _ aligned => .taken aligned

theorem parallelReaders_level {level : Level} {operand : Reader Expr bound}
    {operand' : Reader Expr bound'} (operands : spacing.ParallelReaders operand operand')
    : spacing.ParallelReaders (Grammar.level level.read? operand)
        (Grammar.level level.read? operand') := by
  intro tokens tokens' h h' aligned
  refine (operands _ _ _ _ aligned).bind fun _ _ _ _ _ aligned => ?_
  exact (parallel_operations operands aligned).bind fun _ _ _ _ _ aligned => .taken aligned

theorem parallelReaders_negation {operand : Reader Expr bound} {operand' : Reader Expr bound'}
    (operands : spacing.ParallelReaders operand operand')
    : spacing.ParallelReaders (negation operand) (negation operand') := by
  intro tokens tokens' h h' aligned
  induction tokens generalizing tokens' with
  | nil =>
      obtain rfl := aligned.eq_nil
      exact operands _ _ _ _ aligned
  | cons token rest ih =>
      obtain ⟨_, _, rfl, like, next⟩ := aligned.exists_cons
      rw [negation, negation, ← like.kind, ← like.text]
      split
      · exact (ih _ _ _ next).bind fun _ _ _ _ _ aligned => .taken aligned
      · exact operands _ _ _ _ aligned

theorem parallelReaders_layer (inside : spacing.ParallelInside inner inner') (layer : Layer)
    : spacing.ParallelReaders (spacing.first.layer inner layer)
        (spacing.second.layer inner' layer) := by
  fun_induction spacing.first.layer inner layer with
  | case1 =>
      rw [Grammar.layer]
      exact fun _ _ _ _ aligned => parallel_pathExpression inside aligned
  | case2 ih =>
      rw [Grammar.layer]
      exact parallelReaders_negation ih
  | case3 level ih =>
      rw [Grammar.layer]
      exact parallelReaders_level ih

theorem parallel_expression {tokens tokens' : List Token} (aligned : spacing.Aligned tokens tokens')
    : spacing.Parallel (spacing.first.expression tokens) (spacing.second.expression tokens') := by
  fun_induction spacing.first.expression tokens generalizing tokens' with
  | case1 tokens ih =>
      rw [expression.eq_def, operators_eq, operators_eq]
      apply parallelReaders_layer _ _ _ _ _ _ aligned
      exact fun inside _ h _ aligned => ih inside h aligned

/-- Trees that are equal are read from all tokens, or errors are met in the same place. -/
abbrev Agree (spacing : Respacing) : Except ParseFault Expr → Except ParseFault Expr → Prop :=
  ReadAlike (· = ·) (fun place => spacing.first.positionOf (spacing.tokens.drop place))
    (fun place => spacing.second.positionOf (spacing.others.drop place))

theorem Aligned.agree (aligned : spacing.Aligned tokens tokens') (problem problem' : Problem)
    : spacing.Agree (.error (.malformed ⟨spacing.first.positionOf tokens, problem⟩))
        (.error (.malformed ⟨spacing.second.positionOf tokens', problem'⟩)) := by
  obtain ⟨place, rfl, rfl⟩ := aligned
  exact .malformed place problem problem'

theorem agree_whole (spacing : Respacing)
    : spacing.Agree (spacing.first.whole spacing.tokens) (spacing.second.whole spacing.others) := by
  have all : spacing.Aligned spacing.tokens spacing.others := ⟨0, rfl, rfl⟩
  have parallel := parallel_expression all
  rw [whole, whole, all.isEmpty_eq]
  split
  · exact aligned_nil.agree _ _
  generalize spacing.first.expression spacing.tokens = reading at parallel
  generalize spacing.second.expression spacing.others = reading' at parallel
  cases parallel with
  | taken aligned =>
      simp only [bind, Except.bind, aligned.isEmpty_eq]
      split
      · exact .value rfl
      · exact aligned.agree _ _
  | refused fault => exact .refused fault
  | malformed aligned => exact aligned.agree _ _

end Respacing

theorem positionOf_drop (source : String) (arityOf : String → Option Arity) (tokens : List Token)
    : (fun place => (Grammar.mk source.length arityOf).positionOf (tokens.drop place))
      = Token.positionAt source tokens := by
  funext place
  rw [Token.positionAt, ← List.head?_drop]
  cases tokens.drop place <;> rfl

end Grammar

-----------------------------------------------------------------------------------------
-- Expressions
-----------------------------------------------------------------------------------------

/-- Two texts with the same tokens up to spaces between them are read as expressions with the same
structure, or are refused for the same call or for syntax errors at the same token.
-/
theorem Expression.ofText_respaced {source other : String} {tokens others : List Token}
    (split : Token.ofText source = .ok tokens) (splitOther : Token.ofText other = .ok others)
    (respaced : Respaced tokens others) (arityOf : String → Option Arity)
    : ReadAlike (fun first second => first.root = second.root ∧ first.root.same second.root)
        (Token.positionAt source tokens) (Token.positionAt other others)
        (ofText arityOf source) (ofText arityOf other) := by
  have agree := Grammar.Respacing.agree_whole
    { first := ⟨source.length, arityOf⟩, second := ⟨other.length, arityOf⟩, tokens, others,
      arityOf_eq := rfl, respaced }
  simp only [Grammar.Respacing.Agree, Grammar.positionOf_drop] at agree
  rw [ofText_eq_map split, ofText_eq_map splitOther]
  generalize whole : Grammar.whole ⟨source.length, arityOf⟩ tokens = outcome at agree
  generalize Grammar.whole ⟨other.length, arityOf⟩ others = outcome' at agree
  cases agree with
  | value same =>
      obtain rfl := same
      exact .value ⟨rfl, Grammar.same_of_whole whole (Token.haveNumerals_of_ofText split)⟩
  | refused fault => exact .refused fault
  | malformed place problem problem' => exact .malformed place problem problem'

/-- A name stays qualified where a space is put after it. -/
theorem Expression.ofText_respaced_qualified
    : ReadAlike (fun first second => first.root = second.root ∧ first.root.same second.root)
        (Token.positionAt "p:a|"
          [⟨0, "p", .name⟩, ⟨1, ":", .colon⟩, ⟨2, "a", .name⟩, ⟨3, "|", .bar⟩])
        (Token.positionAt " p:a |"
          [⟨1, "p", .name⟩, ⟨2, ":", .colon⟩, ⟨3, "a", .name⟩, ⟨5, "|", .bar⟩])
        (ofText (fun _ => none) "p:a|") (ofText (fun _ => none) " p:a |") := by
  have split : Token.ofText "p:a|"
      = .ok [⟨0, "p", .name⟩, ⟨1, ":", .colon⟩, ⟨2, "a", .name⟩, ⟨3, "|", .bar⟩] := by cbv
  have splitOther : Token.ofText " p:a |"
      = .ok [⟨1, "p", .name⟩, ⟨2, ":", .colon⟩, ⟨3, "a", .name⟩, ⟨5, "|", .bar⟩] := by cbv
  refine ofText_respaced split splitOther ?_ _
  constructor
  case like => repeat' constructor
  case contiguous =>
      intro place _ _ _ _ _ _ _ _ here there _ isColon _
      rcases place with _ | _ | place
      · cases here
        cases there
        simp only [Token.Contiguous]
        decide
      · cases here
        cases isColon
      · have short := congrArg List.length here
        simp only [List.length_drop, List.length_cons, List.length_nil] at short
        omega

end PathQuery
