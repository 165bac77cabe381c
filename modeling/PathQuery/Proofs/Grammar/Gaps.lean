import PathQuery.Proofs.Grammar.Boundaries
import PathQuery.Proofs.Grammar.Spacing

/-! Gaps at the colons of qualified names. Tokens are read beside the same tokens without such gaps:
the outcome is the same, unless a token is left over that no part of an expression goes on with, and
then there is a syntax error before any call could be refused.
-/

namespace PathQuery

/-- Names with colons and what follows these stand without gaps, except before an opening
parenthesis.
-/
def Token.Gapless (tokens : List Token) : Prop :=
  ∀ before name colon part after, tokens = before ++ name :: colon :: part :: after →
    name.kind = .name → colon.kind = .colon →
      name.Contiguous colon part ∨ ∃ opener ∈ after.head?, opener.kind = .openParenthesis

/-- No complete part of an expression goes on with the token. -/
def Token.Blocks (token : Token) : Prop :=
  token.kind ∈ [TokenKind.colon, .openParenthesis]

theorem Token.Blocks.kind_ne {token : Token} (blocks : token.Blocks) {kind : TokenKind}
    (other : kind ∉ [TokenKind.colon, .openParenthesis])
    : token.kind ≠ kind :=
  fun same => other (same ▸ blocks)

namespace Grammar

variable {grammar : Grammar} {tokens tokens' : List Token} {α β : Type} {bound bound' : Nat}

-----------------------------------------------------------------------------------------
-- Side by side
-----------------------------------------------------------------------------------------

/-- Some tokens are others up to their positions, and have no gaps at colons. -/
structure Closed (tokens others : List Token) : Prop where
  like : List.Forall₂ Token.Like tokens others
  gapless : Token.Gapless tokens

/-- Reading is stuck: there is a syntax error, or a token comes next that nothing goes on with. -/
inductive Stuck : Reading α bound → Prop
  | malformed (fault : Malformed) : Stuck (.error (.malformed fault))
  | blocked {value : α} {token : Token} {rest : List Token} {fewer : (token :: rest).length < bound}
      (blocks : token.Blocks)
      : Stuck (.ok ⟨value, token :: rest, fewer⟩)

/-- A second reading ends like a first one without gaps, or is stuck. -/
inductive Tracks : Reading α bound → Reading α bound' → Prop
  | taken {value : α} {rest rest' : List Token} {fewer : rest.length < bound}
      {fewer' : rest'.length < bound'} (closed : Closed rest rest')
      : Tracks (.ok ⟨value, rest, fewer⟩) (.ok ⟨value, rest', fewer'⟩)
  | refused (fault : CallFault)
      : Tracks (.error (.call fault)) (.error (.call fault))
  | stuck {reading : Reading α bound} {reading' : Reading α bound'} (stuck : Stuck reading')
      : Tracks reading reading'

/-- Nothing gets a reading that is stuck any further. -/
theorem Stuck.bind {larger : Nat} {first : Reading α bound} {next : Taken α bound → Reading β larger}
    (stuck : Stuck first)
    (stays : ∀ value token rest fewer, token.Blocks →
      Stuck (next ⟨value, token :: rest, fewer⟩))
    : Stuck (first >>= next) := by
  cases stuck with
  | malformed fault => exact .malformed fault
  | blocked blocks => exact stays _ _ _ _ blocks

theorem Tracks.bind {larger larger' : Nat} {first : Reading α bound} {second : Reading α bound'}
    {next : Taken α bound → Reading β larger} {next' : Taken α bound' → Reading β larger'}
    (tracks : Tracks first second)
    (follows : ∀ value rest rest' fewer fewer', Closed rest rest' →
      Tracks (next ⟨value, rest, fewer⟩) (next' ⟨value, rest', fewer'⟩))
    (stays : ∀ value token rest fewer, token.Blocks →
      Stuck (next' ⟨value, token :: rest, fewer⟩))
    : Tracks (first >>= next) (second >>= next') := by
  cases tracks with
  | taken closed => exact follows _ _ _ _ _ closed
  | refused fault => exact .refused fault
  | stuck stuck => exact .stuck (stuck.bind stays)

/-- Nothing is read after what was read last. -/
theorem Tracks.last {larger larger' : Nat} {first : Reading α bound} {second : Reading α bound'}
    {next : Taken α bound → Reading β larger} {next' : Taken α bound' → Reading β larger'}
    (tracks : Tracks first second) (change : α → β)
    (ends : ∀ value rest fewer, ∃ less, next ⟨value, rest, fewer⟩ = .ok ⟨change value, rest, less⟩)
    (ends' : ∀ value rest fewer,
      ∃ less, next' ⟨value, rest, fewer⟩ = .ok ⟨change value, rest, less⟩)
    : Tracks (first >>= next) (second >>= next') := by
  refine tracks.bind (fun value rest rest' fewer fewer' closed => ?_)
    fun value token rest fewer blocks => ?_
  · obtain ⟨_, same⟩ := ends value rest fewer
    obtain ⟨_, same'⟩ := ends' value rest' fewer'
    rw [same, same']
    exact .taken closed
  · obtain ⟨_, same⟩ := ends' value (token :: rest) fewer
    rw [same]
    exact .blocked blocks

namespace Closed

theorem tail {token token' : Token} (closed : Closed (token :: tokens) (token' :: tokens'))
    : Closed tokens tokens' where
  like := (List.forall₂_cons.mp closed.like).2
  gapless before name colon part after same :=
    closed.gapless (token :: before) name colon part after (by rw [same, List.cons_append])

theorem cases (closed : Closed tokens tokens')
    : tokens = [] ∧ tokens' = []
      ∨ ∃ token token' rest rest', tokens = token :: rest ∧ tokens' = token' :: rest'
        ∧ token.Like token' ∧ Closed rest rest' := by
  cases tokens with
  | nil => exact .inl ⟨rfl, List.forall₂_nil_left_iff.mp closed.like⟩
  | cons token rest =>
      obtain ⟨token', rest', like, -, rfl⟩ := List.forall₂_cons_left_iff.mp closed.like
      exact .inr ⟨token, token', rest, rest', rfl, rfl, like, closed.tail⟩

theorem eq_nil (closed : Closed [] tokens') : tokens' = [] :=
  List.forall₂_nil_left_iff.mp closed.like

theorem exists_cons {token : Token} {rest : List Token} (closed : Closed (token :: rest) tokens')
    : ∃ token' rest', tokens' = token' :: rest' ∧ token.Like token' ∧ Closed rest rest' := by
  obtain ⟨⟨⟩, -⟩ | ⟨_, token', _, rest', ⟨⟩, same, like, next⟩ := closed.cases
  exact ⟨token', rest', same, like, next⟩

theorem isEmpty_eq (closed : Closed tokens tokens') : tokens'.isEmpty = tokens.isEmpty := by
  obtain ⟨rfl, rfl⟩ | ⟨_, _, _, _, rfl, rfl, -, -⟩ := closed.cases <;> rfl

end Closed

-----------------------------------------------------------------------------------------
-- Readers before a colon
-----------------------------------------------------------------------------------------

section
variable {token : Token} {rest : List Token} {inner : InnerReader bound}

theorem stuck_closing {next : Taken Unit (token :: rest).length → Reading β bound'}
    (blocks : token.Blocks) (opener : Token) {kind : TokenKind}
    (other : kind ∉ [TokenKind.colon, .openParenthesis]) (closer : String)
    : Stuck (grammar.closing opener kind closer (token :: rest) >>= next) := by
  rw [closing, if_neg (blocks.kind_ne other)]
  exact .malformed _

theorem stuck_predicates (blocks : token.Blocks) {h : (token :: rest).length ≤ bound}
    : Stuck (grammar.predicates inner (token :: rest) h) := by
  rw [predicates.eq_def]
  simp only [if_pos (blocks.kind_ne (by decide : TokenKind.openBracket ∉ _))]
  exact .blocked blocks

theorem stuck_furtherSteps (blocks : token.Blocks) {h : (token :: rest).length ≤ bound}
    : Stuck (grammar.furtherSteps inner (token :: rest) h) := by
  have none : separatorSteps? token = none := by
    rw [separatorSteps?, if_neg (blocks.kind_ne (by decide)), if_neg (blocks.kind_ne (by decide))]
  rw [furtherSteps.eq_def]
  simp only [none]
  exact .blocked blocks

theorem stuck_furtherArguments (blocks : token.Blocks) {h : (token :: rest).length < bound}
    : Stuck (furtherArguments inner (token :: rest) h) := by
  rw [furtherArguments.eq_def]
  simp only [if_pos (blocks.kind_ne (by decide : TokenKind.comma ∉ _))]
  exact .blocked blocks

theorem stuck_operations {level : Level} {operand : Reader Expr bound} {left : Expr}
    (blocks : token.Blocks) {h : (token :: rest).length ≤ bound}
    : Stuck (operations level.read? operand left (token :: rest) h) := by
  have none : level.operation? token = none := by
    cases operator : level.operation? token with
    | none => rfl
    | some combine =>
        obtain kind | kind | kind | kind := Level.kind_of_operation? operator <;>
          exact absurd kind (blocks.kind_ne (by decide))
  rw [operations.eq_def]
  simp only [Level.read?_eq, none]
  exact .blocked blocks

end

-----------------------------------------------------------------------------------------
-- Steps
-----------------------------------------------------------------------------------------

/-- A reader for inner expressions tracks another one on closed tokens. -/
def TracksInside (inner : InnerReader bound) (inner' : InnerReader bound') : Prop :=
  ∀ tokens tokens' h h', Closed tokens tokens' → Tracks (inner tokens h) (inner' tokens' h')

variable {inner : InnerReader bound} {inner' : InnerReader bound'}

theorem tracks_closing (opener opener' : Token) (kind : TokenKind) (closer : String)
    (closed : Closed tokens tokens')
    : Tracks (grammar.closing opener kind closer tokens)
        (grammar.closing opener' kind closer tokens') := by
  obtain ⟨rfl, rfl⟩ | ⟨token, token', rest, rest', rfl, rfl, like, next⟩ := closed.cases
  · exact .stuck (.malformed _)
  · rw [closing, closing, ← like.kind]
    split
    · exact .taken next
    · exact .stuck (.malformed _)

theorem tracks_predicates (inside : TracksInside inner inner') {tokens tokens' : List Token}
    {h : tokens.length ≤ bound} {h' : tokens'.length ≤ bound'} (closed : Closed tokens tokens')
    : Tracks (grammar.predicates inner tokens h) (grammar.predicates inner' tokens' h') := by
  fun_induction grammar.predicates inner tokens h generalizing tokens' with
  | case1 =>
      obtain rfl := closed.eq_nil
      rw [predicates]
      exact .taken closed
  | case2 token rest h noPredicate =>
      obtain ⟨_, _, rfl, like, -⟩ := closed.exists_cons
      rw [predicates.eq_def]
      simp only [← like.kind, if_pos noPredicate]
      exact .taken closed
  | case3 opener opens =>
      obtain ⟨_, _, rfl, like, next⟩ := closed.exists_cons
      obtain rfl := next.eq_nil
      rw [predicates.eq_def]
      simp only [← like.kind, if_neg opens]
      exact .stuck (.malformed _)
  | case4 opener opens next more h ends =>
      obtain ⟨_, _, rfl, like, next⟩ := closed.exists_cons
      obtain ⟨_, _, rfl, also, -⟩ := next.exists_cons
      rw [predicates.eq_def]
      simp only [← like.kind, if_neg opens, ← also.kind, if_pos ends]
      exact .stuck (.malformed _)
  | case5 opener opens next more h noEnd _ ih =>
      obtain ⟨_, _, rfl, like, next⟩ := closed.exists_cons
      obtain ⟨_, _, rfl, also, -⟩ := next.exists_cons
      rw [predicates.eq_def]
      simp only [← like.kind, if_neg opens, ← also.kind, if_neg noEnd]
      refine (inside _ _ _ _ next).bind (fun predicate left _ fewer _ closed => ?_)
        fun _ _ _ _ blocks => stuck_closing blocks _ (by decide) _
      refine (tracks_closing _ _ _ _ closed).bind (fun _ rest _ fewerStill _ closed => ?_)
        fun _ _ _ _ blocks => (stuck_predicates blocks).bind fun _ _ _ _ again => .blocked again
      exact (ih ⟨predicate, left, fewer⟩ ⟨(), rest, fewerStill⟩ closed).last _
        (fun _ _ _ => ⟨_, rfl⟩) fun _ _ _ => ⟨_, rfl⟩

theorem tracks_nodeType {name name' opener opener' : Token} (like : name.Like name')
    (closed : Closed tokens tokens')
    : Tracks (grammar.nodeType name opener tokens) (grammar.nodeType name' opener' tokens') := by
  obtain ⟨rfl, rfl⟩ | ⟨token, token', rest, rest', rfl, rfl, also, next⟩ := closed.cases
  · exact .stuck (.malformed _)
  · rw [nodeType, nodeType, ← like.text, ← also.kind, ← also.text]
    split
    · exact (tracks_closing _ _ _ _ next).last _ (fun _ _ _ => ⟨_, rfl⟩) fun _ _ _ => ⟨_, rfl⟩
    · exact (tracks_closing _ _ _ _ closed).last _ (fun _ _ _ => ⟨_, rfl⟩) fun _ _ _ => ⟨_, rfl⟩

/-- A name that goes on with gaps does so without gaps too, except before an opening parenthesis. -/
theorem Closed.continuesName {name name' colon colon' part part' : Token}
    {rest rest' : List Token}
    (closed : Closed (name :: colon :: part :: rest) (name' :: colon' :: part' :: rest'))
    (isName : name.kind = .name)
    (continues : Grammar.continuesName name' colon' part')
    : Grammar.continuesName name colon part
      ∨ ∃ opener more, rest' = opener :: more ∧ opener.kind = .openParenthesis := by
  obtain ⟨isColon, isPart⟩ := kind_of_continuesName continues
  obtain ⟨_, _, ⟨⟩, -, next⟩ := closed.exists_cons
  obtain ⟨_, _, ⟨⟩, likeColon, next⟩ := next.exists_cons
  obtain ⟨_, _, ⟨⟩, likePart, next⟩ := next.exists_cons
  rw [← likeColon.kind] at isColon
  rw [← likePart.kind] at isPart
  obtain contiguous | ⟨opener, first, opens⟩ :=
    closed.gapless [] name colon part rest rfl isName isColon
  · left
    simp only [Grammar.continuesName, Bool.and_eq_true, Bool.or_eq_true, decide_eq_true_eq,
      beq_iff_eq]
    exact ⟨⟨⟨isColon, contiguous.1⟩, isPart⟩, contiguous.2⟩
  · obtain ⟨more, rfl⟩ := List.head?_eq_some_iff.mp first
    obtain ⟨opener', more', rfl, like, -⟩ := next.exists_cons
    exact .inr ⟨opener', more', rfl, like.kind ▸ opens⟩

/-- A name with a gap at its colon is a test without the colon, which is left over. -/
theorem tracks_namedTest {name name' : Token} (isName : name.kind = .name)
    (closed : Closed (name :: tokens) (name' :: tokens'))
    : Tracks (grammar.namedTest name tokens) (grammar.namedTest name' tokens') := by
  obtain ⟨_, _, ⟨⟩, like, next⟩ := closed.exists_cons
  obtain ⟨rfl, rfl⟩ | ⟨token, token', rest, rest', rfl, rfl, also, more⟩ := next.cases
  · rw [namedTest, namedTest, like.text]
    exact .taken next
  rw [namedTest.eq_def, namedTest.eq_def]
  simp only [← like.text, ← also.kind]
  split
  · exact (tracks_nodeType like more).last _ (fun _ _ _ => ⟨_, rfl⟩) fun _ _ _ => ⟨_, rfl⟩
  obtain ⟨rfl, rfl⟩ | ⟨part, part', rest, rest', rfl, rfl, likePart, rest⟩ := more.cases
  · exact .taken next
  simp only [← likePart.kind, ← likePart.text]
  by_cases continues : continuesName name' token' part'
  · rw [if_pos continues]
    obtain already | ⟨opener, more, rfl, opens⟩ := closed.continuesName isName continues
    · rw [if_pos already]
      exact .taken rest
    · exact .stuck (.blocked (by simp [Token.Blocks, opens]))
  rw [if_neg continues]
  split
  case isTrue already =>
      have isColon := also.kind ▸ (kind_of_continuesName already).1
      exact .stuck (.blocked (by simp [Token.Blocks, isColon]))
  case isFalse => exact .taken next

theorem tracks_nodeTest (closed : Closed tokens tokens')
    : Tracks (grammar.nodeTest tokens) (grammar.nodeTest tokens') := by
  obtain ⟨rfl, rfl⟩ | ⟨token, token', rest, rest', rfl, rfl, like, next⟩ := closed.cases
  · exact .stuck (.malformed _)
  rw [nodeTest, nodeTest, ← like.kind]
  split
  · exact .taken next
  split
  · exact tracks_namedTest ‹_› closed
  · exact .stuck (.malformed _)

theorem tracks_stepOn (inside : TracksInside inner inner') (axis : String)
    {h : tokens.length ≤ bound} {h' : tokens'.length ≤ bound'} (closed : Closed tokens tokens')
    : Tracks (grammar.stepOn inner axis tokens h) (grammar.stepOn inner' axis tokens' h') := by
  refine (tracks_nodeTest closed).bind (fun _ _ _ _ _ closed => ?_)
    fun _ _ _ _ blocks => (stuck_predicates blocks).bind fun _ _ _ _ again => .blocked again
  exact (tracks_predicates inside closed).last _ (fun _ _ _ => ⟨_, rfl⟩) fun _ _ _ => ⟨_, rfl⟩

theorem tracks_step (inside : TracksInside inner inner') {h : tokens.length ≤ bound}
    {h' : tokens'.length ≤ bound'} (closed : Closed tokens tokens')
    : Tracks (grammar.step inner tokens h) (grammar.step inner' tokens' h') := by
  obtain ⟨rfl, rfl⟩ | ⟨token, token', rest, rest', rfl, rfl, like, next⟩ := closed.cases
  · exact .stuck (.malformed _)
  rw [step.eq_def, step.eq_def]
  simp only [← like.kind]
  split
  · exact .taken next
  split
  · exact .taken next
  split
  · exact (tracks_stepOn inside "attribute" next).last _ (fun _ _ _ => ⟨_, rfl⟩)
      fun _ _ _ => ⟨_, rfl⟩
  obtain ⟨rfl, rfl⟩ | ⟨colons, colons', rest, rest', rfl, rfl, also, more⟩ := next.cases
  · exact tracks_stepOn inside "child" closed
  simp only [← also.kind, ← like.text]
  split
  · split
    · exact (tracks_stepOn inside token.text more).last _ (fun _ _ _ => ⟨_, rfl⟩)
        fun _ _ _ => ⟨_, rfl⟩
    · exact .stuck (.malformed _)
  · exact tracks_stepOn inside "child" closed

-----------------------------------------------------------------------------------------
-- Paths
-----------------------------------------------------------------------------------------

theorem tracks_furtherSteps (inside : TracksInside inner inner') {tokens tokens' : List Token}
    {h : tokens.length ≤ bound} {h' : tokens'.length ≤ bound'} (closed : Closed tokens tokens')
    : Tracks (grammar.furtherSteps inner tokens h) (grammar.furtherSteps inner' tokens' h') := by
  fun_induction grammar.furtherSteps inner tokens h generalizing tokens' with
  | case1 =>
      obtain rfl := closed.eq_nil
      rw [furtherSteps]
      exact .taken closed
  | case2 token rest h noStep =>
      obtain ⟨_, _, rfl, like, -⟩ := closed.exists_cons
      rw [furtherSteps.eq_def]
      simp only [Respacing.separatorSteps?_eq like, noStep]
      exact .taken closed
  | case3 separator rest h between separates _ ih =>
      obtain ⟨_, _, rfl, like, next⟩ := closed.exists_cons
      rw [furtherSteps.eq_def]
      simp only [Respacing.separatorSteps?_eq like, separates]
      refine (tracks_step inside next).bind (fun step left _ fewer _ closed => ?_)
        fun _ _ _ _ blocks => (stuck_furtherSteps blocks).bind fun _ _ _ _ again => .blocked again
      exact (ih ⟨step, left, fewer⟩ closed).last (fun steps => between ++ step :: steps)
        (fun _ _ _ => ⟨_, rfl⟩) fun _ _ _ => ⟨_, rfl⟩

theorem tracks_steps (inside : TracksInside inner inner') {h : tokens.length ≤ bound}
    {h' : tokens'.length ≤ bound'} (closed : Closed tokens tokens')
    : Tracks (grammar.steps inner tokens h) (grammar.steps inner' tokens' h') := by
  refine (tracks_step inside closed).bind (fun _ _ _ _ _ closed => ?_)
    fun _ _ _ _ blocks => (stuck_furtherSteps blocks).bind fun _ _ _ _ again => .blocked again
  exact (tracks_furtherSteps inside closed).last _ (fun _ _ _ => ⟨_, rfl⟩) fun _ _ _ => ⟨_, rfl⟩

theorem tracks_locationPath (inside : TracksInside inner inner') {h : tokens.length ≤ bound}
    {h' : tokens'.length ≤ bound'} (closed : Closed tokens tokens')
    : Tracks (grammar.locationPath inner tokens h) (grammar.locationPath inner' tokens' h') := by
  obtain ⟨rfl, rfl⟩ | ⟨token, token', rest, rest', rfl, rfl, like, next⟩ := closed.cases
  · exact (tracks_steps inside closed).last _ (fun _ _ _ => ⟨_, rfl⟩) fun _ _ _ => ⟨_, rfl⟩
  have starts : rest'.head?.map startsStep = rest.head?.map startsStep := by
    obtain ⟨rfl, rfl⟩ | ⟨_, _, _, _, rfl, rfl, also, -⟩ := next.cases
    · rfl
    · simp [Respacing.startsStep_eq also]
  rw [locationPath, locationPath]
  simp only [← like.kind, starts]
  split
  · split
    · exact (tracks_steps inside next).last _ (fun _ _ _ => ⟨_, rfl⟩) fun _ _ _ => ⟨_, rfl⟩
    · exact .taken next
  split
  · exact (tracks_steps inside next).last (fun steps => .path true (.anywhereBelow :: steps))
      (fun _ _ _ => ⟨_, rfl⟩) fun _ _ _ => ⟨_, rfl⟩
  · exact (tracks_steps inside closed).last _ (fun _ _ _ => ⟨_, rfl⟩) fun _ _ _ => ⟨_, rfl⟩

-----------------------------------------------------------------------------------------
-- Primary expressions
-----------------------------------------------------------------------------------------

theorem tracks_furtherArguments (inside : TracksInside inner inner') {tokens tokens' : List Token}
    {h : tokens.length < bound} {h' : tokens'.length < bound'} (closed : Closed tokens tokens')
    : Tracks (furtherArguments inner tokens h) (furtherArguments inner' tokens' h') := by
  fun_induction furtherArguments inner tokens h generalizing tokens' with
  | case1 =>
      obtain rfl := closed.eq_nil
      rw [furtherArguments]
      exact .taken closed
  | case2 token rest h noComma =>
      obtain ⟨_, _, rfl, like, -⟩ := closed.exists_cons
      rw [furtherArguments.eq_def]
      simp only [← like.kind, if_pos noComma]
      exact .taken closed
  | case3 comma rest h isComma _ ih =>
      obtain ⟨_, _, rfl, like, next⟩ := closed.exists_cons
      rw [furtherArguments.eq_def]
      simp only [← like.kind, if_neg isComma]
      refine (inside _ _ _ _ next).bind (fun argument left _ fewer _ closed => ?_)
        fun _ _ _ _ blocks => (stuck_furtherArguments blocks).bind fun _ _ _ _ again => .blocked again
      exact (ih ⟨argument, left, fewer⟩ closed).last _ (fun _ _ _ => ⟨_, rfl⟩) fun _ _ _ => ⟨_, rfl⟩

/-- A call is refused before a gap, or not at all. -/
theorem tracks_callArguments (inside : TracksInside inner inner') (name : String)
    (opener opener' : Token) {h : tokens.length < bound} {h' : tokens'.length < bound'}
    (closed : Closed tokens tokens')
    : Tracks (grammar.callArguments inner name opener tokens h)
        (grammar.callArguments inner' name opener' tokens' h') := by
  refine Tracks.bind ?_ (fun list left left' _ _ closed => ?_)
    fun _ _ _ _ blocks => stuck_closing blocks _ (by decide) _
  · obtain ⟨rfl, rfl⟩ | ⟨token, token', rest, rest', rfl, rfl, like, next⟩ := closed.cases
    · exact .stuck (.malformed _)
    simp only [← like.kind]
    split
    · exact .taken closed
    · refine (inside _ _ _ _ closed).bind (fun _ _ _ _ _ closed => ?_)
        fun _ _ _ _ blocks => (stuck_furtherArguments blocks).bind fun _ _ _ _ again => .blocked again
      exact (tracks_furtherArguments inside closed).last _ (fun _ _ _ => ⟨_, rfl⟩)
        fun _ _ _ => ⟨_, rfl⟩
  · obtain ⟨rfl, rfl⟩ | ⟨token, token', rest, rest', rfl, rfl, like, next⟩ := closed.cases
    · exact .stuck (.malformed _)
    simp only [closing, ← like.kind]
    split
    case isFalse => exact .stuck (.malformed _)
    case isTrue =>
        simp only [bind, Except.bind]
        generalize checkCall grammar.arityOf name list.length = outcome
        cases outcome with
        | error fault => exact .refused fault
        | ok => exact .taken next

/-- Two calls have the same name, and the arguments of the first one have no gaps. -/
def ClosedHead (head head' : String × Token × List Token) : Prop :=
  head.1 = head'.1 ∧ Closed head.2.2 head'.2.2

theorem closedHead_callHead? (closed : Closed tokens tokens')
    : Option.Rel ClosedHead (callHead? tokens) (callHead? tokens') := by
  obtain ⟨rfl, rfl⟩ | ⟨name, name', rest, rest', rfl, rfl, like, next⟩ := closed.cases
  · exact .none
  obtain ⟨rfl, rfl⟩ | ⟨token, token', rest, rest', rfl, rfl, also, more⟩ := next.cases
  · exact .none
  rw [callHead?.eq_def, callHead?.eq_def]
  simp only [← like.kind, ← like.text, ← also.kind]
  split
  · exact .none
  split
  · exact .some ⟨rfl, more⟩
  by_cases isColon : token.kind = .colon
  · simp only [isColon]
    obtain ⟨rfl, rfl⟩ | ⟨part, part', rest, rest', rfl, rfl, likePart, last⟩ := more.cases
    · exact .none
    obtain ⟨rfl, rfl⟩ | ⟨opener, opener', rest, rest', rfl, rfl, likeOpener, last⟩ := last.cases
    · exact .none
    simp only [← likePart.kind, ← likePart.text, ← likeOpener.kind]
    split
    · exact .some ⟨rfl, last⟩
    · exact .none
  · split
    case h_1 same => exact absurd same isColon
    case h_2 =>
      split
      case h_1 same => exact absurd same isColon
      case h_2 => exact .none

theorem tracks_primary (inside : TracksInside inner inner') {h : tokens.length ≤ bound}
    {h' : tokens'.length ≤ bound'} (closed : Closed tokens tokens')
    : Option.Rel Tracks (grammar.primary? inner tokens h) (grammar.primary? inner' tokens' h') := by
  have heads := closedHead_callHead? closed
  obtain ⟨rfl, rfl⟩ | ⟨token, token', rest, rest', rfl, rfl, like, next⟩ := closed.cases
  · exact .none
  rw [primary?.eq_def, primary?.eq_def]
  simp only [← like.kind, ← like.text]
  split
  case h_1 | h_2 | h_3 => exact .some (.taken next)
  case h_4 =>
    refine .some ?_
    obtain ⟨rfl, rfl⟩ | ⟨_, _, _, _, rfl, rfl, -, -⟩ := next.cases
    · exact .stuck (.malformed _)
    · refine (inside _ _ _ _ next).bind (fun value _ _ _ _ closed => ?_)
        fun _ _ _ _ blocks => stuck_closing blocks _ (by decide) _
      exact (tracks_closing _ _ _ _ closed).last (fun _ => value) (fun _ _ _ => ⟨_, rfl⟩)
        fun _ _ _ => ⟨_, rfl⟩
  case h_5 =>
    split
    case h_1 noCall =>
      rw [noCall] at heads
      split
      case h_1 => exact .none
      case h_2 head =>
        rw [head] at heads
        cases heads
    case h_2 name opener arguments head =>
      rw [head] at heads
      split
      case h_1 noCall =>
        rw [noCall] at heads
        cases heads
      case h_2 name' opener' arguments' head' =>
        rw [head'] at heads
        obtain ⟨⟨rfl, closed⟩⟩ := heads
        refine .some ?_
        exact (tracks_callArguments inside name opener opener' closed).last _
          (fun _ _ _ => ⟨_, rfl⟩) fun _ _ _ => ⟨_, rfl⟩

theorem tracks_pathExpression (inside : TracksInside inner inner') {h : tokens.length ≤ bound}
    {h' : tokens'.length ≤ bound'} (closed : Closed tokens tokens')
    : Tracks (grammar.pathExpression inner tokens h) (grammar.pathExpression inner' tokens' h') := by
  have starts : Option.Rel Tracks (grammar.primary? inner tokens h)
      (grammar.primary? inner' tokens' h') :=
    tracks_primary inside closed
  rw [pathExpression, pathExpression]
  simp only [closed.isEmpty_eq]
  split
  · exact .stuck (.malformed _)
  generalize grammar.primary? inner tokens h = primary at starts
  generalize grammar.primary? inner' tokens' h' = primary' at starts
  cases starts with
  | none => exact tracks_locationPath inside closed
  | some tracks =>
      refine tracks.bind (fun first _ _ _ _ closed => ?_) fun _ _ _ _ blocks =>
        (stuck_predicates blocks).bind fun _ _ _ _ again =>
          (stuck_furtherSteps again).bind fun _ _ _ _ last => .blocked last
      refine (tracks_predicates inside closed).bind (fun list _ _ _ _ closed => ?_)
        fun _ _ _ _ blocks => (stuck_furtherSteps blocks).bind fun _ _ _ _ again => .blocked again
      exact (tracks_furtherSteps inside closed).last
        (fun steps =>
          if steps.isEmpty then if list.isEmpty then first else .filter first list
          else .continued (if list.isEmpty then first else .filter first list) steps)
        (fun _ _ _ => ⟨_, rfl⟩) fun _ _ _ => ⟨_, rfl⟩

-----------------------------------------------------------------------------------------
-- Operators
-----------------------------------------------------------------------------------------

/-- A reader tracks another one on closed tokens. -/
def TracksReaders (reader : Reader Expr bound) (reader' : Reader Expr bound') : Prop :=
  ∀ tokens tokens' h h', Closed tokens tokens' → Tracks (reader tokens h) (reader' tokens' h')

variable {operand : Reader Expr bound} {operand' : Reader Expr bound'}

theorem tracks_operations {level : Level} (operands : TracksReaders operand operand')
    {left : Expr} {tokens tokens' : List Token} {h : tokens.length ≤ bound}
    {h' : tokens'.length ≤ bound'} (closed : Closed tokens tokens')
    : Tracks (operations level.read? operand left tokens h)
        (operations level.read? operand' left tokens' h') := by
  fun_induction operations level.read? operand left tokens h generalizing tokens' with
  | case1 =>
      obtain rfl := closed.eq_nil
      rw [operations]
      exact .taken closed
  | case2 left token rest h noOperator =>
      obtain ⟨_, _, rfl, like, -⟩ := closed.exists_cons
      rw [operations.eq_def]
      simp only [Respacing.read?_eq like, noOperator]
      exact .taken closed
  | case3 left token rest h combine operator _ ih =>
      obtain ⟨_, _, rfl, like, next⟩ := closed.exists_cons
      rw [operations.eq_def]
      simp only [Respacing.read?_eq like, operator]
      refine (operands _ _ _ _ next).bind (fun right rest _ fewer _ closed => ?_)
        fun _ _ _ _ blocks => (stuck_operations blocks).bind fun _ _ _ _ again => .blocked again
      exact (ih ⟨right, rest, fewer⟩ closed).last _ (fun _ _ _ => ⟨_, rfl⟩) fun _ _ _ => ⟨_, rfl⟩

theorem tracksReaders_level {level : Level} (operands : TracksReaders operand operand')
    : TracksReaders (Grammar.level level.read? operand) (Grammar.level level.read? operand') := by
  intro tokens tokens' h h' closed
  refine (operands _ _ _ _ closed).bind (fun _ _ _ _ _ closed => ?_)
    fun _ _ _ _ blocks => (stuck_operations blocks).bind fun _ _ _ _ again => .blocked again
  exact (tracks_operations operands closed).last _ (fun _ _ _ => ⟨_, rfl⟩) fun _ _ _ => ⟨_, rfl⟩

theorem tracksReaders_negation (operands : TracksReaders operand operand')
    : TracksReaders (negation operand) (negation operand') := by
  intro tokens tokens' h h' closed
  induction tokens generalizing tokens' with
  | nil =>
      obtain rfl := closed.eq_nil
      exact operands _ _ _ _ closed
  | cons token rest ih =>
      obtain ⟨_, _, rfl, like, next⟩ := closed.exists_cons
      rw [negation, negation, ← like.kind, ← like.text]
      split
      · exact (ih _ _ _ next).last _ (fun _ _ _ => ⟨_, rfl⟩) fun _ _ _ => ⟨_, rfl⟩
      · exact operands _ _ _ _ closed

theorem tracksReaders_layer (inside : TracksInside inner inner') (layer : Layer)
    : TracksReaders (grammar.layer inner layer) (grammar.layer inner' layer) := by
  fun_induction grammar.layer inner layer with
  | case1 =>
      rw [Grammar.layer]
      exact fun _ _ _ _ closed => tracks_pathExpression inside closed
  | case2 ih =>
      rw [Grammar.layer]
      exact tracksReaders_negation ih
  | case3 level ih =>
      rw [Grammar.layer]
      exact tracksReaders_level ih

theorem tracks_expression {tokens tokens' : List Token} (closed : Closed tokens tokens')
    : Tracks (grammar.expression tokens) (grammar.expression tokens') := by
  fun_induction grammar.expression tokens generalizing tokens' with
  | case1 tokens ih =>
      rw [expression.eq_def, operators_eq, operators_eq]
      apply tracksReaders_layer _ _ _ _ _ _ closed
      exact fun inside _ h _ closed => ih inside h closed

/-- All tokens are read as they are without gaps at colons, or there is a syntax error. -/
theorem whole_eq_or_malformed (closed : Closed tokens tokens')
    : grammar.whole tokens' = grammar.whole tokens
      ∨ ∃ fault, grammar.whole tokens' = .error (.malformed fault) := by
  have tracks : Tracks (grammar.expression tokens) (grammar.expression tokens') :=
    tracks_expression closed
  rw [whole, whole, closed.isEmpty_eq]
  split
  · exact .inl rfl
  generalize grammar.expression tokens = reading at tracks
  generalize grammar.expression tokens' = reading' at tracks
  cases tracks with
  | taken closed =>
      simp only [bind, Except.bind, closed.isEmpty_eq]
      split
      · exact .inl rfl
      · exact .inr ⟨_, rfl⟩
  | refused fault => exact .inl rfl
  | stuck stuck =>
      cases stuck with
      | malformed fault => exact .inr ⟨fault, rfl⟩
      | blocked => exact .inr ⟨_, rfl⟩

end Grammar

end PathQuery
