import PathQuery.Proofs.Grammar.Gaps
import PathQuery.Proofs.Grammar.Uniqueness

/-! The colons of expressions that are read. Each stands in a qualified name: in a node test without
gaps, in the name of a call with or without any. Where the colons of the same tokens stand decides
whether these are read as the same expression or not at all.
-/

namespace PathQuery

/-- A colon joins a name with what follows it: without gaps as a name, or as the name of a function
that is called.
-/
inductive Token.Joins (arityOf : String → Option Arity) (name colon part : Token)
    (after : List Token) : Prop
  | adjacent (isPart : part.kind = .name ∨ part.kind = .asterisk)
      (contiguous : name.Contiguous colon part)
  | called (isPart : part.kind = .name)
      (opens : ∃ opener ∈ after.head?, opener.kind = .openParenthesis)
      (known : (arityOf (name.text ++ ":" ++ part.text)).isSome)

/-- Every colon joins a name with what follows it. -/
def Token.ColonsJoin (arityOf : String → Option Arity) (tokens : List Token) : Prop :=
  ∀ before colon after, tokens = before ++ colon :: after → colon.kind = .colon →
    ∃ earlier name part later, before = earlier ++ [name] ∧ after = part :: later
      ∧ name.kind = .name ∧ Joins arityOf name colon part later

-----------------------------------------------------------------------------------------
-- Gaps
-----------------------------------------------------------------------------------------

namespace Token

variable {arityOf : String → Option Arity} {tokens others : List Token}

theorem ColonsJoin.gapless (join : ColonsJoin arityOf tokens) : Gapless tokens := by
  intro before name colon part after same _ isColon
  obtain ⟨earlier, _, _, later, split, ⟨⟩, -, joins⟩ :=
    join (before ++ [name]) colon (part :: after) (by simp [same]) isColon
  obtain ⟨-, rfl⟩ := List.append_inj' split rfl |>.imp_right (List.cons.inj · |>.1)
  cases joins with
  | adjacent _ contiguous => exact .inl contiguous
  | called _ opens _ => exact .inr opens

theorem Like.symm {token other : Token} (like : token.Like other) : other.Like token :=
  ⟨like.kind.symm, like.text.symm⟩

/-- The tokens from a position on, without gaps. -/
def closedUp (position : Nat) : List Token → List Token
  | [] => []
  | token :: rest =>
      { token with position }
        :: closedUp (position + if token.kind = .colon then 1 else token.text.length) rest

theorem like_closedUp (position : Nat) (like : List.Forall₂ Like tokens others)
    : List.Forall₂ Like (closedUp position tokens) others := by
  induction like generalizing position with
  | nil => exact .nil
  | cons same _ ih => exact .cons ⟨same.kind, same.text⟩ (ih _)

theorem gapless_closedUp (position : Nat) (tokens : List Token)
    : Gapless (closedUp position tokens) := by
  intro before name colon part after same isName isColon
  induction tokens generalizing position before with
  | nil => simp [closedUp] at same
  | cons token rest ih =>
      rw [closedUp] at same
      cases before with
      | cons _ before => exact ih _ before (List.cons.inj same).2
      | nil =>
          rcases rest with _ | ⟨next, _ | ⟨last, rest⟩⟩
          · simp [closedUp] at same
          · simp [closedUp] at same
          · obtain ⟨rfl, rfl, rfl, -⟩ := by simpa [closedUp] using same
            simp only at isName isColon
            exact .inl (by simp [Contiguous, isName, isColon])

end Token

-----------------------------------------------------------------------------------------
-- Derivations
-----------------------------------------------------------------------------------------

/-- From the first tokens to the others there are tokens that are no colons, and names with colons
that are joined.
-/
inductive Token.Fit (arityOf : String → Option Arity) : List Token → List Token → Prop
  | nothing {rest : List Token} : Fit arityOf rest rest
  | token {token : Token} {tokens rest : List Token} (other : token.kind ≠ .colon)
      (more : Fit arityOf tokens rest)
      : Fit arityOf (token :: tokens) rest
  | name {name colon part : Token} {tokens rest : List Token} (isName : name.kind = .name)
      (other : part.kind ≠ .colon) (joins : Joins arityOf name colon part tokens)
      (more : Fit arityOf tokens rest)
      : Fit arityOf (name :: colon :: part :: tokens) rest

namespace Token.Fit

variable {arityOf : String → Option Arity} {tokens middle rest : List Token}

theorem trans (first : Fit arityOf tokens middle) (others : Fit arityOf middle rest)
    : Fit arityOf tokens rest := by
  induction first with
  | nothing => exact others
  | token other _ ih => exact .token other (ih others)
  | name isName other joins _ ih => exact .name isName other joins (ih others)

theorem colonsJoin (fit : Fit arityOf tokens rest) (all : rest = [])
    : ColonsJoin arityOf tokens := by
  intro before colon after same isColon
  induction fit generalizing before with
  | nothing => simp [all] at same
  | @token token _ _ other _ ih =>
      cases before with
      | nil =>
          obtain ⟨rfl, -⟩ := List.cons.inj same
          exact absurd isColon other
      | cons _ before =>
          obtain ⟨rfl, next⟩ := List.cons.inj same
          obtain ⟨earlier, name, part, later, rfl, rest⟩ := ih all before next
          exact ⟨token :: earlier, name, part, later, rfl, rest⟩
  | @name first second third tokens _ isName other joins _ ih =>
      rcases before with _ | ⟨_, _ | ⟨_, _ | ⟨_, before⟩⟩⟩
      · obtain ⟨rfl, -⟩ := List.cons.inj same
        simp [isName] at isColon
      · obtain ⟨rfl, rfl, rfl⟩ : first = _ ∧ second = colon ∧ third :: tokens = after := by
          simpa using same
        exact ⟨[], first, third, tokens, rfl, rfl, isName, joins⟩
      · obtain ⟨rfl, rfl, rfl, -⟩ : first = _ ∧ second = _ ∧ third = colon ∧ tokens = after := by
          simpa using same
        exact absurd isColon other
      · obtain ⟨rfl, rfl, rfl, next⟩ :
            first = _ ∧ second = _ ∧ third = _ ∧ tokens = before ++ colon :: after := by
          simpa using same
        obtain ⟨earlier, name, part, later, rfl, rest⟩ := ih all before next
        exact ⟨first :: second :: third :: earlier, name, part, later, rfl, rest⟩

end Token.Fit

namespace Grammar

variable {grammar : Grammar} {part : Part} {tokens rest : List Token}

theorem contiguous_of_continuesName {name colon part : Token}
    (continues : continuesName name colon part)
    : name.Contiguous colon part := by
  simp only [continuesName, Bool.and_eq_true, beq_iff_eq] at continues
  exact ⟨continues.1.1.2, continues.2⟩

theorem isSome_of_checkCall {arityOf : String → Option Arity} {name : String} {count : Nat}
    (accepted : checkCall arityOf name count = .ok ())
    : (arityOf name).isSome := by
  rw [checkCall] at accepted
  split at accepted
  · cases accepted
  · simp [*]

/-- The colons of what is derived stand in names, by induction on the derivation. -/
theorem Derivation.fit (derivation : grammar.Derivation part tokens rest)
    : Token.Fit grammar.arityOf tokens rest := by
  induction derivation with
  | operands _ _ first others | filtered _ _ first others | stepwise _ _ first others
  | onChildren _ _ first others | someArguments _ _ first others => exact first.trans others
  | noOperation | noStep | noPredicate | noArgument | noFurtherArgument => exact .nothing
  | plain _ fit | located _ fit | fromContext _ fit => exact fit
  | root kind _ | self kind | parent kind | anyName kind | plainName _ kind | number _ kind
  | string _ kind | reference _ kind => exact .token (by simp [kind]) .nothing
  | fromRoot kind _ steps | anywhere kind _ steps => exact .token (by simp [kind]) steps
  | operation _ operator _ _ right others =>
      obtain kind | kind | kind | kind := Level.kind_of_operation? operator <;>
        exact .token (by simp [kind]) (right.trans others)
  | negated minus _ operand => exact .token (by simp [minus.1]) operand
  | continued _ _ _ separates _ primary predicates steps =>
      obtain kind | kind := kind_of_separatorSteps? separates <;>
        exact primary.trans (predicates.trans (.token (by simp [kind]) steps))
  | furtherStep _ separates _ _ next others =>
      obtain kind | kind := kind_of_separatorSteps? separates <;>
        exact .token (by simp [kind]) (next.trans others)
  | onAttributes isAt _ _ test predicates =>
      exact .token (by simp [isAt]) (test.trans predicates)
  | onAxis _ isName _ isDouble _ _ test predicates =>
      exact .token (by simp [isName]) (.token (by simp [isDouble]) (test.trans predicates))
  | predicate opens _ closes _ inside others =>
      exact .token (by simp [opens]) (inside.trans (.token (by simp [closes]) others))
  | qualified name part isName continues =>
      obtain ⟨-, isPart⟩ := kind_of_continuesName continues
      have other : part.kind ≠ .colon := by
        obtain kind | kind := isPart <;> simp [kind]
      exact .name isName other (.adjacent isPart.symm (contiguous_of_continuesName continues)) .nothing
  | nodeType _ isName _ opens closes =>
      exact .token (by simp [isName]) (.token (by simp [opens]) (.token (by simp [closes]) .nothing))
  | target _ isName _ opens isString closes =>
      exact .token (by simp [isName]) (.token (by simp [opens])
        (.token (by simp [isString]) (.token (by simp [closes]) .nothing)))
  | enclosed opens _ closes inside =>
      exact .token (by simp [opens]) (inside.trans (.token (by simp [closes]) .nothing))
  | call _ isName _ opens _ closes _ inside =>
      exact .token (by simp [isName])
        (.token (by simp [opens]) (inside.trans (.token (by simp [closes]) .nothing)))
  | qualifiedCall _ _ isName _ _ isPart opens _ closes accepted inside =>
      exact .name isName (by simp [isPart])
        (.called isPart ⟨_, rfl, opens⟩ (isSome_of_checkCall accepted))
        (.token (by simp [opens]) (inside.trans (.token (by simp [closes]) .nothing)))
  | furtherArgument isComma _ _ next others =>
      exact .token (by simp [isComma]) (next.trans others)

theorem colonsJoin_of_whole {root : Expr} (read : grammar.whole tokens = .ok root)
    : Token.ColonsJoin grammar.arityOf tokens := by
  obtain ⟨derivation, -⟩ := derives_whole read
  exact derivation.fit.colonsJoin rfl

-----------------------------------------------------------------------------------------
-- Other texts
-----------------------------------------------------------------------------------------

variable {arityOf : String → Option Arity} {others : List Token} {length length' : Nat} {root : Expr}

/-- The length of the text does not matter to what is read. -/
theorem whole_eq_ok_of_length (read : (Grammar.mk length arityOf).whole tokens = .ok root)
    : (Grammar.mk length' arityOf).whole tokens = .ok root := by
  have agree := Respacing.agree_whole
    { first := ⟨length, arityOf⟩, second := ⟨length', arityOf⟩, tokens, others := tokens,
      arityOf_eq := rfl,
      respaced := {
        like := List.forall₂_same.mpr fun _ _ => ⟨rfl, rfl⟩
        contiguous := by
          intro _ _ _ _ _ _ _ _ _ here there _ _ _
          obtain ⟨rfl, rfl, rfl, -⟩ := by simpa using here.symm.trans there
          rfl } }
  rw [read] at agree
  generalize (Grammar.mk length' arityOf).whole tokens = outcome at agree ⊢
  cases agree with
  | value same => rw [same]

/-- The same tokens are read as the same expression if their colons stand in names, and otherwise
there is a syntax error.
-/
theorem whole_of_like (read : (Grammar.mk length arityOf).whole tokens = .ok root)
    (like : List.Forall₂ Token.Like tokens others)
    : (Token.ColonsJoin arityOf others → (Grammar.mk length' arityOf).whole others = .ok root)
      ∧ (¬ Token.ColonsJoin arityOf others →
        ∃ fault, (Grammar.mk length' arityOf).whole others = .error (.malformed fault)) := by
  have here : (Grammar.mk length' arityOf).whole tokens = .ok root := whole_eq_ok_of_length read
  refine ⟨fun join => ?_, fun noJoin => ?_⟩
  · have closed : Closed others tokens := ⟨(like.imp fun _ _ => Token.Like.symm).flip, join.gapless⟩
    obtain same | ⟨fault, malformed⟩ := whole_eq_or_malformed closed
    · rw [← same, here]
    · rw [here] at malformed
      cases malformed
  -- both are read beside the same tokens without any gaps
  · have closed {others : List Token} (like : List.Forall₂ Token.Like tokens others)
        : Closed (Token.closedUp 0 tokens) others :=
      ⟨Token.like_closedUp 0 like, Token.gapless_closedUp 0 tokens⟩
    obtain same | ⟨fault, malformed⟩ :=
      whole_eq_or_malformed (closed (List.forall₂_same.mpr fun _ _ => ⟨rfl, rfl⟩))
    · obtain same' | malformed := whole_eq_or_malformed (closed like)
      · exact absurd (colonsJoin_of_whole (same'.trans (same.symm.trans here))) noJoin
      · exact malformed
    · rw [here] at malformed
      cases malformed

end Grammar

-----------------------------------------------------------------------------------------
-- Expressions
-----------------------------------------------------------------------------------------

/-- The colons of an expression stand in names, without gaps unless the names are called. Another
text with the same tokens is read as the same expression if its colons stand so too, and otherwise
there is a syntax error.
-/
theorem Expression.ofText_colons {arityOf : String → Option Arity} {source : String}
    {tokens : List Token} {expression : Expression} (split : Token.ofText source = .ok tokens)
    (read : ofText arityOf source = .ok expression)
    : Token.ColonsJoin arityOf tokens
      ∧ ∀ other others, Token.ofText other = .ok others → List.Forall₂ Token.Like tokens others →
        (Token.ColonsJoin arityOf others → ofText arityOf other = .ok ⟨expression.root, other⟩)
        ∧ (¬ Token.ColonsJoin arityOf others →
          ∃ fault, ofText arityOf other = .error (.malformed fault)) := by
  obtain ⟨_, again, read, -⟩ := (ofText_eq_ok_iff arityOf source expression).mp read
  obtain rfl := Except.ok.inj (split.symm.trans again)
  refine ⟨Grammar.colonsJoin_of_whole read, fun other others split like => ?_⟩
  rw [ofText_eq_map split]
  obtain ⟨same, malformed⟩ := Grammar.whole_of_like read like
  refine ⟨fun join => ?_, fun noJoin => ?_⟩
  · rw [same join]
    rfl
  · obtain ⟨fault, malformed⟩ := malformed noJoin
    exact ⟨fault, by rw [malformed]; rfl⟩

/-- The name of a test is not read with blanks around its colon. -/
theorem Expression.ofText_colons_test
    : Token.ColonsJoin (fun _ => none)
        [⟨0, "/", .slash⟩, ⟨1, "p", .name⟩, ⟨2, ":", .colon⟩, ⟨3, "a", .name⟩]
      ∧ ∃ fault, ofText (fun _ => none) "/p : a" = .error (.malformed fault) := by
  have split : Token.ofText "/p:a"
      = .ok [⟨0, "/", .slash⟩, ⟨1, "p", .name⟩, ⟨2, ":", .colon⟩, ⟨3, "a", .name⟩] := by cbv
  have splitOther : Token.ofText "/p : a"
      = .ok [⟨0, "/", .slash⟩, ⟨1, "p", .name⟩, ⟨3, ":", .colon⟩, ⟨5, "a", .name⟩] := by cbv
  have read : ofText (fun _ => none) "/p:a"
      = .ok ⟨.path true [.mk "child" (.name (some "p") "a") []], "/p:a"⟩ := by cbv
  obtain ⟨join, others⟩ := ofText_colons split read
  refine ⟨join, (others _ _ splitOther (by repeat' constructor)).2 fun join => ?_⟩
  obtain ⟨_, name, _, _, before, after, -, joins⟩ := join [_, _] _ [_] rfl rfl
  obtain rfl : ⟨1, "p", .name⟩ = name := by simpa using congrArg List.getLast? before
  obtain ⟨rfl, rfl⟩ := List.cons.inj after
  cases joins with
  | adjacent _ contiguous => exact absurd contiguous.1 (by decide)
  | called _ _ known => cases known

/-- A primary expression is an expression. -/
def Grammar.Derivation.alone {grammar : Grammar} {tokens rest : List Token}
    (primary : grammar.Derivation .primary tokens rest)
    : grammar.Derivation .whole tokens rest :=
  .operands (.operands (.operands (.operands (.operands (.operands (.plain (.operands
    (.filtered primary .noPredicate)
    .noOperation)) .noOperation) .noOperation) .noOperation) .noOperation) .noOperation) .noOperation

/-- The name of a call is read with blanks around its colon. -/
theorem Expression.ofText_spacedCall
    : Token.ofText "p : f()"
        = .ok [⟨0, "p", .name⟩, ⟨2, ":", .colon⟩, ⟨4, "f", .name⟩, ⟨5, "(", .openParenthesis⟩,
          ⟨6, ")", .closeParenthesis⟩]
      ∧ ofText (fun name => if name = "p:f" then some ⟨0, some 0⟩ else none) "p : f()"
        = .ok ⟨.call "p:f" [], "p : f()"⟩
      ∧ ¬ (Token.mk 0 "p" .name).Contiguous ⟨2, ":", .colon⟩ ⟨4, "f", .name⟩ := by
  have split : Token.ofText "p : f()"
      = .ok [⟨0, "p", .name⟩, ⟨2, ":", .colon⟩, ⟨4, "f", .name⟩, ⟨5, "(", .openParenthesis⟩,
        ⟨6, ")", .closeParenthesis⟩] := by cbv
  let call : Grammar.Derivation ⟨7, fun name => if name = "p:f" then some ⟨0, some 0⟩ else none⟩
      .primary [⟨0, "p", .name⟩, ⟨2, ":", .colon⟩, ⟨4, "f", .name⟩, ⟨5, "(", .openParenthesis⟩,
        ⟨6, ")", .closeParenthesis⟩] [] :=
    .qualifiedCall _ _ rfl (by decide) rfl rfl rfl .noArgument rfl (by cbv)
  refine ⟨split, ?_, fun contiguous => absurd contiguous.1 (by decide)⟩
  rw [ofText_eq_map split]
  exact congrArg _ call.alone.whole_eq

end PathQuery
