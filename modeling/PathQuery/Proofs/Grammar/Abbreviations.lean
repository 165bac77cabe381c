import PathQuery.Proofs.Grammar.Completeness
import PathQuery.Proofs.Grammar.Spacing

/-! Abbreviations are read as what they stand for. Where double slashes, at signs, dots and double
dots are written out, or steps are given the axis of children, the same tree is read, since no
decision on what to read next changes.
-/

namespace PathQuery

-----------------------------------------------------------------------------------------
-- Abbreviations
-----------------------------------------------------------------------------------------

/-- The tokens of a step to all nodes on an axis, by their kinds and texts. -/
def allNodesOn (axis : String) : List (TokenKind × String) :=
  [(.name, axis), (.doubleColon, "::"), (.name, "node"), (.openParenthesis, "("),
    (.closeParenthesis, ")")]

/-- What the tokens of a kind abbreviate. -/
def TokenKind.expansion? : TokenKind → Option (List (TokenKind × String))
  | .doubleSlash => some ((.slash, "/") :: (allNodesOn "descendant-or-self" ++ [(.slash, "/")]))
  | .at => some [(.name, "attribute"), (.doubleColon, "::")]
  | .dot => some (allNodesOn "self")
  | .doubleDot => some (allNodesOn "parent")
  | _ => none

/-- Some tokens, in any positions, are those that an abbreviation stands for. -/
def Token.ExpandsTo (sign : Token) (inserted : List Token) : Prop :=
  sign.kind.expansion? = some (inserted.map fun token => (token.kind, token.text))

namespace Grammar

/-- One abbreviation among the tokens of an expression is written out, a step that names no axis is
given that of children, or the tokens are moved without parting qualified names.
-/
inductive Expands (grammar : Grammar) : List Token → List Token → Prop
  | sign {sign : Token} {inserted : List Token} (before after : List Token)
    (expands : sign.ExpandsTo inserted)
    : Expands grammar (before ++ sign :: after) (before ++ (inserted ++ after))
  | child {axis colons : Token} {before place : List Token}
    (derivation : grammar.Derivation .whole (before ++ place) [])
    (begins : place ∈ derivation.childSteps) (child : axis.Is .name "child")
    (isDouble : colons.Is .doubleColon "::")
    : Expands grammar (before ++ place) (before ++ ([axis, colons] ++ place))
  | moved {tokens others : List Token} (respaced : Respaced tokens others)
    : Expands grammar tokens others

-----------------------------------------------------------------------------------------
-- Signs that are written out
-----------------------------------------------------------------------------------------

/-- Any of the abbreviations among some tokens are written out. -/
inductive WrittenOut : List Token → List Token → Prop
  | nil : WrittenOut [] []
  | kept (token : Token) {rest rest' : List Token} (next : WrittenOut rest rest')
    : WrittenOut (token :: rest) (token :: rest')
  | expanded {sign : Token} {inserted rest rest' : List Token} (expands : sign.ExpandsTo inserted)
    (next : WrittenOut rest rest')
    : WrittenOut (sign :: rest) (inserted ++ rest')

/-- Some tokens are taken also where abbreviations are written out. -/
def Keeps (takes : List Token → List Token → Prop) (tokens rest : List Token) : Prop :=
  ∀ tokens', WrittenOut tokens tokens' → ∃ rest', WrittenOut rest rest' ∧ takes tokens' rest'

namespace WrittenOut

variable {tokens tokens' rest rest' : List Token}

theorem refl : (tokens : List Token) → WrittenOut tokens tokens
  | [] => .nil
  | token :: rest => .kept token (refl rest)

theorem before (written : WrittenOut rest rest')
    : (before : List Token) → WrittenOut (before ++ rest) (before ++ rest')
  | [] => written
  | token :: before => .kept token (written.before before)

/-- A token that is no abbreviation stays as it is. -/
theorem exists_kept {token : Token} (written : WrittenOut (token :: rest) tokens')
    (plain : token.kind.expansion? = none)
    : ∃ rest', tokens' = token :: rest' ∧ WrittenOut rest rest' := by
  cases written with
  | kept _ next => exact ⟨_, rfl, next⟩
  | expanded expands => cases plain.symm.trans expands

end WrittenOut

/-- A double slash is written out as steps between slashes. -/
theorem exists_slashes {sign : Token} {inserted : List Token} (expands : sign.ExpandsTo inserted)
    (isDouble : sign.kind = .doubleSlash)
    : ∃ first nodes last, inserted = first :: (nodes ++ [last])
      ∧ first.kind = .slash ∧ last.kind = .slash
      ∧ nodes.map (fun token => (token.kind, token.text)) = allNodesOn "descendant-or-self" := by
  rw [Token.ExpandsTo, isDouble, TokenKind.expansion?, Option.some.injEq, eq_comm] at expands
  obtain ⟨first, inserted, rfl, here, expands⟩ := List.map_eq_cons_iff.mp expands
  obtain ⟨nodes, inserted, rfl, all, expands⟩ := List.map_eq_append_iff.mp expands
  obtain ⟨last, rfl, there⟩ := List.map_eq_singleton_iff.mp expands
  exact ⟨first, nodes, last, rfl, congrArg Prod.fst here, congrArg Prod.fst there, all⟩

/-- A step can begin with what is written out only if one can begin with the abbreviation. -/
theorem WrittenOut.startsStep {rest rest' : List Token} (written : WrittenOut rest rest')
    : StartsStep rest' → StartsStep rest := by
  intro starts
  cases written with
  | nil => exact starts
  | kept => exact startsStep_cons.mpr (startsStep_cons.mp starts)
  | @expanded sign inserted rest rest' expands next =>
      by_cases isDouble : sign.kind = .doubleSlash
      · obtain ⟨first, nodes, last, rfl, isSlash, -⟩ := exists_slashes expands isDouble
        rw [List.cons_append, startsStep_cons, startsStep_iff, isSlash] at starts
        exact absurd starts (by decide)
      · rw [startsStep_cons, startsStep_iff]
        rw [Token.ExpandsTo] at expands
        cases kind : sign.kind <;> simp_all [TokenKind.expansion?, stepKinds]

namespace Keeps

variable {takes next : List Token → List Token → Prop} {tokens middle rest : List Token}

theorem nothing (always : ∀ rest, takes rest rest) : Keeps takes rest rest :=
  fun rest' written => ⟨rest', written, always rest'⟩

theorem imp (keeps : Keeps takes tokens rest)
    (more : ∀ tokens rest, takes tokens rest → next tokens rest)
    : Keeps next tokens rest := by
  intro tokens' written
  obtain ⟨rest', left, takes⟩ := keeps tokens' written
  exact ⟨rest', left, more _ _ takes⟩

theorem followed (first : Keeps takes tokens middle) (second : Keeps next middle rest)
    : Keeps (Relation.Comp takes next) tokens rest := by
  intro tokens' written
  obtain ⟨middle', written, takes⟩ := first tokens' written
  obtain ⟨rest', left, takesNext⟩ := second middle' written
  exact ⟨rest', left, middle', takes, takesNext⟩

theorem token {token : Token} (plain : token.kind.expansion? = none)
    : Keeps (· = token :: ·) (token :: rest) rest := by
  intro tokens' written
  obtain ⟨rest', rfl, left⟩ := written.exists_kept plain
  exact ⟨rest', left, rfl⟩

theorem opened {token : Token} {kind : TokenKind} (second : Keeps next tokens rest)
    (same : token.kind = kind) (plain : kind.expansion? = none)
    : Keeps (Relation.Comp (· = token :: ·) next) (token :: tokens) rest :=
  (Keeps.token (same ▸ plain)).followed second

end Keeps

-----------------------------------------------------------------------------------------
-- Derivations
-----------------------------------------------------------------------------------------

variable {grammar : Grammar} {tokens rest : List Token}

/-- What is written for all nodes on an axis makes a step to them. -/
theorem derives_allNodesOn {axis : String} {nodes : List Token}
    (all : nodes.map (fun token => (token.kind, token.text)) = allNodesOn axis)
    (known : (Axis.ofName? axis).isSome) (rest : List Token)
    : grammar.Derives .step (nodes ++ rest) (.mk axis (.nodeType "node") []) rest := by
  simp only [allNodesOn, List.map_eq_cons_iff, List.map_eq_nil_iff, Prod.mk.injEq] at all
  obtain ⟨name, _, rfl, ⟨isName, rfl⟩, colons, _, rfl, ⟨isDouble, -⟩, type, _, rfl,
    ⟨isType, node⟩, opener, _, rfl, ⟨opens, -⟩, closer, _, rfl, ⟨closes, -⟩, rfl⟩ := all
  have isNode : isNodeTypeName type.text := node ▸ by decide
  refine ⟨.onAxis name isName known isDouble (.nodeType type isType isNode opens closes)
    .noPredicate, ?_⟩
  show Step.mk name.text (nodeTypeTest type.text) [] = _
  rw [node]
  rfl

/-- The steps after a separator stay the same where that and abbreviations in them are written out.
-/
theorem keeps_separated {separator : Token} {between steps : List Step}
    (separates : separatorSteps? separator = some between)
    (keeps : Keeps (grammar.Derives .relative · steps ·) tokens rest) {tokens' : List Token}
    (written : WrittenOut (separator :: tokens) tokens')
    : ∃ separator' between' steps' further rest', tokens' = separator' :: further
      ∧ separatorSteps? separator' = some between' ∧ between' ++ steps' = between ++ steps
      ∧ WrittenOut rest rest' ∧ grammar.Derives .relative further steps' rest' := by
  cases written with
  | kept _ next =>
      obtain ⟨rest', left, derives⟩ := keeps _ next
      exact ⟨separator, between, steps, _, rest', rfl, separates, rfl, left, derives⟩
  | @expanded _ inserted _ tokens' expands next =>
      have isDouble : separator.kind = .doubleSlash := by
        rcases kind_of_separatorSteps? separates with isSlash | isDouble
        · rw [Token.ExpandsTo, isSlash] at expands
          cases expands
        · exact isDouble
      obtain ⟨first, nodes, last, rfl, isFirst, isLast, all⟩ := exists_slashes expands isDouble
      obtain ⟨rest', left, derivation, same⟩ := keeps _ next
      have derives : grammar.Derives .step _ _ (last :: tokens') :=
        derives_allNodesOn all (by decide) (last :: tokens')
      obtain ⟨step, stepTree⟩ := derives
      have slash {token : Token} (isSlash : token.kind = .slash)
          : separatorSteps? token = some [] := by
        rw [separatorSteps?, if_pos isSlash]
      rw [separatorSteps?, isDouble] at separates
      cases separates
      cases derivation with
      | stepwise next others =>
          refine ⟨first, [], .anywhereBelow :: steps, nodes ++ last :: tokens', rest', ?_,
            slash isFirst, rfl, left, ?_⟩
          · rw [List.cons_append, List.append_assoc]
            rfl
          · exact ⟨.stepwise step (.furtherStep [] (slash isLast) next others),
              congr (congrArg List.cons stepTree) same⟩

/-- The same is derived where abbreviations are written out, by induction on the derivation. -/
theorem Derivation.keeps {part : Part} (derivation : grammar.Derivation part tokens rest)
    : Keeps (grammar.Derives part · derivation.tree ·) tokens rest := by
  induction derivation with
  | operands _ _ first others =>
      refine (first.followed others).imp ?_
      rintro _ _ ⟨_, ⟨first, left⟩, others, change⟩
      exact ⟨.operands first others, congr change left⟩
  | noOperation => exact .nothing fun _ => ⟨.noOperation, rfl⟩
  | @operation _ token _ _ _ combine operator _ _ right others =>
      have plain : token.kind.expansion? = none := by
        rcases Level.kind_of_operation? operator with kind | kind | kind | kind <;>
          rw [kind] <;> rfl
      refine ((right.followed others).opened rfl plain).imp ?_
      rintro _ _ ⟨_, rfl, _, ⟨right, same⟩, others, change⟩
      refine ⟨.operation combine operator right others, ?_⟩
      show (fun left => others.tree (combine left right.tree)) = _
      rw [change, same]
      rfl
  | negated minus _ operand =>
      refine (operand.opened minus.1 rfl).imp ?_
      rintro _ _ ⟨_, rfl, operand, same⟩
      exact ⟨.negated minus operand, congrArg Expr.negate same⟩
  | plain _ operand =>
      refine operand.imp ?_
      rintro _ _ ⟨operand, same⟩
      exact ⟨.plain operand, same⟩
  | located _ path =>
      refine path.imp ?_
      rintro _ _ ⟨path, same⟩
      exact ⟨.located path, same⟩
  | filtered _ _ primary predicates =>
      refine (primary.followed predicates).imp ?_
      rintro _ _ ⟨_, ⟨primary, first⟩, predicates, list⟩
      exact ⟨.filtered primary predicates, congr (congrArg filter first) list⟩
  | continued between _ _ separates _ primary predicates steps =>
      intro tokens' written
      obtain ⟨middle, written, primary, first⟩ := primary tokens' written
      obtain ⟨later, written, predicates, list⟩ := predicates middle written
      obtain ⟨separator, between', _, further, rest', rfl, separates', same, left, steps, rfl⟩ :=
        keeps_separated separates steps written
      refine ⟨rest', left, .continued between' primary predicates separates' steps, ?_⟩
      exact congr (congrArg Expr.continued (congr (congrArg filter first) list)) same
  | fromContext _ steps =>
      refine steps.imp ?_
      rintro _ _ ⟨steps, same⟩
      exact ⟨.fromContext steps, congrArg (Expr.path false) same⟩
  | root isSlash alone =>
      intro tokens' written
      obtain ⟨rest', rfl, left⟩ := written.exists_kept (isSlash ▸ rfl)
      have stillAlone : ∀ next ∈ rest'.head?, ¬ startsStep next := by
        intro next first step
        obtain ⟨other, here, also⟩ := left.startsStep ⟨next, first, step⟩
        exact alone other here also
      exact ⟨rest', left, .root isSlash stillAlone, rfl⟩
  | fromRoot isSlash _ steps =>
      refine (steps.opened isSlash rfl).imp ?_
      rintro _ _ ⟨_, rfl, steps, same⟩
      exact ⟨.fromRoot isSlash steps, congrArg (Expr.path true) same⟩
  | @anywhere slash _ _ isDouble _ steps =>
      intro tokens' written
      have separates : separatorSteps? slash = some [.anywhereBelow] := by
        rw [separatorSteps?, isDouble]
        rfl
      obtain ⟨separator, between', _, further, rest', rfl, separates', same, left, steps, rfl⟩ :=
        keeps_separated separates steps written
      refine ⟨rest', left, ?_⟩
      rw [separatorSteps?] at separates'
      split at separates'
      case isTrue isSlash =>
        cases separates'
        exact ⟨.fromRoot isSlash steps, congrArg (Expr.path true) same⟩
      case isFalse =>
        split at separates'
        case isTrue isDouble =>
          cases separates'
          exact ⟨.anywhere isDouble steps, congrArg (Expr.path true) same⟩
        case isFalse => cases separates'
  | stepwise _ _ first others =>
      refine (first.followed others).imp ?_
      rintro _ _ ⟨_, ⟨first, step⟩, others, list⟩
      exact ⟨.stepwise first others, congr (congrArg List.cons step) list⟩
  | noStep => exact .nothing fun _ => ⟨.noStep, rfl⟩
  | @furtherStep _ tokens _ rest between separates next others keepsNext keepsOthers =>
      intro tokens' written
      have keeps
          : Keeps (grammar.Derives .relative · (next.tree :: others.tree) ·) tokens rest := by
        refine (keepsNext.followed keepsOthers).imp ?_
        rintro _ _ ⟨_, ⟨next, step⟩, others, list⟩
        exact ⟨.stepwise next others, congr (congrArg List.cons step) list⟩
      obtain ⟨separator, between', _, further, rest', rfl, separates', same, left, steps, rfl⟩ :=
        keeps_separated separates keeps written
      cases steps with
      | stepwise next others =>
          exact ⟨rest', left, .furtherStep between' separates' next others, same⟩
  | self isDot =>
      intro tokens' written
      cases written with
      | kept _ left => exact ⟨_, left, .self isDot, rfl⟩
      | expanded expands left =>
          rw [Token.ExpandsTo, isDot] at expands
          exact ⟨_, left, derives_allNodesOn (Option.some.inj expands).symm (by decide) _⟩
  | parent isDouble =>
      intro tokens' written
      cases written with
      | kept _ left => exact ⟨_, left, .parent isDouble, rfl⟩
      | expanded expands left =>
          rw [Token.ExpandsTo, isDouble] at expands
          exact ⟨_, left, derives_allNodesOn (Option.some.inj expands).symm (by decide) _⟩
  | onAttributes isAt _ _ test predicates =>
      intro tokens' written
      cases written with
      | kept _ written =>
          obtain ⟨rest', left, _, ⟨test, same⟩, predicates, list⟩ :=
            (test.followed predicates) _ written
          exact ⟨rest', left, .onAttributes isAt test predicates,
            congr (congrArg (Step.mk "attribute") same) list⟩
      | expanded expands written =>
          obtain ⟨rest', left, _, ⟨test, same⟩, predicates, list⟩ :=
            (test.followed predicates) _ written
          rw [Token.ExpandsTo, isAt, TokenKind.expansion?, Option.some.injEq, eq_comm] at expands
          simp only [List.map_eq_cons_iff, List.map_eq_nil_iff, Prod.mk.injEq] at expands
          obtain ⟨name, _, rfl, ⟨isName, text⟩, colons, _, rfl, ⟨isDouble, -⟩, rfl⟩ := expands
          have known : (Axis.ofName? name.text).isSome := text ▸ by decide
          exact ⟨rest', left, .onAxis name isName known isDouble test predicates,
            congr (congr (congrArg Step.mk text) same) list⟩
  | onAxis name isName known isDouble _ _ test predicates =>
      refine (((test.followed predicates).opened isDouble rfl).opened isName rfl).imp ?_
      rintro _ _ ⟨_, rfl, _, rfl, _, ⟨test, same⟩, predicates, list⟩
      exact ⟨.onAxis name isName known isDouble test predicates,
        congr (congrArg (Step.mk name.text) same) list⟩
  | onChildren _ _ test predicates =>
      refine (test.followed predicates).imp ?_
      rintro _ _ ⟨_, ⟨test, same⟩, predicates, list⟩
      exact ⟨.onChildren test predicates, congr (congrArg (Step.mk "child") same) list⟩
  | noPredicate => exact .nothing fun _ => ⟨.noPredicate, rfl⟩
  | predicate opens _ closes _ inside others =>
      refine ((inside.followed (others.opened closes rfl)).opened opens rfl).imp ?_
      rintro _ _ ⟨_, rfl, _, ⟨inside, same⟩, _, rfl, others, list⟩
      exact ⟨.predicate opens inside closes others, congr (congrArg List.cons same) list⟩
  | anyName isAsterisk =>
      refine (Keeps.token (isAsterisk ▸ rfl)).imp ?_
      rintro _ _ rfl
      exact ⟨.anyName isAsterisk, rfl⟩
  | plainName name isName =>
      refine (Keeps.token (isName ▸ rfl)).imp ?_
      rintro _ _ rfl
      exact ⟨.plainName name isName, rfl⟩
  | qualified name part isName continues =>
      obtain ⟨isColon, isPart⟩ := kind_of_continuesName continues
      have plain : part.kind.expansion? = none := by
        rcases isPart with kind | kind <;> rw [kind] <;> rfl
      refine (((Keeps.token plain).opened isColon rfl).opened isName rfl).imp ?_
      rintro _ _ ⟨_, rfl, _, rfl, rfl⟩
      exact ⟨.qualified name part isName continues, rfl⟩
  | nodeType name isName known opens closes =>
      refine (((Keeps.token (closes ▸ rfl)).opened opens rfl).opened isName rfl).imp ?_
      rintro _ _ ⟨_, rfl, _, rfl, rfl⟩
      exact ⟨.nodeType name isName known opens closes, rfl⟩
  | target literal isName known opens isString closes =>
      refine ((((Keeps.token (closes ▸ rfl)).opened isString rfl).opened opens rfl).opened
        isName rfl).imp ?_
      rintro _ _ ⟨_, rfl, _, rfl, _, rfl, rfl⟩
      exact ⟨.target literal isName known opens isString closes, rfl⟩
  | number numeral isNumber =>
      refine (Keeps.token (isNumber ▸ rfl)).imp ?_
      rintro _ _ rfl
      exact ⟨.number numeral isNumber, rfl⟩
  | string literal isString =>
      refine (Keeps.token (isString ▸ rfl)).imp ?_
      rintro _ _ rfl
      exact ⟨.string literal isString, rfl⟩
  | reference dollar isVariable =>
      refine (Keeps.token (isVariable ▸ rfl)).imp ?_
      rintro _ _ rfl
      exact ⟨.reference dollar isVariable, rfl⟩
  | enclosed opens _ closes inside =>
      refine ((inside.followed (Keeps.token (closes ▸ rfl))).opened opens rfl).imp ?_
      rintro _ _ ⟨_, rfl, _, ⟨inside, same⟩, rfl⟩
      exact ⟨.enclosed opens inside closes, same⟩
  | call name isName noType opens _ closes accepted arguments =>
      refine (((arguments.followed (Keeps.token (closes ▸ rfl))).opened opens rfl).opened
        isName rfl).imp ?_
      rintro _ _ ⟨_, rfl, _, rfl, _, ⟨arguments, same⟩, rfl⟩
      exact ⟨.call name isName noType opens arguments closes accepted,
        congrArg (Expr.call name.text) same⟩
  | qualifiedCall name part isName noType isColon isPart opens _ closes accepted arguments =>
      refine (((((arguments.followed (Keeps.token (closes ▸ rfl))).opened opens rfl).opened
        isPart rfl).opened isColon rfl).opened isName rfl).imp ?_
      rintro _ _ ⟨_, rfl, _, rfl, _, rfl, _, rfl, _, ⟨arguments, same⟩, rfl⟩
      exact ⟨.qualifiedCall name part isName noType isColon isPart opens arguments closes accepted,
        congrArg (Expr.call (name.text ++ ":" ++ part.text)) same⟩
  | noArgument => exact .nothing fun _ => ⟨.noArgument, rfl⟩
  | someArguments _ _ first others =>
      refine (first.followed others).imp ?_
      rintro _ _ ⟨_, ⟨first, same⟩, others, list⟩
      exact ⟨.someArguments first others, congr (congrArg List.cons same) list⟩
  | noFurtherArgument => exact .nothing fun _ => ⟨.noFurtherArgument, rfl⟩
  | furtherArgument isComma _ _ next others =>
      refine ((next.followed others).opened isComma rfl).imp ?_
      rintro _ _ ⟨_, rfl, _, ⟨next, same⟩, others, list⟩
      exact ⟨.furtherArgument isComma next others, congr (congrArg List.cons same) list⟩

-----------------------------------------------------------------------------------------
-- Expressions
-----------------------------------------------------------------------------------------

theorem whole_of_signs {root : Expr} {tokens' : List Token} (read : grammar.whole tokens = .ok root)
    (written : WrittenOut tokens tokens')
    : grammar.whole tokens' = .ok root := by
  obtain ⟨derivation, rfl⟩ := derives_whole read
  obtain ⟨_, ⟨⟩, again, same⟩ := derivation.keeps tokens' written
  rw [again.whole_eq, same]

theorem whole_of_child {root : Expr} {axis colons : Token} {before place : List Token}
    (derivation : grammar.Derivation .whole (before ++ place) [])
    (begins : place ∈ derivation.childSteps) (child : axis.Is .name "child")
    (isDouble : colons.kind = .doubleColon) (read : grammar.whole (before ++ place) = .ok root)
    : grammar.whole (before ++ ([axis, colons] ++ place)) = .ok root := by
  have flexible := derivation.flexible (Admits.refl grammar) child isDouble
  obtain ⟨before', same, -, again, tree⟩ := flexible.grows place begins
  rw [List.append_cancel_right same, again.whole_eq, tree, ← derivation.whole_eq, read]

theorem whole_of_moved {root : Expr} {others : List Token} (respaced : Respaced tokens others)
    (read : grammar.whole tokens = .ok root)
    : grammar.whole others = .ok root := by
  have agree := Respacing.agree_whole
    { first := grammar, second := grammar, tokens, others, arityOf_eq := rfl, respaced }
  simp only [read] at agree
  generalize grammar.whole others = outcome at agree
  cases agree with
  | value same => exact congrArg Except.ok same.symm

/-- Tokens with abbreviations are read as they are when these are written out, one after another,
and the tree has the structure of itself.
-/
theorem whole_of_expands {root : Expr} {others : List Token}
    (read : grammar.whole tokens = .ok root)
    (expands : Relation.ReflTransGen grammar.Expands tokens others)
    : grammar.whole others = .ok root ∧ (Token.HaveNumerals tokens → root.same root) := by
  refine ⟨?_, same_of_whole read⟩
  induction expands with
  | refl => exact read
  | tail _ step again =>
      cases step with
      | sign before after expands =>
          exact whole_of_signs again (.before (.expanded expands (.refl after)) before)
      | child derivation begins child isDouble =>
          exact whole_of_child derivation begins child isDouble.1 again
      | moved respaced => exact whole_of_moved respaced again

/-- A path that begins with a double slash. -/
theorem whole_of_expands_anywhere
    : Grammar.whole ⟨3, fun _ => none⟩ [⟨0, "//", .doubleSlash⟩, ⟨2, "a", .name⟩]
        = .ok (.path true [.anywhereBelow, .mk "child" (.name none "a") []])
      ∧ Grammar.whole ⟨3, fun _ => none⟩
          [⟨0, "/", .slash⟩, ⟨1, "descendant-or-self", .name⟩, ⟨19, "::", .doubleColon⟩,
            ⟨21, "node", .name⟩, ⟨25, "(", .openParenthesis⟩, ⟨26, ")", .closeParenthesis⟩,
            ⟨27, "/", .slash⟩, ⟨2, "a", .name⟩]
        = .ok (.path true [.anywhereBelow, .mk "child" (.name none "a") []]) := by
  have read : Grammar.whole ⟨3, fun _ => none⟩ [⟨0, "//", .doubleSlash⟩, ⟨2, "a", .name⟩]
      = .ok (.path true [.anywhereBelow, .mk "child" (.name none "a") []]) := by cbv
  have written : Token.ExpandsTo ⟨0, "//", .doubleSlash⟩
      [⟨0, "/", .slash⟩, ⟨1, "descendant-or-self", .name⟩, ⟨19, "::", .doubleColon⟩,
        ⟨21, "node", .name⟩, ⟨25, "(", .openParenthesis⟩, ⟨26, ")", .closeParenthesis⟩,
        ⟨27, "/", .slash⟩] := rfl
  exact ⟨read, (whole_of_expands read (.single (.sign [] [⟨2, "a", .name⟩] written))).1⟩

end Grammar

end PathQuery
