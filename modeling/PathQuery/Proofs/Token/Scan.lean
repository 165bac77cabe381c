import PathQuery.Proofs.Token.Lexeme

/-! The tokens of a source cover it up to the blanks between them, each with the longest lexeme at
its place. Where a source has none, it is covered up to the first place at which no lexeme begins.
-/

namespace PathQuery

-----------------------------------------------------------------------------------------
-- Reading a part of a text
-----------------------------------------------------------------------------------------

/-- A text with some position is read into tokens. Their lexemes are the longest ones that begin at
their places when the rest follows the text.
-/
inductive Token.Reads (rest : List Char) : Nat → List Char → List Token → Prop
  | done {position : Nat} : Reads rest position [] []
  | blank {position : Nat} {c : Char} {text : List Char} {tokens : List Token}
    (blank : Text.isBlank c) (next : Reads rest (position + 1) text tokens)
    : Reads rest position (c :: text) tokens
  | token {position : Nat} {kind : TokenKind} {lexeme text : List Char} {tokens : List Token}
    (longest : Longest (lexeme ++ (text ++ rest)) kind lexeme)
    (next : Reads rest (position + lexeme.length) text tokens)
    : Reads rest position (lexeme ++ text) (⟨position, String.ofList lexeme, kind⟩ :: tokens)

namespace Token

variable {source text rest : List Char} {position : Nat} {tokens : List Token}

/-- The longest lexeme of a text is the longest one of every part that it fits into. -/
theorem Longest.of_prefix {part lexeme : List Char} {kind : TokenKind}
    (longest : Longest text kind lexeme) (fits : lexeme <+: part) (inside : part <+: text)
    : Longest part kind lexeme where
  begins := fits
  spells := longest.spells
  longest other more begins spelled := longest.longest other more (begins.trans inside) spelled

/-- What follows a text is not needed to read it. -/
theorem Reads.alone (reads : Reads rest position text tokens) : Reads [] position text tokens := by
  induction reads with
  | done => exact .done
  | blank blank _ ih => exact .blank blank ih
  | @token position kind lexeme text tokens longest _ ih =>
      refine .token (longest.of_prefix (List.prefix_append _ _) ?_) ih
      rw [List.append_nil]
      exact (List.prefix_append_right_inj _).mpr (List.prefix_append _ _)

/-- A text that is read is scanned into the same tokens. -/
theorem Reads.scan_eq (reads : Reads [] position text tokens)
    : scan position text = .ok tokens := by
  induction reads with
  | done => rw [scan]
  | blank blank _ ih => rw [scan, if_pos blank, ih]
  | @token position kind lexeme text tokens longest _ ih =>
      obtain ⟨c, more, rfl, unblank⟩ := exists_start longest.spells
      rw [List.append_nil] at longest
      have taken := longest.lexemeAt?_eq
      rw [List.cons_append] at taken ⊢
      rw [scan, if_neg unblank, taken]
      simp only [List.length_cons, Nat.add_sub_cancel, List.drop_left, List.take_left]
      rw [Nat.add_assoc, Nat.add_comm 1, ← List.length_cons (a := c), ih]
      rfl

/-- What a scan comes to: the tokens that a text is read into, or the first place after a part that
is read where no lexeme begins.
-/
inductive Outcome (position : Nat) (text : List Char) : Except Malformed (List Token) → Prop
  | whole {tokens : List Token} (reads : Reads [] position text tokens)
    : Outcome position text (.ok tokens)
  | part {done more : List Char} {c : Char} {tokens : List Token} (parts : text = done ++ c :: more)
    (reads : Reads (c :: more) position done tokens) (unblank : ¬ Text.isBlank c)
    (free : lexemeAt? (c :: more) = none)
    : Outcome position text (.error ⟨position + done.length,
        if isQuote c then .unterminatedString else .unrecognizedToken⟩)

theorem Outcome.blank {c : Char} {result : Except Malformed (List Token)} (blank : Text.isBlank c)
    (next : Outcome (position + 1) text result)
    : Outcome position (c :: text) result := by
  cases next with
  | whole reads => exact .whole (.blank blank reads)
  | part parts reads unblank free =>
      rw [Nat.add_assoc, Nat.add_comm 1, ← List.length_cons (a := c)]
      exact .part (by rw [parts]; rfl) (.blank blank reads) unblank free

theorem Outcome.token {kind : TokenKind} {lexeme : List Char}
    {result : Except Malformed (List Token)} (longest : Longest (lexeme ++ text) kind lexeme)
    (next : Outcome (position + lexeme.length) text result)
    : Outcome position (lexeme ++ text)
        (result.map (⟨position, String.ofList lexeme, kind⟩ :: ·)) := by
  cases next with
  | whole reads => exact .whole (.token (by rwa [List.append_nil]) reads)
  | part parts reads unblank free =>
      subst parts
      rw [Nat.add_assoc, ← List.length_append]
      exact .part (by simp) (.token longest reads) unblank free

/-- A scan comes to such an outcome, by induction along its steps. -/
theorem outcome_scan (position : Nat) (text : List Char)
    : Outcome position text (scan position text) := by
  fun_induction scan position text with
  | case1 => exact .whole .done
  | case2 position c rest blank ih => exact ih.blank blank
  | case3 position c rest unblank free => exact .part (List.nil_append _).symm .done unblank free
  | case4 position c rest unblank kind length taken more ih =>
      obtain ⟨lexeme, rfl, longest⟩ := longest_of_lexemeAt? taken
      obtain ⟨first, inner, rfl, -⟩ := exists_start longest.spells
      obtain ⟨after, split⟩ := longest.begins
      rw [List.cons_append, List.cons.injEq] at split
      obtain ⟨rfl, rfl⟩ := split
      have here : more = inner.length := by simp [more]
      have next : position + 1 + inner.length = position + (first :: inner).length := by
        rw [List.length_cons]
        omega
      rw [here, List.drop_left, next] at ih ⊢
      rw [List.take_left]
      exact ih.token longest

-----------------------------------------------------------------------------------------
-- Covering a source
-----------------------------------------------------------------------------------------

/-- A token takes the character that has some place. -/
def Takes (token : Token) (place : Nat) : Prop :=
  token.position ≤ place ∧ place < token.position + token.text.length

/-- The tokens of a source up to a stop: they stand in order and apart, each is the longest lexeme
of any class at its position, and what lies between them is blank.
-/
structure Cover (source : List Char) (stop : Nat) (tokens : List Token) : Prop where
  increasing : tokens.Pairwise (fun early late => early.position < late.position)
  apart : tokens.Pairwise (fun early late => early.position + early.text.length ≤ late.position)
  within : ∀ token ∈ tokens, token.position + token.text.length ≤ stop
  slices : ∀ token ∈ tokens,
    token.text.toList = (source.drop token.position).take token.text.length
  longest : ∀ token ∈ tokens, Longest (source.drop token.position) token.kind token.text.toList
  blanks : ∀ place c, source[place]? = some c → place < stop
    → (∀ token ∈ tokens, ¬ token.Takes place) → Text.isBlank c

theorem length_pos_of_spells {token : Token} (spelled : token.kind.Spells token.text.toList)
    : 0 < token.text.length := by
  obtain ⟨c, more, same, -⟩ := exists_start spelled
  rw [← String.length_toList, same]
  exact Nat.succ_pos _

theorem Reads.within (reads : Reads rest position text tokens)
    : ∀ token ∈ tokens, position ≤ token.position
        ∧ token.position + token.text.length ≤ position + text.length := by
  induction reads with
  | done => simp
  | blank _ _ ih =>
      intro token member
      obtain ⟨after, upTo⟩ := ih token member
      rw [List.length_cons]
      omega
  | @token position kind lexeme text tokens _ _ ih =>
      rw [List.forall_mem_cons]
      constructor
      · simp [String.length_ofList]
      · intro token member
        obtain ⟨after, upTo⟩ := ih token member
        rw [List.length_append]
        omega

theorem Reads.length_le (reads : Reads rest position text tokens)
    : tokens.length ≤ text.length := by
  induction reads with
  | done => exact le_rfl
  | blank _ _ ih => exact Nat.le_succ_of_le ih
  | token longest _ ih =>
      obtain ⟨first, inner, rfl, -⟩ := exists_start longest.spells
      rw [List.length_cons, List.length_append, List.length_cons]
      omega

theorem Reads.apart (reads : Reads rest position text tokens)
    : tokens.Pairwise (fun early late => early.position + early.text.length ≤ late.position) := by
  induction reads with
  | done => exact .nil
  | blank _ _ ih => exact ih
  | token _ next ih =>
      refine .cons ?_ ih
      intro late member
      rw [String.length_ofList]
      exact (next.within late member).1

theorem Reads.longest (reads : Reads rest position text tokens)
    (placed : source.drop position = text ++ rest)
    : ∀ token ∈ tokens, Longest (source.drop token.position) token.kind token.text.toList := by
  induction reads with
  | done => simp
  | blank _ _ ih =>
      refine ih ?_
      rw [← List.drop_drop, placed]
      rfl
  | token longest _ ih =>
      rw [List.forall_mem_cons]
      constructor
      · rw [placed, List.append_assoc, String.toList_ofList]
        exact longest
      · refine ih ?_
        rw [← List.drop_drop, placed, List.append_assoc, List.drop_left]

theorem Reads.blanks (reads : Reads rest position text tokens)
    : ∀ place c, text[place]? = some c → (∀ token ∈ tokens, ¬ token.Takes (position + place))
      → Text.isBlank c := by
  induction reads with
  | done => simp
  | blank blank _ ih =>
      intro place c found free
      cases place with
      | zero =>
          cases found
          exact blank
      | succ place =>
          refine ih place c found ?_
          rwa [Nat.add_assoc, Nat.add_comm 1]
  | @token position kind lexeme text tokens _ _ ih =>
      intro place c found free
      rw [List.forall_mem_cons] at free
      obtain ⟨here, free⟩ := free
      have past : lexeme.length ≤ place := by
        by_contra inside
        refine here ⟨Nat.le_add_right _ _, ?_⟩
        rw [String.length_ofList]
        exact Nat.add_lt_add_left (Nat.not_le.mp inside) position
      rw [List.getElem?_append_right past] at found
      refine ih _ c found ?_
      rwa [Nat.add_assoc, Nat.add_sub_cancel' past]

/-- A part of a source that is read is covered by its tokens, which agree with what follows. -/
theorem Reads.cover (reads : Reads rest 0 text tokens)
    : Cover (text ++ rest) text.length tokens where
  increasing := by
    refine reads.apart.imp_of_mem fun {early late} member _ apart => ?_
    have occupied := length_pos_of_spells (reads.longest rfl early member).spells
    omega
  apart := reads.apart
  within token member := by
    have inside := (reads.within token member).2
    rwa [Nat.zero_add] at inside
  slices token member := by
    rw [← String.length_toList]
    exact List.prefix_iff_eq_take.mp (reads.longest rfl token member).begins
  longest := reads.longest rfl
  blanks place c found before free := by
    rw [List.getElem?_append_left before] at found
    refine reads.blanks place c found ?_
    rwa [Nat.zero_add]

/-- The first place of a source at which no lexeme begins, after some tokens and the blanks between
them. What comes before it has these tokens.
-/
structure StopsAt (source : String) (malformed : Malformed) (tokens : List Token) : Prop where
  cover : Cover source.toList malformed.position tokens
  free : ∀ (kind : TokenKind) (lexeme : List Char),
    lexeme <+: source.toList.drop malformed.position → ¬ kind.Spells lexeme
  character : ∃ c, source.toList[malformed.position]? = some c ∧ ¬ Text.isBlank c
    ∧ malformed.problem = if isQuote c then .unterminatedString else .unrecognizedToken
  before : ofText (String.ofList (source.toList.take malformed.position)) = .ok tokens

theorem reads_of_ofText {source : String} {tokens : List Token}
    (split : ofText source = .ok tokens)
    : Reads [] 0 source.toList tokens := by
  have outcome := outcome_scan 0 source.toList
  rw [← ofText, split] at outcome
  cases outcome with
  | whole reads => exact reads

/-- A malformed source has a first place at which no lexeme begins. -/
theorem exists_stopsAt {source : String} {malformed : Malformed}
    (refused : ofText source = .error malformed)
    : ∃ tokens, StopsAt source malformed tokens := by
  have outcome := outcome_scan 0 source.toList
  rw [← ofText, refused] at outcome
  cases outcome with
  | @part done more c tokens parts reads unblank free =>
      refine ⟨tokens, ?_⟩
      rw [Nat.zero_add]
      constructor
      case cover =>
          rw [parts]
          exact reads.cover
      case free =>
          rw [parts, List.drop_left]
          exact lexemeAt?_eq_none_iff.mp free
      case character =>
          refine ⟨c, ?_, unblank, rfl⟩
          rw [parts, List.getElem?_append_right le_rfl, Nat.sub_self, List.getElem?_cons_zero]
      case before =>
          rw [ofText, String.toList_ofList, parts, List.take_left]
          exact reads.alone.scan_eq

/-- Every source is split into tokens that cover it, or is malformed at the first place at which
none begins.
-/
theorem ofText_covers_or_stops (source : String)
    : (∃ tokens, ofText source = .ok tokens ∧ Cover source.toList source.length tokens)
      ∨ ∃ malformed tokens, ofText source = .error malformed
        ∧ StopsAt source malformed tokens := by
  cases split : ofText source with
  | ok tokens =>
      have cover := (reads_of_ofText split).cover
      rw [List.append_nil, String.length_toList] at cover
      exact .inl ⟨tokens, rfl, cover⟩
  | error malformed =>
      obtain ⟨tokens, stops⟩ := exists_stopsAt split
      exact .inr ⟨malformed, tokens, rfl, stops⟩

example : ofText "1.." = .ok [⟨0, "1.", .number⟩, ⟨2, ".", .dot⟩] := by cbv

example : ofText "a 'b" = .error ⟨2, .unterminatedString⟩ := by cbv

end Token

end PathQuery
