import PathQuery.Proofs.Token.Scan

/-! Texts that are joined at a blank have the tokens of both, since a lexeme goes past a blank only
in a string, which ends at its own quote. A text can be taken apart before each of its tokens.
-/

namespace PathQuery.Token

variable {text rest more lexeme : List Char} {kind : TokenKind} {b : Char} {position : Nat}
  {tokens before after others : List Token}

-----------------------------------------------------------------------------------------
-- Lexemes before a blank
-----------------------------------------------------------------------------------------

theorem not_isBlank_of_isNameCharacter {c : Char} (continues : Text.isNameCharacter c)
    : ¬ Text.isBlank c := by
  intro blank
  simp only [Text.isBlank, Bool.or_eq_true, beq_iff_eq] at blank
  rcases blank with ((rfl | rfl) | rfl) | rfl <;> exact absurd continues (by decide)

theorem marks_unblank : ∀ mark ∈ TokenKind.marks, ¬ mark.2.any Text.isBlank := by
  decide

/-- Only strings have blanks in them. -/
theorem unblank_of_spells (spelled : kind.Spells lexeme) (noString : kind ≠ .string)
    : ∀ c ∈ lexeme, ¬ Text.isBlank c := by
  have digits {c : Char} (digit : Text.isDigit c) : ¬ Text.isBlank c :=
    not_isBlank (.inr (.inl digit))
  induction spelled with
  | string => exact absurd rfl noString
  | whole present all => exact fun c member => digits (all c member)
  | decimal present all also =>
      intro c member
      rcases List.mem_append.mp member with early | late
      · exact digits (all c early)
      rcases List.mem_cons.mp late with rfl | late
      · decide
      · exact digits (also c late)
  | name starts all =>
      rw [List.forall_mem_cons]
      exact ⟨not_isBlank (.inr (.inr starts)),
        fun c member => not_isBlank_of_isNameCharacter (all c member)⟩
  | «variable» _ ih =>
      rw [List.forall_mem_cons]
      exact ⟨by decide, ih (by decide)⟩
  | qualified _ _ ih also =>
      rw [List.forall_mem_cons, List.forall_mem_append, List.forall_mem_cons]
      exact ⟨by decide, ih (by decide), by decide, also (by decide)⟩
  | mark listed =>
      intro c member blank
      exact marks_unblank _ listed (List.any_eq_true.mpr ⟨c, member, blank⟩)

/-- A string ends at the first quote of the kind that opens it, whatever follows. -/
theorem lexemeAt?_append_of_isQuote {c : Char} (opens : isQuote c) {length : Nat}
    (taken : lexemeAt? (c :: text) = some (kind, length)) (more : List Char)
    : lexemeAt? (c :: (text ++ more)) = some (kind, length) := by
  rw [lexemeAt?_string opens, closingLength?] at taken ⊢
  obtain ⟨_, closed, same⟩ := Option.map_eq_some_iff.mp taken
  obtain ⟨place, found, rfl⟩ := Option.map_eq_some_iff.mp closed
  rw [List.idxOf?, List.findIdx?_append, ← List.idxOf?, found]
  exact congrArg some same

/-- The longest lexeme of a text is the longest one also if a blank follows the text. -/
theorem Longest.before_blank (longest : Longest text kind lexeme) (blank : Text.isBlank b)
    (more : List Char)
    : Longest (text ++ b :: more) kind lexeme := by
  refine ⟨longest.begins.trans (List.prefix_append _ _), longest.spells, ?_⟩
  obtain ⟨c, inner, rfl, -⟩ := exists_start longest.spells
  obtain ⟨after, rfl⟩ := longest.begins
  intro other next begins spelled
  by_cases opens : isQuote c
  · have taken := lexemeAt?_append_of_isQuote opens longest.lexemeAt?_eq (b :: more)
    obtain ⟨_, same, first⟩ := longest_of_lexemeAt? taken
    rw [← same]
    exact first.longest other next begins spelled
  · have noString : other ≠ .string := by
      rintro rfl
      cases spelled with
      | string quotes =>
          obtain ⟨rfl, -⟩ := List.cons_prefix_cons.mp begins
          exact opens quotes
      | mark listed => simp [TokenKind.marks] at listed
    refine longest.longest other next ?_ spelled
    rcases List.prefix_or_prefix_of_prefix begins (List.prefix_append _ (b :: more))
      with inside | ⟨_ | ⟨first, tail⟩, rfl⟩
    · exact inside
    · exact (List.append_nil _).symm ▸ List.prefix_rfl
    · obtain ⟨rfl, -⟩ := List.cons_prefix_cons.mp ((List.prefix_append_right_inj _).mp begins)
      exact absurd blank (unblank_of_spells spelled noString _ (by simp))

-----------------------------------------------------------------------------------------
-- Texts
-----------------------------------------------------------------------------------------

/-- A text and one that begins with a blank are read together as each by itself. -/
theorem Reads.joined (reads : Reads [] position text tokens) (blank : Text.isBlank b)
    (next : Reads [] (position + text.length) (b :: more) others)
    : Reads [] position (text ++ b :: more) (tokens ++ others) := by
  induction reads with
  | done => exact next
  | blank also _ ih =>
      refine .blank also (ih ?_)
      rwa [Nat.add_assoc, Nat.add_comm 1]
  | @token position kind lexeme text tokens longest _ ih =>
      rw [List.append_assoc, List.cons_append]
      refine .token ?_ (ih ?_)
      · rw [List.append_nil] at longest ⊢
        rw [← List.append_assoc]
        exact longest.before_blank blank more
      · rwa [Nat.add_assoc, ← List.length_append]

/-- A text is taken apart where some of its tokens begin, or at its end. -/
theorem Reads.split (reads : Reads rest position text (before ++ after))
    : ∃ first second, text = first ++ second
      ∧ Reads (second ++ rest) position first before
      ∧ Reads rest (position + first.length) second after
      ∧ position + first.length
        = (after.head?.map Token.position).getD (position + text.length) := by
  generalize parts : before ++ after = tokens at reads
  induction reads generalizing before with
  | done =>
      obtain ⟨rfl, rfl⟩ := List.append_eq_nil_iff.mp parts
      exact ⟨[], [], rfl, .done, .done, rfl⟩
  | @blank position c text tokens blank _ ih =>
      obtain ⟨first, second, rfl, early, late, here⟩ := ih parts
      have past (text : List Char)
          : position + (c :: text).length = position + 1 + text.length := by
        rw [List.length_cons, Nat.add_right_comm, Nat.add_assoc]
      rw [← past] at late here
      rw [← past] at here
      exact ⟨c :: first, second, rfl, .blank blank early, late, here⟩
  | @token position kind lexeme text tokens longest next ih =>
      cases before with
      | nil =>
          obtain rfl := parts
          exact ⟨[], lexeme ++ text, rfl, .done, .token longest next, rfl⟩
      | cons token before =>
          obtain ⟨rfl, others⟩ := List.cons.inj parts
          obtain ⟨first, second, rfl, early, late, here⟩ := ih others
          have past (text : List Char)
              : position + (lexeme ++ text).length = position + lexeme.length + text.length := by
            rw [List.length_append, Nat.add_assoc]
          rw [← past] at late here
          rw [← past] at here
          rw [List.append_assoc] at longest
          exact ⟨lexeme ++ first, second, (List.append_assoc _ _ _).symm, .token longest early,
            late, here⟩

/-- For any kinds with lexemes of one character there is a text, which begins with a blank. -/
theorem exists_reads_of_marks (position : Nat) {kinds : List TokenKind}
    (marked : ∀ kind ∈ kinds, ∃ c, (kind, [c]) ∈ TokenKind.marks)
    : ∃ more tokens, tokens.map Token.kind = kinds ∧ Reads [] position (' ' :: more) tokens := by
  have blank : Text.isBlank ' ' := by decide
  induction kinds generalizing position with
  | nil => exact ⟨[], [], rfl, .blank blank .done⟩
  | cons kind kinds ih =>
      rw [List.forall_mem_cons] at marked
      obtain ⟨⟨c, listed⟩, marked⟩ := marked
      obtain ⟨more, tokens, same, reads⟩ := ih (position + 1 + [c].length) marked
      have alone : Longest [c] kind [c] :=
        ⟨List.prefix_rfl, .mark listed, fun _ _ begins _ => begins.length_le⟩
      have first : Longest ([c] ++ (' ' :: more ++ [])) kind [c] := by
        rw [List.append_nil]
        exact alone.before_blank blank more
      refine ⟨[c] ++ ' ' :: more, _, ?_, .blank blank (.token first reads)⟩
      rw [List.map_cons, same]

end PathQuery.Token
