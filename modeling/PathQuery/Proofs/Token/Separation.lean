import Mathlib.Data.List.Basic
import PathQuery.Proofs.Token.Joining

/-! The tokens of a text can be written anew with any blanks between them. Each token is by itself
the longest lexeme of its own text, and a blank ends it also where it would have gone on.
-/

namespace PathQuery.Token

variable {source : String} {position : Nat} {tokens : List Token} {gaps : List String}

-----------------------------------------------------------------------------------------
-- Tokens written one after another
-----------------------------------------------------------------------------------------

/-- The texts of tokens one after another, with a gap after each but the last. -/
def written : List Token → List String → String
  | [], _ => ""
  | token :: _, [] => token.text
  | token :: rest, gap :: gaps => token.text ++ gap ++ written rest gaps

/-- What separates tokens: blanks, of which there is one at least. -/
structure IsGap (gap : String) : Prop where
  present : gap ≠ ""
  blank : ∀ c ∈ gap.toList, Text.isBlank c

/-- What a token is apart from its place. -/
def lexeme (token : Token) : TokenKind × String :=
  (token.kind, token.text)

/-- A token is the longest lexeme of its own text. -/
def IsWhole (token : Token) : Prop :=
  Longest token.text.toList token.kind token.text.toList

theorem isWhole_of_ofText (split : ofText source = .ok tokens) : ∀ token ∈ tokens, token.IsWhole := by
  intro token member
  have placed : source.toList.drop 0 = source.toList ++ [] := by simp
  have longest := (reads_of_ofText split).longest placed token member
  exact longest.of_prefix List.prefix_rfl longest.begins

-----------------------------------------------------------------------------------------
-- Reading them again
-----------------------------------------------------------------------------------------

/-- A lexeme that is the longest one of its own text is read as one token. -/
theorem IsWhole.reads {token : Token} (whole : token.IsWhole) (position : Nat)
    : Reads [] position token.text.toList [{ token with position }] := by
  have longest : Longest (token.text.toList ++ ([] ++ [])) token.kind token.text.toList := by
    rw [List.append_nil, List.append_nil]
    exact whole
  have reads : Reads [] position (token.text.toList ++ []) [⟨position, _, token.kind⟩] :=
    .token longest .done
  rwa [List.append_nil, String.ofList_toList] at reads

/-- Blanks before a text are skipped. -/
theorem Reads.padded {rest blanks text : List Char} (blank : ∀ c ∈ blanks, Text.isBlank c)
    (reads : Reads rest (position + blanks.length) text tokens)
    : Reads rest position (blanks ++ text) tokens := by
  induction blanks generalizing position with
  | nil => exact reads
  | cons c blanks ih =>
      rw [List.forall_mem_cons] at blank
      refine .blank blank.1 (ih blank.2 ?_)
      rwa [Nat.add_assoc, Nat.add_comm 1]

/-- Tokens that are written with gaps between them are read again, by induction on the gaps. -/
theorem exists_reads_written (whole : ∀ token ∈ tokens, token.IsWhole)
    (fits : gaps.length = tokens.length - 1) (isGap : ∀ gap ∈ gaps, IsGap gap) (position : Nat)
    : ∃ others, Reads [] position (written tokens gaps).toList others
      ∧ others.map lexeme = tokens.map lexeme := by
  induction gaps generalizing tokens position with
  | nil =>
      match tokens, fits with
      | [], _ => exact ⟨[], .done, rfl⟩
      | [token], _ => exact ⟨_, (whole token (by simp)).reads position, rfl⟩
  | cons gap gaps ih =>
      match tokens, fits with
      | token :: rest, fits =>
          rw [List.forall_mem_cons] at whole isGap
          obtain ⟨⟨present, blank⟩, isGap⟩ := isGap
          have fits : gaps.length = rest.length - 1 := by
            simp only [List.length_cons] at fits
            omega
          obtain ⟨b, blanks, same⟩ := List.exists_cons_of_ne_nil (mt String.toList_eq_nil_iff.mp present)
          obtain ⟨others, reads, lexemes⟩ :=
            ih whole.2 fits isGap (position + token.text.toList.length + gap.toList.length)
          have next := reads.padded blank
          rw [same, List.cons_append] at next
          refine ⟨{ token with position } :: others, ?_, congrArg (List.cons token.lexeme) lexemes⟩
          have joined := (whole.1.reads position).joined (blank b (by simp [same])) next
          simpa only [written, String.toList_append, same, List.append_assoc, List.cons_append,
            List.nil_append] using joined

/-- The tokens of a text, written anew with any blanks between them, are read as tokens with the
same kinds and texts; each of them alone is read as itself.
-/
theorem ofText_written (split : ofText source = .ok tokens)
    : (∀ gaps : List String, gaps.length = tokens.length - 1 → (∀ gap ∈ gaps, IsGap gap) →
        ∃ others, ofText (written tokens gaps) = .ok others
          ∧ others.map lexeme = tokens.map lexeme)
      ∧ ∀ token ∈ tokens, ofText token.text = .ok [{ token with position := 0 }] := by
  have whole := isWhole_of_ofText split
  constructor
  · intro gaps fits isGap
    obtain ⟨others, reads, lexemes⟩ := exists_reads_written whole fits isGap 0
    exact ⟨others, reads.scan_eq, lexemes⟩
  · intro token member
    exact ((whole token member).reads 0).scan_eq

/-- What was a number, two dots and a qualified variable stays that with blanks of all kinds. -/
theorem ofText_written_variable
    : ∃ others, ofText "1. \t..\n$p:x-1" = .ok others
      ∧ others.map lexeme = [(.number, "1."), (.doubleDot, ".."), (.variable, "$p:x-1")] := by
  have split : ofText "1...$p:x-1"
      = .ok [⟨0, "1.", .number⟩, ⟨2, "..", .doubleDot⟩, ⟨4, "$p:x-1", .variable⟩] := by cbv
  have isGap : ∀ gap ∈ [" \t", "\n"], IsGap gap := by
    intro gap member
    simp only [List.mem_cons, List.not_mem_nil, or_false] at member
    rcases member with rfl | rfl <;> exact ⟨by decide, by simp [Text.isBlank]⟩
  exact (ofText_written split).1 [" \t", "\n"] rfl isGap

end PathQuery.Token
