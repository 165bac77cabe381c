import Mathlib.Data.List.TakeWhile
import PathQuery.Expr.Token

/-! The lexical classes, told by the spelling of their lexemes. The lexeme that is taken at a place
is the longest one of any class, and none is taken only where no class has one.
-/

namespace PathQuery

-----------------------------------------------------------------------------------------
-- Classes
-----------------------------------------------------------------------------------------

/-- The lexemes with a fixed spelling. -/
def TokenKind.marks : List (TokenKind × List Char) :=
  [(.doubleSlash, ['/', '/']), (.slash, ['/']), (.asterisk, ['*']), (.doubleColon, [':', ':']),
    (.colon, [':']), (.doubleDot, ['.', '.']), (.dot, ['.']), (.openBracket, ['[']),
    (.closeBracket, [']']), (.at, ['@']), (.openParenthesis, ['(']), (.closeParenthesis, [')']),
    (.comma, [',']), (.bar, ['|']), (.operator, ['!', '=']), (.operator, ['<', '=']),
    (.operator, ['>', '=']), (.operator, ['<']), (.operator, ['>']), (.operator, ['=']),
    (.operator, ['+']), (.operator, ['-'])]

/-- The spellings of the lexemes of a class. -/
inductive TokenKind.Spells : TokenKind → List Char → Prop
  | string {quote : Char} {content : List Char} (opens : Token.isQuote quote)
    (closes : quote ∉ content)
    : Spells .string (quote :: (content ++ [quote]))
  | whole {digits : List Char} (present : digits ≠ []) (all : ∀ c ∈ digits, Text.isDigit c)
    : Spells .number digits
  | decimal {whole fraction : List Char} (present : whole ≠ [] ∨ fraction ≠ [])
    (all : ∀ c ∈ whole, Text.isDigit c) (also : ∀ c ∈ fraction, Text.isDigit c)
    : Spells .number (whole ++ '.' :: fraction)
  | name {first : Char} {rest : List Char} (starts : Text.isNameStart first)
    (all : ∀ c ∈ rest, Text.isNameCharacter c)
    : Spells .name (first :: rest)
  | variable {name : List Char} (named : Spells .name name) : Spells .variable ('$' :: name)
  | qualified {qualifier name : List Char} (qualifies : Spells .name qualifier)
    (named : Spells .name name)
    : Spells .variable ('$' :: (qualifier ++ ':' :: name))
  | mark {kind : TokenKind} {text : List Char} (listed : (kind, text) ∈ marks) : Spells kind text

/-- A text begins with a lexeme of a class that has some length. -/
def Token.Begins (text : List Char) (kind : TokenKind) (length : Nat) : Prop :=
  ∃ lexeme, lexeme <+: text ∧ kind.Spells lexeme ∧ lexeme.length = length

/-- A lexeme at the start of a text is the longest one of any class. -/
structure Token.Longest (text : List Char) (kind : TokenKind) (lexeme : List Char) : Prop where
  begins : lexeme <+: text
  spells : kind.Spells lexeme
  longest : ∀ (other : TokenKind) (more : List Char),
    more <+: text → other.Spells more → more.length ≤ lexeme.length

namespace Token

variable {text rest name : List Char} {kind : TokenKind} {length : Nat} {c : Char}

-----------------------------------------------------------------------------------------
-- Names
-----------------------------------------------------------------------------------------

/-- A name ends where the characters that may continue it end. -/
theorem nameLength_append (named : TokenKind.Spells .name name) (rest : List Char)
    : Text.nameLength (name ++ rest)
      = name.length + (rest.takeWhile Text.isNameCharacter).length := by
  cases named with
  | @name first more starts all =>
      rw [List.cons_append, Text.nameLength, if_pos starts, List.takeWhile_append_of_pos all,
        List.length_append, List.length_cons]
      omega
  | mark listed => simp [TokenKind.marks] at listed

theorem length_pos_of_name (named : TokenKind.Spells .name name) : 0 < name.length := by
  cases named with
  | name => exact Nat.succ_pos _
  | mark listed => simp [TokenKind.marks] at listed

theorem begins_name (present : 0 < Text.nameLength text)
    : Begins text .name (Text.nameLength text) := by
  cases text with
  | nil => cases present
  | cons first more =>
      rw [Text.nameLength] at present ⊢
      split at present
      case isTrue starts =>
          refine ⟨first :: more.takeWhile Text.isNameCharacter, ?_, ?_, ?_⟩
          · exact (List.prefix_cons_inj first).mpr (List.takeWhile_prefix _)
          · exact .name starts fun c member => List.mem_takeWhile_imp member
          · rw [if_pos starts, List.length_cons, Nat.add_comm]
      case isFalse => cases present

-----------------------------------------------------------------------------------------
-- Names of variables
-----------------------------------------------------------------------------------------

theorem begins_variable (present : 0 < variableNameLength text)
    : Begins ('$' :: text) .variable (1 + variableNameLength text) := by
  have unqualified (present : 0 < Text.nameLength text)
      : Begins ('$' :: text) .variable (1 + Text.nameLength text) := by
    obtain ⟨name, begins, named, length⟩ := begins_name present
    refine ⟨'$' :: name, (List.prefix_cons_inj _).mpr begins, .variable named, ?_⟩
    rw [List.length_cons, length, Nat.add_comm]
  simp only [variableNameLength] at present ⊢
  split
  case h_1 more colon =>
      simp only [colon] at present
      split
      case isTrue => exact unqualified (by rwa [if_pos ‹_›] at present)
      case isFalse both =>
          obtain ⟨qualifier, ⟨after, rfl⟩, qualifies, length⟩ :=
            begins_name (Nat.pos_of_ne_zero fun none => both (.inl none))
          obtain ⟨name, begins, named, also⟩ :=
            begins_name (Nat.pos_of_ne_zero fun none => both (.inr none))
          rw [← length, List.drop_left] at colon
          subst colon
          refine ⟨'$' :: (qualifier ++ ':' :: name), ?_, .qualified qualifies named, ?_⟩
          · exact (List.prefix_cons_inj _).mpr
              ((List.prefix_append_right_inj _).mpr ((List.prefix_cons_inj _).mpr begins))
          · simp only [List.length_cons, List.length_append, length, also]
            omega
  case h_2 other =>
      refine unqualified ?_
      split at present
      case h_1 colon => exact absurd colon (other _)
      case h_2 => exact present

theorem nameLength_le_variableNameLength (text : List Char)
    : Text.nameLength text ≤ variableNameLength text := by
  simp only [variableNameLength]
  split
  case h_1 => split <;> omega
  case h_2 => exact le_rfl

/-- A qualifier ends at its colon, which no name has. -/
theorem variableNameLength_qualified {qualifier : List Char}
    (qualifies : TokenKind.Spells .name qualifier) (named : TokenKind.Spells .name name)
    (rest : List Char)
    : (qualifier ++ ':' :: name).length ≤ variableNameLength (qualifier ++ ':' :: (name ++ rest))
    := by
  have colon : Text.isNameCharacter ':' = false := by decide
  have first : Text.nameLength (qualifier ++ ':' :: (name ++ rest)) = qualifier.length := by
    rw [nameLength_append qualifies, List.takeWhile_cons_of_neg (by simp [colon])]
    rfl
  have second := nameLength_append named rest
  have present := length_pos_of_name qualifies
  have also := length_pos_of_name named
  simp only [variableNameLength, first, List.drop_left]
  rw [if_neg (by omega), second, List.length_append, List.length_cons]
  omega

-----------------------------------------------------------------------------------------
-- Numerals
-----------------------------------------------------------------------------------------

theorem begins_number (present : 0 < numeralLength text)
    : Begins text .number (numeralLength text) := by
  have all (text : List Char) : ∀ c ∈ text.takeWhile Text.isDigit, Text.isDigit c :=
    fun c member => List.mem_takeWhile_imp member
  have parts := List.takeWhile_append_dropWhile (p := Text.isDigit) (l := text)
  simp only [numeralLength] at present ⊢
  split
  case h_1 more point =>
      rw [point] at parts present
      simp only at present
      split at present
      case isTrue => cases present
      case isFalse either =>
          refine ⟨text.takeWhile Text.isDigit ++ '.' :: more.takeWhile Text.isDigit, ?_,
            .decimal ?_ (all text) (all more), ?_⟩
          · conv => rhs; rw [← parts]
            exact (List.prefix_append_right_inj _).mpr
              ((List.prefix_cons_inj _).mpr (List.takeWhile_prefix _))
          · simpa only [List.length_eq_zero_iff, Classical.not_and_iff_not_or_not] using either
          · rw [if_neg either, List.length_append, List.length_cons]
            omega
  case h_2 other =>
      refine ⟨text.takeWhile Text.isDigit, List.takeWhile_prefix _, .whole ?_ (all text), rfl⟩
      split at present
      case h_1 point => exact absurd point (other _)
      case h_2 => exact List.ne_nil_of_length_pos present

theorem takeWhile_length_le_numeralLength (text : List Char)
    : (text.takeWhile Text.isDigit).length ≤ numeralLength text := by
  simp only [numeralLength]
  split
  case h_1 => split <;> omega
  case h_2 => exact le_rfl

theorem numeralLength_whole {digits : List Char} (all : ∀ c ∈ digits, Text.isDigit c)
    (rest : List Char)
    : digits.length ≤ numeralLength (digits ++ rest) := by
  refine le_trans ?_ (takeWhile_length_le_numeralLength _)
  rw [List.takeWhile_append_of_pos all, List.length_append]
  exact Nat.le_add_right _ _

theorem numeralLength_decimal {whole fraction : List Char} (present : whole ≠ [] ∨ fraction ≠ [])
    (all : ∀ c ∈ whole, Text.isDigit c) (also : ∀ c ∈ fraction, Text.isDigit c)
    (rest : List Char)
    : (whole ++ '.' :: fraction).length ≤ numeralLength (whole ++ '.' :: (fraction ++ rest)) := by
  have point : ¬ Text.isDigit '.' := by decide
  have positive : 0 < whole.length ∨ 0 < fraction.length :=
    present.imp List.length_pos_iff.mpr List.length_pos_iff.mpr
  simp only [numeralLength, List.takeWhile_append_of_pos all, List.dropWhile_append_of_pos all,
    List.takeWhile_cons_of_neg point, List.dropWhile_cons_of_neg point,
    List.takeWhile_append_of_pos also, List.append_nil, List.length_append, List.length_cons]
  split <;> omega

-----------------------------------------------------------------------------------------
-- String literals
-----------------------------------------------------------------------------------------

theorem eq_of_isQuote (opens : isQuote c) : c = '\x22' ∨ c = '\x27' := by
  rwa [isQuote, Bool.or_eq_true, beq_iff_eq, beq_iff_eq] at opens

theorem closingLength?_append_cons {content : List Char} (closes : c ∉ content) (rest : List Char)
    : closingLength? c (content ++ c :: rest) = some (content.length + 1) := by
  rw [closingLength?, List.idxOf?_eq_some_iff.mpr, Option.map_some]
  refine ⟨by simp, by simp, ?_⟩
  intro place before
  rw [List.getElem_append_left before]
  exact fun same => closes (same ▸ List.getElem_mem before)

theorem begins_string (opens : isQuote c) (closed : closingLength? c text = some length)
    : Begins (c :: text) .string (1 + length) := by
  have member : c ∈ text := by
    by_contra outside
    rw [closingLength?, List.idxOf?_eq_none_iff.mpr outside] at closed
    cases closed
  obtain ⟨content, after, rfl, closes⟩ := List.eq_append_cons_of_mem member
  rw [closingLength?_append_cons closes] at closed
  cases closed
  refine ⟨c :: (content ++ [c]), ⟨after, by simp⟩, .string opens closes, ?_⟩
  simp only [List.length_cons, List.length_append, List.length_nil]
  omega

-----------------------------------------------------------------------------------------
-- Marks
-----------------------------------------------------------------------------------------

theorem singleton_not_isPrefixOf (other : ∀ tail, text = c :: tail → False)
    : [c].isPrefixOf text = false := by
  refine Bool.eq_false_iff.mpr fun begins => ?_
  obtain ⟨tail, rfl⟩ := List.isPrefixOf_iff_prefix.mp begins
  exact other tail rfl

/-- The mark that is taken is the first listed one that a text begins with. -/
theorem markAt?_eq_find (text : List Char)
    : markAt? text
      = (TokenKind.marks.find? (fun mark => mark.2.isPrefixOf text)).map
        (fun mark => (mark.1, mark.2.length)) := by
  unfold markAt?
  split
  case h_2 | h_5 | h_7 | h_18 | h_19 =>
      rename_i other
      simp [TokenKind.marks, List.isPrefixOf, singleton_not_isPrefixOf other]
  case h_23 =>
      symm
      rw [Option.map_eq_none_iff, List.find?_eq_none]
      intro mark listed begins
      obtain ⟨rest, rfl⟩ := List.isPrefixOf_iff_prefix.mp begins
      simp only [TokenKind.marks, List.mem_cons, List.not_mem_nil, or_false] at listed
      rcases listed with rfl | rfl | rfl | rfl | rfl | rfl | rfl | rfl | rfl | rfl | rfl | rfl |
        rfl | rfl | rfl | rfl | rfl | rfl | rfl | rfl | rfl | rfl
      all_goals solve_by_elim [rfl]
  all_goals simp [TokenKind.marks, List.isPrefixOf]

/-- No mark begins with one that is listed before it. -/
theorem marks_longest_first
    : TokenKind.marks.Pairwise (fun early late => ¬ early.2 <+: late.2) := by
  decide

/-- The first character of a mark is no blank and begins no lexeme of the other classes, numerals
apart.
-/
def startsMark (c : Char) : Bool :=
  !Text.isBlank c && !isQuote c && c != '$' && !Text.isNameStart c

theorem marks_start : ∀ mark ∈ TokenKind.marks, mark.2.head?.any startsMark := by
  decide

theorem marks_digitless : ∀ mark ∈ TokenKind.marks, ¬ mark.2.any Text.isDigit := by
  decide

theorem begins_mark (found : markAt? text = some (kind, length)) : Begins text kind length := by
  rw [markAt?_eq_find, Option.map_eq_some_iff] at found
  obtain ⟨mark, found, same⟩ := found
  cases same
  have begins := List.find?_some found
  exact ⟨mark.2, List.isPrefixOf_iff_prefix.mp begins, .mark (List.mem_of_find?_eq_some found), rfl⟩

/-- A mark that a text begins with is taken unless a longer one is. -/
theorem exists_markAt? {mark : List Char} (listed : (kind, mark) ∈ TokenKind.marks)
    (begins : mark <+: text)
    : ∃ found length, markAt? text = some (found, length)
      ∧ mark.length ≤ length ∧ (mark.length = length → kind = found) := by
  rw [markAt?_eq_find]
  cases search : TokenKind.marks.find? (fun mark => mark.2.isPrefixOf text) with
  | none =>
      exact absurd (List.isPrefixOf_iff_prefix.mpr begins)
        (List.find?_eq_none.mp search (kind, mark) listed)
  | some found =>
      refine ⟨found.1, found.2.length, rfl, ?_⟩
      have here := List.find?_some search
      rw [List.isPrefixOf_iff_prefix] at here
      obtain ⟨-, before, after, split, earlier⟩ := List.find?_eq_some_iff_append.mp search
      rw [split, List.mem_append, List.mem_cons] at listed
      rcases listed with early | rfl | late
      · have none := earlier (kind, mark) early
        rw [List.isPrefixOf_iff_prefix.mpr begins] at none
        cases none
      · exact ⟨le_rfl, fun _ => rfl⟩
      · have ordered := marks_longest_first
        rw [split, List.pairwise_append, List.pairwise_cons] at ordered
        have shorter : mark.length < found.2.length := by
          by_contra longer
          exact ordered.2.1.1 _ late
            (List.prefix_of_prefix_length_le here begins (Nat.not_lt.mp longer))
        exact ⟨shorter.le, fun same => absurd same shorter.ne⟩

-----------------------------------------------------------------------------------------
-- The lexeme that is taken
-----------------------------------------------------------------------------------------

theorem exists_digit {lexeme : List Char} (spelled : TokenKind.Spells .number lexeme)
    : ∃ c ∈ lexeme, Text.isDigit c := by
  cases spelled with
  | whole present all =>
      obtain ⟨c, member⟩ := List.exists_mem_of_ne_nil _ present
      exact ⟨c, member, all c member⟩
  | decimal present all also =>
      rcases present with whole | fraction
      · obtain ⟨c, member⟩ := List.exists_mem_of_ne_nil _ whole
        exact ⟨c, List.mem_append_left _ member, all c member⟩
      · obtain ⟨c, member⟩ := List.exists_mem_of_ne_nil _ fraction
        exact ⟨c, List.mem_append_right _ (List.mem_cons_of_mem _ member), also c member⟩
  | mark listed => simp [TokenKind.marks] at listed

/-- A numeral is longer than a mark that begins in the same place, as it has a digit. -/
theorem length_lt_of_mark {mark : List Char} (listed : (kind, mark) ∈ TokenKind.marks)
    (begins : mark <+: text) (present : 0 < numeralLength text)
    : mark.length < numeralLength text := by
  obtain ⟨lexeme, also, spelled, length⟩ := begins_number present
  obtain ⟨c, member, digit⟩ := exists_digit spelled
  rw [← length]
  by_contra longer
  have inside := List.prefix_of_prefix_length_le also begins (Nat.not_lt.mp longer)
  exact marks_digitless (kind, mark) listed
    (List.any_eq_true.mpr ⟨c, inside.subset member, digit⟩)

theorem numeralLength_eq_zero (digit : ¬ Text.isDigit c) (point : c ≠ '.') (rest : List Char)
    : numeralLength (c :: rest) = 0 := by
  simp only [numeralLength, List.takeWhile_cons_of_neg digit, List.dropWhile_cons_of_neg digit]
  split
  case h_1 same => cases same; exact absurd rfl point
  case h_2 => rfl

theorem not_isDigit_of_isNameStart (starts : Text.isNameStart c) : ¬ Text.isDigit c := by
  intro digit
  have range : 48 ≤ c.toNat ∧ c.toNat ≤ 57 := by
    simpa [Text.isDigit, Char.le_def, UInt32.le_iff_toNat_le] using digit
  simp [Text.isNameStart, Text.inRanges, Text.nameStartRanges] at starts
  omega

theorem lexemeAt?_string (opens : isQuote c) (rest : List Char)
    : lexemeAt? (c :: rest)
      = (closingLength? c rest).map (fun length => (.string, 1 + length)) := by
  rw [lexemeAt?, if_pos opens]

theorem lexemeAt?_number (present : 0 < numeralLength text)
    : lexemeAt? text = some (.number, numeralLength text) := by
  cases text with
  | nil => cases present
  | cons first rest =>
      have unquoted : ¬ isQuote first := by
        intro opens
        have none : numeralLength (first :: rest) = 0 := by
          rcases eq_of_isQuote opens with rfl | rfl <;>
            exact numeralLength_eq_zero (by decide) (by decide) rest
        exact present.ne' none
      rw [lexemeAt?, if_neg unquoted, if_pos present]

theorem lexemeAt?_variable (present : 0 < variableNameLength rest)
    : lexemeAt? ('$' :: rest) = some (.variable, 1 + variableNameLength rest) := by
  rw [lexemeAt?, if_neg (by decide), numeralLength_eq_zero (by decide) (by decide),
    if_neg (by decide), if_pos rfl, if_pos present]

theorem lexemeAt?_name (present : 0 < Text.nameLength text)
    : lexemeAt? text = some (.name, Text.nameLength text) := by
  cases text with
  | nil => cases present
  | cons first rest =>
      have starts : Text.isNameStart first := by
        by_contra other
        rw [Text.nameLength, if_neg other] at present
        cases present
      have unquoted : ¬ isQuote first := by
        intro opens
        rcases eq_of_isQuote opens with rfl | rfl <;> exact absurd starts (by decide)
      have point : first ≠ '.' := by
        rintro rfl
        exact absurd starts (by decide)
      have dollar : first ≠ '$' := by
        rintro rfl
        exact absurd starts (by decide)
      rw [lexemeAt?, if_neg unquoted,
        numeralLength_eq_zero (not_isDigit_of_isNameStart starts) point, if_neg (by decide),
        if_neg dollar, if_pos present]

/-- Only a numeral comes before a mark. -/
theorem lexemeAt?_mark {mark : List Char} (listed : (kind, mark) ∈ TokenKind.marks)
    (begins : mark <+: text) (digitless : numeralLength text = 0)
    : lexemeAt? text = markAt? text := by
  obtain ⟨after, rfl⟩ := begins
  have start := marks_start (kind, mark) listed
  cases mark with
  | nil => cases start
  | cons first more =>
      simp only [List.head?_cons, Option.any_some, startsMark, Bool.and_eq_true,
        Bool.not_eq_true', bne_iff_ne] at start
      obtain ⟨⟨⟨-, unquoted⟩, dollar⟩, unnamed⟩ := start
      rw [List.cons_append] at digitless ⊢
      simp [lexemeAt?, digitless, Text.nameLength, unquoted, dollar, unnamed]

/-- What is taken is a lexeme of its class. -/
theorem begins_of_lexemeAt? (found : lexemeAt? text = some (kind, length))
    : Begins text kind length := by
  cases text with
  | nil => cases found
  | cons first rest =>
      rw [lexemeAt?] at found
      split at found
      case isTrue opens =>
          obtain ⟨length, closed, same⟩ := Option.map_eq_some_iff.mp found
          cases same
          exact begins_string opens closed
      case isFalse =>
          split at found
          case isTrue present =>
              cases found
              exact begins_number present
          case isFalse =>
              split at found
              case isTrue dollar =>
                  split at found
                  case isTrue present =>
                      cases found
                      subst dollar
                      exact begins_variable present
                  case isFalse => cases found
              case isFalse =>
                  split at found
                  case isTrue present =>
                      cases found
                      exact begins_name present
                  case isFalse => exact begins_mark found

/-- A variable is taken with as much as its name may have. -/
theorem exists_variable (positive : 0 < name.length) (upTo : name.length ≤ variableNameLength rest)
    : ∃ found length, lexemeAt? ('$' :: rest) = some (found, length)
      ∧ ('$' :: name).length ≤ length
      ∧ (('$' :: name).length = length → TokenKind.variable = found) := by
  refine ⟨_, _, lexemeAt?_variable (positive.trans_le upTo), ?_, fun _ => rfl⟩
  rw [List.length_cons, Nat.add_comm]
  exact Nat.add_le_add_left upTo 1

/-- Where a text begins with a lexeme, one is taken that is longer, or as long and of its class. -/
theorem exists_lexemeAt? {lexeme : List Char} (begins : lexeme <+: text)
    (spelled : kind.Spells lexeme)
    : ∃ found length, lexemeAt? text = some (found, length)
      ∧ lexeme.length ≤ length ∧ (lexeme.length = length → kind = found) := by
  obtain ⟨rest, rfl⟩ := begins
  cases spelled with
  | @string quote content opens closes =>
      refine ⟨.string, 1 + (content.length + 1), ?_, ?_, fun _ => rfl⟩
      · rw [List.cons_append, List.append_assoc, List.singleton_append, lexemeAt?_string opens,
          closingLength?_append_cons closes, Option.map_some]
      · simp only [List.length_cons, List.length_append, List.length_nil]
        omega
  | whole present all =>
      have upTo := numeralLength_whole all rest
      have positive := List.length_pos_iff.mpr present
      exact ⟨_, _, lexemeAt?_number (positive.trans_le upTo), upTo, fun _ => rfl⟩
  | @decimal whole fraction present all also =>
      have upTo := numeralLength_decimal present all also rest
      have positive := (List.length_pos_iff.mpr (by simp)).trans_le upTo
      rw [List.append_assoc, List.cons_append]
      exact ⟨_, _, lexemeAt?_number positive, upTo, fun _ => rfl⟩
  | name starts all =>
      have length := nameLength_append (.name starts all) rest
      have upTo := Nat.le.intro length.symm
      exact ⟨_, _, lexemeAt?_name ((Nat.succ_pos _).trans_le upTo), upTo, fun _ => rfl⟩
  | @«variable» name named =>
      refine exists_variable (length_pos_of_name named) ?_
      exact (Nat.le.intro (nameLength_append named rest).symm).trans
        (nameLength_le_variableNameLength _)
  | @qualified qualifier name qualifies named =>
      rw [List.cons_append, List.append_assoc, List.cons_append]
      exact exists_variable (List.length_pos_iff.mpr (by simp))
        (variableNameLength_qualified qualifies named rest)
  | mark listed =>
      rcases Nat.eq_zero_or_pos (numeralLength (lexeme ++ rest)) with digitless | present
      · rw [lexemeAt?_mark listed (List.prefix_append _ _) digitless]
        exact exists_markAt? listed (List.prefix_append _ _)
      · have shorter := length_lt_of_mark listed (List.prefix_append _ _) present
        exact ⟨_, _, lexemeAt?_number present, shorter.le, fun same => absurd same shorter.ne⟩

/-- The lexeme that is taken is the longest one. -/
theorem longest_of_lexemeAt? (found : lexemeAt? text = some (kind, length))
    : ∃ lexeme, lexeme.length = length ∧ Longest text kind lexeme := by
  obtain ⟨lexeme, begins, spelled, rfl⟩ := begins_of_lexemeAt? found
  refine ⟨lexeme, rfl, begins, spelled, ?_⟩
  intro other more here spelled
  obtain ⟨kind, length, taken, upTo, -⟩ := exists_lexemeAt? here spelled
  rw [found] at taken
  cases taken
  exact upTo

/-- The longest lexeme is the one that is taken. -/
theorem Longest.lexemeAt?_eq {lexeme : List Char} (longest : Longest text kind lexeme)
    : lexemeAt? text = some (kind, lexeme.length) := by
  obtain ⟨found, length, taken, upTo, same⟩ := exists_lexemeAt? longest.begins longest.spells
  obtain ⟨other, begins, spelled, rfl⟩ := begins_of_lexemeAt? taken
  have agree := upTo.antisymm (longest.longest found other begins spelled)
  rw [taken, agree, same agree]

/-- No lexeme is taken exactly where a text begins with none. -/
theorem lexemeAt?_eq_none_iff
    : lexemeAt? text = none
      ↔ ∀ (kind : TokenKind) (lexeme : List Char), lexeme <+: text → ¬ kind.Spells lexeme := by
  constructor
  · intro none kind lexeme begins spelled
    obtain ⟨found, length, taken, -⟩ := exists_lexemeAt? begins spelled
    rw [none] at taken
    cases taken
  · intro free
    cases taken : lexemeAt? text with
    | none => rfl
    | some found =>
        obtain ⟨lexeme, begins, spelled, -⟩ := begins_of_lexemeAt? taken
        exact absurd spelled (free found.1 lexeme begins)

theorem not_isBlank (starts : isQuote c ∨ Text.isDigit c ∨ Text.isNameStart c)
    : ¬ Text.isBlank c := by
  intro blank
  simp only [Text.isBlank, Bool.or_eq_true, beq_iff_eq] at blank
  rcases blank with ((rfl | rfl) | rfl) | rfl <;> exact absurd starts (by decide)

/-- A lexeme has a first character, which is no blank. -/
theorem exists_start {lexeme : List Char} (spelled : kind.Spells lexeme)
    : ∃ c more, lexeme = c :: more ∧ ¬ Text.isBlank c := by
  cases spelled with
  | string opens => exact ⟨_, _, rfl, not_isBlank (.inl opens)⟩
  | whole present all =>
      obtain ⟨c, more, rfl⟩ := List.exists_cons_of_ne_nil present
      exact ⟨c, more, rfl, not_isBlank (.inr (.inl (all c List.mem_cons_self)))⟩
  | @decimal whole fraction present all =>
      cases whole with
      | nil => exact ⟨'.', fraction, rfl, by decide⟩
      | cons c more => exact ⟨c, _, rfl, not_isBlank (.inr (.inl (all c List.mem_cons_self)))⟩
  | name starts => exact ⟨_, _, rfl, not_isBlank (.inr (.inr starts))⟩
  | «variable» => exact ⟨'$', _, rfl, by decide⟩
  | qualified => exact ⟨'$', _, rfl, by decide⟩
  | mark listed =>
      have start := marks_start (kind, lexeme) listed
      cases lexeme with
      | nil => cases start
      | cons first more =>
          simp only [List.head?_cons, Option.any_some, startsMark, Bool.and_eq_true,
            Bool.not_eq_true'] at start
          exact ⟨first, more, rfl, by simp [start.1.1.1]⟩

end Token

end PathQuery
