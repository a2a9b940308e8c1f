/-
This file proves that a text in quotes is read as the text that was put there, whatever the text.
The writer takes different quotes for different texts, and the reader finds out by the first few
characters which they are and by the closing quotes where the text ends. Quotes that belong to the
text are the difficulty: between three double quotes, up to two may stand as they are, and one or
two before the closing quotes make these look longer than they are.

Escapes are read in the same way between single and between three double quotes, so that they are
dealt with once for both.
-/

import StubResolver.Toml.Text
import Mathlib.Data.List.Basic

namespace StubResolver.Toml

/-! ### Escapes -/

/-- How a reader between double quotes deals with escapes, and with characters that need none. -/
structure ReadsEscapes (read : Spot → Reads (List Char)) : Prop where
  starts : ∀ rest, read .plain ('\\' :: rest) = read .escaped rest
  letter : ∀ char meant rest, escapes.lookup char = some meant →
    read .escaped (char :: rest) = putBefore meant (read .plain rest)
  startsCode : ∀ rest, read .escaped ('u' :: rest) = read (.inCode 4 0) rest
  digit : ∀ missing value char digit rest, hexDigit? char = some digit → 1 < missing →
    read (.inCode missing value) (char :: rest) =
      read (.inCode (missing - 1) (value * 16 + digit)) rest
  lastDigit : ∀ value char digit rest, hexDigit? char = some digit →
    (value * 16 + digit).isValidChar → read (.inCode 1 value) (char :: rest) =
      putBefore (Char.ofNat (value * 16 + digit)) (read .plain rest)
  other : ∀ char rest, char ≠ '"' → char ≠ '\\' → char ≠ '\n' → isForbidden char = false →
    read .plain (char :: rest) = putBefore char (read .plain rest)

theorem readEscaped_readsEscapes : ReadsEscapes readEscaped where
  starts rest := rfl
  letter char meant rest found := by
    conv_lhs => unfold readEscaped
    rw [found]
  startsCode rest := rfl
  digit missing value char digit rest found more := by
    conv_lhs => unfold readEscaped
    rw [found]
    exact if_pos more
  lastDigit value char digit rest found valid := by
    conv_lhs => unfold readEscaped
    rw [found]
    dsimp only
    rw [if_neg (Nat.lt_irrefl 1), if_pos valid]
  other char rest noQuote noBackslash noLineEnd allowed := by
    conv_lhs => unfold readEscaped
    simp only [if_neg noQuote, if_neg noBackslash, noLineEnd, allowed, Bool.false_eq_true, or_self,
      if_false]

/-- Whether a text starts with three of a kind of quotes. -/
def StartsWithThree (quote : Char) (text : List Char) : Prop :=
  ∃ rest, text = quote :: quote :: quote :: rest

/-- A character is read as it is where the closing quotes do not start. -/
theorem readEscapedLines_asItIs {char : Char} {rest : List Char}
    (noClose : ¬ StartsWithThree '"' (char :: rest)) (noBackslash : char ≠ '\\')
    (allowed : isForbidden char = false) :
    readEscapedLines .plain (char :: rest) = putBefore char (readEscapedLines .plain rest) := by
  rw [readEscapedLines, if_neg noBackslash, allowed, if_neg Bool.false_ne_true]
  all_goals
    rintro _ rfl rfl
    exact noClose ⟨_, rfl⟩

theorem readEscapedLines_readsEscapes : ReadsEscapes readEscapedLines where
  starts rest := rfl
  letter char meant rest found := by
    conv_lhs => unfold readEscapedLines
    rw [found]
  startsCode rest := rfl
  digit missing value char digit rest found more := by
    conv_lhs => unfold readEscapedLines
    rw [found]
    exact if_pos more
  lastDigit value char digit rest found valid := by
    conv_lhs => unfold readEscapedLines
    rw [found]
    dsimp only
    rw [if_neg (Nat.lt_irrefl 1), if_pos valid]
  other char rest noQuote noBackslash _ allowed := by
    refine readEscapedLines_asItIs ?_ noBackslash allowed
    rintro ⟨_, same⟩
    exact noQuote (List.cons.inj same).1

theorem hexDigit?_digitChar : ∀ value < 16,
    hexDigit? (Nat.digitChar value).toUpper = some value := by decide

section

variable {read : Spot → Reads (List Char)}

theorem ReadsEscapes.escape (reads : ReadsEscapes read) {char meant : Char}
    (found : escapes.lookup char = some meant) (rest : List Char) :
    read .plain ('\\' :: char :: rest) = putBefore meant (read .plain rest) :=
  (reads.starts _).trans (reads.letter _ _ _ found)

/-- A code point in four digits is read as its character. -/
theorem ReadsEscapes.code (reads : ReadsEscapes read) {char : Char} (short : char.toNat < 65536)
    (rest : List Char) :
    read .escaped ('u' :: (codeText char ++ rest)) = putBefore char (read .plain rest) := by
  have digit (value : Nat) : hexDigit? (Nat.digitChar (value % 16)).toUpper = some (value % 16) :=
    hexDigit?_digitChar _ (Nat.mod_lt value (by decide))
  have whole : (((0 * 16 + char.toNat / 4096 % 16) * 16 + char.toNat / 256 % 16) * 16 +
      char.toNat / 16 % 16) * 16 + char.toNat % 16 = char.toNat := by omega
  unfold codeText
  simp only [List.map_cons, List.map_nil, List.cons_append, List.nil_append]
  rw [reads.startsCode, reads.digit _ _ _ _ _ (digit _) (by decide),
    reads.digit _ _ _ _ _ (digit _) (by decide), reads.digit _ _ _ _ _ (digit _) (by decide)]
  show read (.inCode 1 _) _ = _
  rw [reads.lastDigit _ _ _ _ (digit _) (by rw [whole]; exact char.valid), whole,
    Char.ofNat_toNat]

/-- A character is read from what is written for it. -/
theorem ReadsEscapes.escapedChar (reads : ReadsEscapes read) {char : Char} (noQuote : char ≠ '"')
    (noLineEnd : char ≠ '\n') (rest : List Char) :
    read .plain (escapedChar char ++ rest) = putBefore char (read .plain rest) := by
  unfold Toml.escapedChar
  split
  · rename_i same
    subst same
    exact reads.escape rfl rest
  split
  · rename_i same
    subst same
    exact reads.escape rfl rest
  split
  · rename_i same
    subst same
    exact reads.escape rfl rest
  split
  · rename_i same
    subst same
    exact reads.escape rfl rest
  split
  · rename_i same
    subst same
    exact reads.escape rfl rest
  · rename_i noBackslash
    split
    · rename_i forbidden
      have short : char.toNat < 65536 := by
        unfold isForbidden at forbidden
        simp at forbidden
        omega
      exact (reads.starts _).trans (reads.code short rest)
    · rename_i allowed
      exact reads.other char rest noQuote noBackslash noLineEnd (Bool.eq_false_iff.mpr allowed)

end

/-! ### Single quotes and double quotes -/

/-- Between double quotes every text is read as it was written. -/
theorem readEscaped_escapedText (row : Nat) (text rest : List Char) :
    readEscaped .plain (escapedText 0 row text ++ '"' :: rest) = some (text, rest) := by
  have reads := readEscaped_readsEscapes
  induction text generalizing row with
  | nil => rfl
  | cons char others inductionHypothesis =>
    unfold escapedText
    split
    · rename_i same
      subst same
      rw [if_neg (Nat.not_lt_zero row)]
      exact (reads.escape rfl _).trans (congrArg (putBefore '"') (inductionHypothesis 0))
    · rename_i noQuote
      split
      · rename_i same
        subst same
        exact (reads.escape rfl _).trans (congrArg (putBefore '\n') (inductionHypothesis 0))
      · rename_i noLineEnd
        rw [List.append_assoc, reads.escapedChar noQuote noLineEnd, inductionHypothesis]
        rfl

/-- Between single quotes a text is read that has none in it, nor anything that may not stand in a
line. -/
theorem readLiteral_append {text : List Char}
    (plain : ∀ char ∈ text, char ≠ '\'' ∧ char ≠ '\n' ∧ isForbidden char = false)
    (rest : List Char) : readLiteral (text ++ '\'' :: rest) = some (text, rest) := by
  induction text with
  | nil => rfl
  | cons char others inductionHypothesis =>
    obtain ⟨noQuote, noLineEnd, allowed⟩ := plain char List.mem_cons_self
    have after := inductionHypothesis fun other later => plain other (List.mem_cons_of_mem _ later)
    rw [List.cons_append, readLiteral, if_neg noQuote, if_neg, after]
    · rfl
    · rintro (same | forbidden)
      · exact noLineEnd same
      · exact Bool.noConfusion (allowed.symm.trans forbidden)

/-! ### Three quotes -/

/-- What is written for a text starts with a backslash, or with the first character of the text. -/
theorem escapedText_cons (most row : Nat) (char : Char) (text : List Char) :
    ∃ first others, escapedText most row (char :: text) = first :: others ∧
      (first = '\\' ∨ first = char ∧ (char = '"' → row < most)) := by
  unfold escapedText
  split
  · rename_i isQuote
    split
    · rename_i short
      exact ⟨_, _, rfl, Or.inr ⟨isQuote.symm, fun _ => short⟩⟩
    · exact ⟨_, _, rfl, Or.inl rfl⟩
  rename_i noQuote
  split
  · rename_i isLineEnd
    split
    · exact ⟨_, _, rfl, Or.inl rfl⟩
    · exact ⟨_, _, rfl, Or.inr ⟨isLineEnd.symm, fun isQuote => absurd isQuote noQuote⟩⟩
  · unfold escapedChar
    iterate 6
      split
      · exact ⟨_, _, rfl, Or.inl rfl⟩
    exact ⟨_, _, rfl, Or.inr ⟨rfl, fun isQuote => absurd isQuote noQuote⟩⟩

/-- It starts with a double quote only if the text does, and if the row is not full. -/
theorem escapedText_cons_of_ne {char : Char} {most row : Nat} (noQuote : char ≠ '"' ∨ most ≤ row)
    (text : List Char) :
    ∃ first others, first ≠ '"' ∧ escapedText most row (char :: text) = first :: others := by
  obtain ⟨first, others, written, rfl | ⟨rfl, short⟩⟩ := escapedText_cons most row char text
  · exact ⟨_, others, by decide, written⟩
  · refine ⟨first, others, fun isQuote => ?_, written⟩
    rcases noQuote with differ | full
    · exact differ isQuote
    · exact absurd (short isQuote) (Nat.not_lt_of_le full)

/-- Closing quotes do not start at a quote that another character follows at once or after one
more. -/
theorem not_startsWithThree {quote first : Char} (differ : first ≠ quote) (rest : List Char) :
    ¬ StartsWithThree quote (quote :: first :: rest) ∧
      ¬ StartsWithThree quote (quote :: quote :: first :: rest) := by
  constructor
  · rintro ⟨_, same⟩
    exact differ (List.cons.inj (List.cons.inj same).2).1
  · rintro ⟨_, same⟩
    exact differ (List.cons.inj (List.cons.inj (List.cons.inj same).2).2).1

/-- A quote that is written as it is is read as it is, unless it is one of the last of the text. -/
theorem readEscapedLines_quote {row : Nat} {char : Char} {others rest : List Char}
    (goesOn : row = 1 ∨ char ≠ '"' ∨ others ≠ []) :
    readEscapedLines .plain ('"' :: (escapedText 2 (row + 1) (char :: others) ++ rest)) =
      putBefore '"'
        (readEscapedLines .plain (escapedText 2 (row + 1) (char :: others) ++ rest)) := by
  refine readEscapedLines_asItIs ?_ (by decide) (by decide)
  by_cases heads : char ≠ '"' ∨ 2 ≤ row + 1
  · obtain ⟨first, more, noQuote, written⟩ := escapedText_cons_of_ne heads others
    rw [written]
    exact (not_startsWithThree noQuote _).1
  · obtain ⟨isQuote, short⟩ := not_or.mp heads
    rw [not_not] at isQuote
    subst isQuote
    cases others with
    | nil =>
      rcases goesOn with isOne | differ | filled
      · omega
      · exact absurd rfl differ
      · exact absurd rfl filled
    | cons next others =>
      have isZero : row = 0 := by omega
      subst isZero
      obtain ⟨first, more, noQuote, written⟩ :=
        escapedText_cons_of_ne (Or.inr (Nat.le_refl 2) : next ≠ '"' ∨ 2 ≤ 2) others
      have split : escapedText 2 1 ('"' :: next :: others) = '"' :: first :: more := by
        rw [escapedText, if_pos rfl, if_pos (by decide), written]
      rw [split]
      exact (not_startsWithThree noQuote _).2

/-- Three quotes close a text, and one more quote before them belongs to it. -/
theorem readEscapedLines_close {rest : List Char} (closed : rest.head? ≠ some '"') :
    readEscapedLines .plain ('"' :: '"' :: '"' :: rest) = some ([], rest) ∧
      readEscapedLines .plain ('"' :: '"' :: '"' :: '"' :: rest) = some (['"'], rest) := by
  have ends (more : List Char) (same : rest = '"' :: more) : False := closed (same ▸ rfl)
  constructor <;> rw [readEscapedLines] <;>
    first | exact ends | exact fun more => ends ('"' :: more) | nofun

/-- Between three double quotes every text is read as it was written. -/
theorem readEscapedLines_escapedText {rest : List Char} (closed : rest.head? ≠ some '"')
    (row : Nat) (text : List Char) :
    readEscapedLines .plain (escapedText 2 row text ++ '"' :: '"' :: '"' :: rest) =
      some (text, rest) := by
  have reads := readEscapedLines_readsEscapes
  induction text generalizing row with
  | nil => exact (readEscapedLines_close closed).1
  | cons char others inductionHypothesis =>
    by_cases isQuote : char = '"'
    · subst isQuote
      by_cases short : row < 2
      · have written : escapedText 2 row ('"' :: others) =
            '"' :: escapedText 2 (row + 1) others := by
          rw [escapedText, if_pos rfl, if_pos short]
        rw [written]
        cases others with
        | nil => exact (readEscapedLines_close closed).2
        | cons next more =>
          by_cases last : row = 0 ∧ next = '"' ∧ more = []
          · obtain ⟨rfl, rfl, rfl⟩ := last
            rfl
          · have goesOn : row = 1 ∨ next ≠ '"' ∨ more ≠ [] := by
              by_cases isZero : row = 0
              · exact Or.inr (not_and_or.mp fun both => last ⟨isZero, both⟩)
              · exact Or.inl (by omega)
            rw [List.cons_append, readEscapedLines_quote goesOn, inductionHypothesis]
            rfl
      · have written : escapedText 2 row ('"' :: others) =
            '\\' :: '"' :: escapedText 2 0 others := by
          rw [escapedText, if_pos rfl, if_neg short]
        rw [written]
        exact (reads.escape rfl _).trans (congrArg (putBefore '"') (inductionHypothesis 0))
    · by_cases isLineEnd : char = '\n'
      · subst isLineEnd
        refine (readEscapedLines_asItIs ?_ (by decide) (by decide)).trans
          (congrArg (putBefore '\n') (inductionHypothesis 0))
        exact fun ⟨_, same⟩ => isQuote (List.cons.inj same).1
      · have written : escapedText 2 row (char :: others) =
            escapedChar char ++ escapedText 2 0 others := by
          rw [escapedText, if_neg isQuote, if_neg isLineEnd]
        rw [written, List.append_assoc, reads.escapedChar isQuote isLineEnd, inductionHypothesis]
        rfl

/-! ### Rows of quotes -/

theorem le_longestRow (counted : Char) (row : Nat) (text : List Char) :
    row ≤ longestRow counted row text := by
  induction text generalizing row with
  | nil => exact Nat.le_refl row
  | cons char others inductionHypothesis =>
    unfold longestRow
    split
    · exact Nat.le_trans (Nat.le_succ row) (inductionHypothesis (row + 1))
    · exact Nat.le_max_left _ _

theorem longestRow_mono (counted : Char) {row more : Nat} (le : row ≤ more) (text : List Char) :
    longestRow counted row text ≤ longestRow counted more text := by
  induction text generalizing row more with
  | nil => exact le
  | cons char others inductionHypothesis =>
    unfold longestRow
    split
    · exact inductionHypothesis (Nat.succ_le_succ le)
    · omega

/-- The rows of a text are no longer without its first character. -/
theorem longestRow_tail_le (counted char : Char) (text : List Char) :
    longestRow counted 0 text ≤ longestRow counted 0 (char :: text) := by
  conv_rhs => unfold longestRow
  split
  · exact longestRow_mono counted (Nat.zero_le 1) text
  · exact Nat.le_max_right _ _

/-- Without rows of a character the text does not have it. -/
theorem not_mem_of_longestRow {counted : Char} {text : List Char}
    (none : longestRow counted 0 text = 0) : ∀ char ∈ text, char ≠ counted := by
  induction text with
  | nil => exact fun _ nothing => absurd nothing List.not_mem_nil
  | cons first others inductionHypothesis =>
    intro char member
    rcases List.mem_cons.mp member with rfl | later
    · rintro rfl
      have filled := le_longestRow char (0 + 1) others
      unfold longestRow at none
      rw [if_pos rfl] at none
      omega
    · have shorter := longestRow_tail_le counted first others
      exact inductionHypothesis (by omega) char later

/-- A character is read as it is where the closing quotes do not start. -/
theorem readLiteralLines_asItIs {char : Char} {rest : List Char}
    (noClose : ¬ StartsWithThree '\'' (char :: rest)) (allowed : isForbidden char = false) :
    readLiteralLines (char :: rest) = putBefore char (readLiteralLines rest) := by
  rw [readLiteralLines, allowed, if_neg Bool.false_ne_true]
  all_goals
    rintro _ rfl rfl
    exact noClose ⟨_, rfl⟩

theorem readLiteralLines_close {rest : List Char} (closed : rest.head? ≠ some '\'') :
    readLiteralLines ('\'' :: '\'' :: '\'' :: rest) = some ([], rest) ∧
      readLiteralLines ('\'' :: '\'' :: '\'' :: '\'' :: rest) = some (['\''], rest) := by
  have ends (more : List Char) (same : rest = '\'' :: more) : False := closed (same ▸ rfl)
  constructor <;> rw [readLiteralLines] <;>
    first | exact ends | exact fun more => ends ('\'' :: more)

/-- Between three single quotes a text is read that has no three of them in a row. -/
theorem readLiteralLines_append {rest : List Char} (closed : rest.head? ≠ some '\'')
    {text : List Char} (short : longestRow '\'' 0 text ≤ 2)
    (allowed : ∀ char ∈ text, isForbidden char = false) :
    readLiteralLines (text ++ '\'' :: '\'' :: '\'' :: rest) = some (text, rest) := by
  induction text with
  | nil => exact (readLiteralLines_close closed).1
  | cons char others inductionHypothesis =>
    have after := inductionHypothesis (Nat.le_trans (longestRow_tail_le _ char others) short)
      fun other member => allowed other (List.mem_cons_of_mem _ member)
    have goesOn (noClose : ¬ StartsWithThree '\''
        (char :: (others ++ '\'' :: '\'' :: '\'' :: rest))) :
        readLiteralLines (char :: others ++ '\'' :: '\'' :: '\'' :: rest) =
          some (char :: others, rest) := by
      rw [List.cons_append, readLiteralLines_asItIs noClose (allowed char List.mem_cons_self),
        after]
      rfl
    by_cases isQuote : char = '\''
    · subst isQuote
      match others with
      | [] => exact (readLiteralLines_close closed).2
      | next :: more =>
        by_cases again : next = '\''
        · subst again
          match more with
          | [] => rfl
          | third :: more =>
            refine goesOn (not_startsWithThree ?_ _).2
            rintro rfl
            have three := le_longestRow '\'' (0 + 1 + 1 + 1) more
            simp only [longestRow, if_true] at short
            omega
        · exact goesOn (not_startsWithThree again _).1
    · exact goesOn fun ⟨_, same⟩ => isQuote (List.cons.inj same).1

/-! ### Texts in quotes -/

/-- A text that does not start with three quotes is not between three. -/
theorem readText_short {text : List Char} (noDoubles : ¬ StartsWithThree '"' text)
    (noSingles : ¬ StartsWithThree '\'' text) : readText text = readShortText text := by
  rw [readText]
  · exact fun rest same => noDoubles ⟨rest, same⟩
  · exact fun rest same => noSingles ⟨rest, same⟩

theorem dropLineEnd_of_head {text : List Char} (noLineEnd : text.head? ≠ some '\n') :
    dropLineEnd text = text := by
  rw [dropLineEnd]
  rintro _ rfl
  exact noLineEnd rfl

section

variable (text : List Char) {rest : List Char}

/-- A text with escapes between double quotes. -/
theorem readText_double (noDouble : rest.head? ≠ some '"') :
    readText (between ['"'] (escapedText 0 0 text) ++ rest) = some (text, rest) := by
  have written : between ['"'] (escapedText 0 0 text) ++ rest =
      '"' :: (escapedText 0 0 text ++ '"' :: rest) := by simp [between]
  have notThree : ¬ StartsWithThree '"' ('"' :: (escapedText 0 0 text ++ '"' :: rest)) := by
    cases text with
    | nil =>
      rintro ⟨_, same⟩
      rw [(List.cons.inj (List.cons.inj same).2).2] at noDouble
      exact noDouble rfl
    | cons char others =>
      obtain ⟨first, more, noQuote, starts⟩ :=
        escapedText_cons_of_ne (Or.inr (Nat.le_refl 0) : char ≠ '"' ∨ 0 ≤ 0) others
      rw [starts]
      exact (not_startsWithThree noQuote _).1
  rw [written, readText_short notThree fun ⟨_, same⟩ => by cases same]
  exact readEscaped_escapedText 0 text rest

/-- A text as it is between single quotes. -/
theorem readText_single (noSingle : rest.head? ≠ some '\'')
    (plain : ∀ char ∈ text, char ≠ '\'' ∧ char ≠ '\n' ∧ isForbidden char = false) :
    readText (between ['\''] text ++ rest) = some (text, rest) := by
  have written : between ['\''] text ++ rest = '\'' :: (text ++ '\'' :: rest) := by simp [between]
  have notThree : ¬ StartsWithThree '\'' ('\'' :: (text ++ '\'' :: rest)) := by
    cases text with
    | nil =>
      rintro ⟨_, same⟩
      rw [(List.cons.inj (List.cons.inj same).2).2] at noSingle
      exact noSingle rfl
    | cons char others => exact (not_startsWithThree (plain char List.mem_cons_self).1 _).1
  rw [written, readText_short (fun ⟨_, same⟩ => by cases same) notThree]
  exact readLiteral_append plain rest

/-- A text with escapes between three double quotes, on a line of its own. -/
theorem readText_lines (noDouble : rest.head? ≠ some '"') :
    readText (between (three '"') ('\n' :: escapedText 2 0 text) ++ rest) = some (text, rest) := by
  have written : between (three '"') ('\n' :: escapedText 2 0 text) ++ rest =
      '"' :: '"' :: '"' :: '\n' :: (escapedText 2 0 text ++ '"' :: '"' :: '"' :: rest) := by
    simp [between, three]
  rw [written]
  exact readEscapedLines_escapedText noDouble 0 text

/-- A text without line ends between three double quotes. -/
theorem readText_threeDouble (noDouble : rest.head? ≠ some '"')
    (oneLine : ∀ char ∈ text, char ≠ '\n') :
    readText (between (three '"') (escapedText 2 0 text) ++ rest) = some (text, rest) := by
  have written : between (three '"') (escapedText 2 0 text) ++ rest =
      '"' :: '"' :: '"' :: (escapedText 2 0 text ++ '"' :: '"' :: '"' :: rest) := by
    simp [between, three]
  have noLineEnd : (escapedText 2 0 text ++ '"' :: '"' :: '"' :: rest).head? ≠ some '\n' := by
    cases text with
    | nil => exact fun same => by cases same
    | cons char others =>
      obtain ⟨first, more, starts, rfl | ⟨rfl, _⟩⟩ := escapedText_cons 2 0 char others
      · rw [starts]
        exact fun same => by cases same
      · rw [starts]
        exact fun same => oneLine first List.mem_cons_self (Option.some.inj same)
  rw [written]
  show readEscapedLines .plain (dropLineEnd _) = _
  rw [dropLineEnd_of_head noLineEnd]
  exact readEscapedLines_escapedText noDouble 0 text

/-- A text as it is between three single quotes. -/
theorem readText_threeSingle (noSingle : rest.head? ≠ some '\'')
    (short : longestRow '\'' 0 text ≤ 2)
    (plain : ∀ char ∈ text, char ≠ '\n' ∧ isForbidden char = false) :
    readText (between (three '\'') text ++ rest) = some (text, rest) := by
  have written : between (three '\'') text ++ rest =
      '\'' :: '\'' :: '\'' :: (text ++ '\'' :: '\'' :: '\'' :: rest) := by
    simp [between, three]
  have noLineEnd : (text ++ '\'' :: '\'' :: '\'' :: rest).head? ≠ some '\n' := by
    cases text with
    | nil => exact fun same => by cases same
    | cons char others =>
      exact fun same => (plain char List.mem_cons_self).1 (Option.some.inj same)
  rw [written]
  show readLiteralLines (dropLineEnd _) = _
  rw [dropLineEnd_of_head noLineEnd]
  exact readLiteralLines_append noSingle short fun char member => (plain char member).2

/-- The quotes that a text can be given. -/
inductive Quoted (text : List Char) : List Char → Prop where
  | lines : Quoted text (between (three '"') ('\n' :: escapedText 2 0 text))
  | double : Quoted text (between ['"'] (escapedText 0 0 text))
  | single (plain : ∀ char ∈ text, char ≠ '\'' ∧ char ≠ '\n' ∧ isForbidden char = false) :
      Quoted text (between ['\''] text)
  | threeDouble (oneLine : ∀ char ∈ text, char ≠ '\n') :
      Quoted text (between (three '"') (escapedText 2 0 text))
  | threeSingle (short : longestRow '\'' 0 text ≤ 2)
      (plain : ∀ char ∈ text, char ≠ '\n' ∧ isForbidden char = false) :
      Quoted text (between (three '\'') text)

/-- Those that the writer takes for a text can hold it. -/
theorem quote_quoted : Quoted text (quote text) := by
  unfold quote
  dsimp only
  split
  · exact .lines
  rename_i noLineEnds
  have oneLine : ∀ char ∈ text, char ≠ '\n' := by
    rintro char member rfl
    exact noLineEnds (List.contains_iff_mem.mpr member)
  split
  · exact .double
  rename_i notDouble
  have allowed : ∀ char ∈ text, isForbidden char = false := by
    intro char member
    rw [Bool.or_eq_true, not_or, List.any_eq_true, not_exists] at notDouble
    have neither := notDouble.1 char
    rw [not_and, Bool.or_eq_true, not_or, Bool.not_eq_true] at neither
    exact (neither member).1
  split
  · rename_i noSingles
    exact .single fun char member =>
      ⟨not_mem_of_longestRow (beq_iff_eq.mp noSingles) char member, oneLine char member,
        allowed char member⟩
  split
  · exact .threeDouble oneLine
  split
  · rename_i short
    exact .threeSingle (by simpa using short) fun char member =>
      ⟨oneLine char member, allowed char member⟩
  · exact .double

/-- Whatever the text, it is read from the quotes that are written for it, if no quote follows
them. -/
theorem readText_quote (noDouble : rest.head? ≠ some '"') (noSingle : rest.head? ≠ some '\'') :
    readText (quote text ++ rest) = some (text, rest) := by
  have quoted := quote_quoted text
  generalize quote text = written at quoted ⊢
  cases quoted with
  | lines => exact readText_lines text noDouble
  | double => exact readText_double text noDouble
  | single plain => exact readText_single text noSingle plain
  | threeDouble oneLine => exact readText_threeDouble text noDouble oneLine
  | threeSingle short plain => exact readText_threeSingle text noSingle short plain

end

/-- The last quote of the text and the closing quotes are four in a row. -/
example : quote "it's \"it\"".toList = "\"\"\"it's \"it\"\"\"\"".toList := by decide

/-! ### What stands in quotes -/

theorem digitChar_ne_carriageReturn : ∀ value < 16,
    '\r' ≠ (Nat.digitChar value).toUpper := by decide

/-- No carriage return is written as it is. -/
theorem not_mem_escapedChar (char : Char) : '\r' ∉ escapedChar char := by
  unfold escapedChar
  iterate 5
    split
    · decide
  split
  · rw [List.mem_cons, List.mem_cons]
    rintro (same | same | member)
    · exact absurd same (by decide)
    · exact absurd same (by decide)
    · obtain ⟨value, _, same⟩ := List.mem_map.mp member
      exact digitChar_ne_carriageReturn _ (Nat.mod_lt value (by decide)) same.symm
  · rename_i noReturn _ _
    exact fun member => noReturn (List.mem_singleton.mp member).symm

theorem not_mem_escapedText (most row : Nat) (text : List Char) :
    '\r' ∉ escapedText most row text := by
  induction text generalizing row with
  | nil => exact List.not_mem_nil
  | cons char others inductionHypothesis =>
    unfold escapedText
    split
    · split
      · simpa using inductionHypothesis (row + 1)
      · simpa using inductionHypothesis 0
    · split
      · split <;> simpa using inductionHypothesis 0
      · rw [List.mem_append, not_or]
        exact ⟨not_mem_escapedChar char, inductionHypothesis 0⟩

theorem not_mem_between {quotes text : List Char} (notQuotes : '\r' ∉ quotes)
    (notText : '\r' ∉ text) : '\r' ∉ between quotes text := by
  unfold between
  rw [List.mem_append, List.mem_append, not_or, not_or]
  exact ⟨⟨notQuotes, notText⟩, notQuotes⟩

/-- A text in quotes has no carriage return, which a reader of line ends might drop. -/
theorem not_mem_quote (text : List Char) : '\r' ∉ quote text := by
  have quoted := quote_quoted text
  have escaped (most : Nat) := not_mem_escapedText most 0 text
  have notForbidden (allowed : ∀ char ∈ text, isForbidden char = false) : '\r' ∉ text :=
    fun member => absurd (allowed '\r' member) (by decide)
  generalize quote text = written at quoted ⊢
  cases quoted with
  | lines =>
    refine not_mem_between (by decide) ?_
    rw [List.mem_cons, not_or]
    exact ⟨by decide, escaped 2⟩
  | double => exact not_mem_between (by decide) (escaped 0)
  | single plain =>
    exact not_mem_between (by decide) (notForbidden fun char member => (plain char member).2.2)
  | threeDouble oneLine => exact not_mem_between (by decide) (escaped 2)
  | threeSingle short plain =>
    exact not_mem_between (by decide) (notForbidden fun char member => (plain char member).2)

/-- What is written for a text starts with a quote. -/
theorem quote_cons (text : List Char) :
    ∃ mark others, quote text = mark :: others ∧ (mark = '"' ∨ mark = '\'') := by
  have quoted := quote_quoted text
  generalize quote text = written at quoted ⊢
  cases quoted with
  | lines | double | threeDouble => exact ⟨'"', _, rfl, Or.inl rfl⟩
  | single | threeSingle => exact ⟨'\'', _, rfl, Or.inr rfl⟩

end StubResolver.Toml
