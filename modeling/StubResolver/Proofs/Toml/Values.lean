/-
This file proves that values are read where they stand at the end of a line. A value that is a text,
a number or a truth value is read up to the line end, and a list of texts up to its closing bracket,
which may be many lines further on.

What a value is read as does not depend on what the document goes on with, so that a value and what
it means can be put into any document.
-/

import StubResolver.Proofs.Toml.Texts
import StubResolver.Proofs.Toml.Words

namespace StubResolver.Toml

/-! ### Blanks -/

theorem skipGap_of_head {text : List Char} (noGap : ∀ char ∈ text.head?, isGap char = false) :
    skipGap text = text := by
  unfold skipGap
  cases text with
  | nil => rfl
  | cons char rest =>
    rw [List.dropWhile_cons_of_neg]
    rw [noGap char rfl]
    exact Bool.false_ne_true

/-- Whether a character may be passed over between statements, or starts a comment. -/
def isVoid (char : Char) : Bool := char == '\n' || char == '#' || isGap char

/-- What stands in a word is not passed over. -/
theorem isVoid_of_isWordChar {char : Char} (isWord : isWordChar char = true) :
    isVoid char = false := by
  rw [← Bool.not_eq_true]
  intro void
  simp only [isVoid, isGap, Bool.or_eq_true, beq_iff_eq] at void
  rcases void with (rfl | rfl) | rfl | rfl <;> exact Bool.noConfusion isWord

theorem isGap_of_isWordChar {char : Char} (isWord : isWordChar char = true) :
    isGap char = false :=
  (Bool.or_eq_false_iff.mp (isVoid_of_isWordChar isWord)).2

theorem skipVoid_of_head {text : List Char} (solid : ∀ char ∈ text.head?, isVoid char = false) :
    skipVoid false text = some text := by
  cases text with
  | nil => rfl
  | cons char rest =>
    have isSolid := solid char rfl
    simp only [isVoid, Bool.or_eq_false_iff, beq_eq_false_iff_ne] at isSolid
    obtain ⟨⟨noLineEnd, noComment⟩, noGap⟩ := isSolid
    rw [skipVoid, if_neg noLineEnd, if_neg Bool.false_ne_true, if_neg noComment, noGap,
      if_neg Bool.false_ne_true]

/-! ### Values -/

/-- A text starts with a quote. -/
theorem readText_of_head {text : List Char} (noDouble : text.head? ≠ some '"')
    (noSingle : text.head? ≠ some '\'') : readText text = none := by
  rw [readText_short]
  · rw [readShortText]
    · rintro rest rfl
      exact noDouble rfl
    · rintro rest rfl
      exact noSingle rfl
  · rintro ⟨_, rfl⟩
    exact noDouble rfl
  · rintro ⟨_, rfl⟩
    exact noSingle rfl

/-- What is in square brackets is a list. -/
theorem readValue_of_list (depth : Nat) {text rest : List Char} {items : List Value}
    (isList : readItems ']' (readValue depth) (text.length + 1) text = some (items, rest)) :
    readValue (depth + 1) ('[' :: text) = some (.list items, rest) := by
  rw [readValue, isList, Option.map_some]

section

variable (depth : Nat) {text : List Char} (noList : text.head? ≠ some '[')
  (noTable : text.head? ≠ some '\x7b')
include noList noTable

/-- What has no brackets around it is a text if it has quotes. -/
theorem readValue_of_text {found rest : List Char} (isText : readText text = some (found, rest)) :
    readValue depth text = some (.text (String.ofList found), rest) := by
  rw [readValue, isText]
  all_goals
    rintro _ rfl
    first | exact noList rfl | exact noTable rfl

/-- What has neither brackets nor quotes around it is a word. -/
theorem readValue_of_word (noText : readText text = none) :
    readValue depth text = readScalar text := by
  rw [readValue, noText]
  all_goals
    rintro _ rfl
    first | exact noList rfl | exact noTable rfl

end

/-- A text in quotes is a value, whatever it is nested in. -/
theorem readValue_quote (depth : Nat) (text : List Char) {rest : List Char}
    (noDouble : rest.head? ≠ some '"') (noSingle : rest.head? ≠ some '\'') :
    readValue depth (quote text ++ rest) = some (.text (String.ofList text), rest) := by
  have isText := readText_quote text noDouble noSingle
  obtain ⟨mark, others, starts, rfl | rfl⟩ := quote_cons text
  · rw [starts] at isText ⊢
    exact readValue_of_text depth (by simp) (by simp) isText
  · rw [starts] at isText ⊢
    exact readValue_of_text depth (by simp) (by simp) isText

/-- What is written means a value, where it stands at the end of a line. -/
structure Means (written : List Char) (value : Value) : Prop where
  starts : ∀ char ∈ written.head?, isGap char = false
  filled : written ≠ []
  unbroken : '\r' ∉ written
  reads : ∀ rest, readValue greatestDepth (written ++ '\n' :: rest) = some (value, '\n' :: rest)

theorem quote_means (text : List Char) : Means (quote text) (.text (String.ofList text)) := by
  obtain ⟨mark, others, starts, isMark⟩ := quote_cons text
  refine ⟨?_, ?_, not_mem_quote text, fun rest => ?_⟩
  · rw [starts]
    rintro char same
    cases same
    rcases isMark with rfl | rfl <;> rfl
  · rw [starts]
    exact List.cons_ne_nil _ _
  · exact readValue_quote _ text (by simp) (by simp)

/-- A word means what it is read as. -/
theorem word_means {word : List Char} {value : Value} (filled : word ≠ [])
    (all : ∀ char ∈ word, isWordChar char = true)
    (reads : ∀ rest, readScalar (word ++ '\n' :: rest) = some (value, '\n' :: rest)) :
    Means word value := by
  have noOther {other : Char} (isOther : isWordChar other = false) (rest : List Char) :
      (word ++ rest).head? ≠ some other := by
    intro same
    rw [List.head?_append_of_ne_nil _ filled] at same
    exact Bool.noConfusion ((all other (List.mem_of_head? same)).symm.trans isOther)
  refine ⟨?_, filled, ?_, fun rest => ?_⟩
  · exact fun char isFirst => isGap_of_isWordChar (all char (List.mem_of_head? isFirst))
  · exact fun member => Bool.noConfusion (all _ member)
  · rw [readValue_of_word _ (noOther rfl _) (noOther rfl _)]
    · exact reads rest
    · exact readText_of_head (noOther rfl _) (noOther rfl _)

theorem numeralOf_means {value : Int} (fits : fits128 value = true) :
    Means (numeralOf value) (.whole value) := by
  have numeral := numeralOf_numeral value
  refine word_means ?_ numeral.isWordChar fun rest => readScalar_numeralOf fits ?_
  · unfold numeralOf
    split
    · exact List.cons_ne_nil _ _
    · exact Nat.toDigits_ne_nil
  · intro char isFirst
    cases isFirst
    rfl

theorem truth_means (value : Bool) :
    Means (if value then "true" else "false").toList (.truth value) := by
  refine word_means ?_ (List.all_eq_true.mp ?_) fun rest => readScalar_truth value ?_
  · cases value <;> decide
  · cases value <;> decide
  · intro char isFirst
    cases isFirst
    rfl

/-! ### Lists -/

/-- What may be passed over before an item does not count. -/
theorem readItems_congr {Item : Type} {close : Char} {readItem : Reads Item}
    {text other : List Char} (same : skipVoid false text = skipVoid false other) (most : Nat) :
    readItems close readItem most text = readItems close readItem most other := by
  cases most with
  | zero => rfl
  | succ most => rw [readItems, readItems, same]

/-- An item in quotes is read with those after the comma that follows it, and as the last when the
closing bracket follows. -/
theorem readItems_quote (depth most : Nat) (item : List Char) {next : Char}
    (isNext : next = ',' ∨ next = ']') (rest : List Char) :
    readItems ']' (readValue depth) (most + 1) (quote item ++ next :: rest) =
      if next = ',' then
        (readItems ']' (readValue depth) most rest).map fun found =>
          (.text (String.ofList item) :: found.1, found.2)
      else
        some ([.text (String.ofList item)], rest) := by
  have first : readValue depth (quote item ++ next :: rest) =
      some (.text (String.ofList item), next :: rest) := by
    refine readValue_quote depth item ?_ ?_ <;> rcases isNext with rfl | rfl <;> simp
  have ended : skipVoid false (next :: rest) = some (next :: rest) := by
    rcases isNext with rfl | rfl <;> rfl
  obtain ⟨mark, others, starts, isMark⟩ := quote_cons item
  have begun : skipVoid false (mark :: (others ++ next :: rest)) =
      some (mark :: (others ++ next :: rest)) := by
    rcases isMark with rfl | rfl <;> rfl
  have noClose : mark ≠ ']' := by
    rcases isMark with rfl | rfl <;> decide
  rw [starts, List.cons_append] at first ⊢
  rw [readItems, begun]
  simp only [Option.bind_eq_bind, Option.bind_some, if_neg noClose, first, ended]
  rcases isNext with rfl | rfl
  · rw [if_pos rfl, if_pos rfl]
    cases readItems ']' (readValue depth) most rest <;> rfl
  · rfl

/-- Items, each on a line of its own, as they stand behind an opening bracket. -/
def itemLines (items : List (List Char)) : List Char :=
  items.flatMap fun item => "    ".toList ++ quote item ++ ",\n".toList

/-- The items of a list are read as far as the closing bracket. -/
theorem readItems_lines (depth : Nat) (items : List (List Char)) (rest : List Char) {most : Nat}
    (enough : items.length < most) :
    readItems ']' (readValue depth) most ('\n' :: (itemLines items ++ ']' :: rest)) =
      some (items.map fun item => .text (String.ofList item), rest) := by
  obtain ⟨most, rfl⟩ := Nat.exists_eq_add_one_of_ne_zero (Nat.ne_zero_of_lt enough)
  induction items generalizing most with
  | nil => rfl
  | cons item items inductionHypothesis =>
    have enoughLater := Nat.lt_of_succ_lt_succ enough
    obtain ⟨most, rfl⟩ := Nat.exists_eq_add_one_of_ne_zero (Nat.ne_zero_of_lt enoughLater)
    have layout : '\n' :: (itemLines (item :: items) ++ ']' :: rest) =
        '\n' :: ' ' :: ' ' :: ' ' :: ' ' :: (quote item ++
          ',' :: '\n' :: (itemLines items ++ ']' :: rest)) := by
      simp [itemLines]
    calc readItems ']' (readValue depth) (most + 1 + 1)
          ('\n' :: (itemLines (item :: items) ++ ']' :: rest))
      _ = readItems ']' (readValue depth) (most + 1 + 1)
          (quote item ++ ',' :: '\n' :: (itemLines items ++ ']' :: rest)) := by
        rw [layout]
        exact readItems_congr rfl _
      _ = _ := by
        rw [readItems_quote _ _ _ (Or.inl rfl), inductionHypothesis _ enoughLater]
        rfl

theorem length_le_itemLines (items : List (List Char)) :
    items.length ≤ (itemLines items).length := by
  induction items with
  | nil => exact Nat.le_refl 0
  | cons item items inductionHypothesis =>
    have comma : ",\n".toList.length = 2 := rfl
    simp only [itemLines, List.flatMap_cons, List.length_append, List.length_cons] at *
    omega

theorem not_mem_itemLines (items : List (List Char)) : '\r' ∉ itemLines items := by
  intro member
  obtain ⟨item, _, inside⟩ := List.mem_flatMap.mp member
  rw [List.mem_append, List.mem_append] at inside
  rcases inside with (blank | quoted) | comma
  · exact absurd blank (by decide)
  · exact not_mem_quote item quoted
  · exact absurd comma (by decide)

/-- A list means its items, if these are read up to the closing bracket. -/
theorem list_means {inside : List Char} {items : List Value}
    (unbroken : '\r' ∉ inside)
    (reads : ∀ depth most rest, inside.length < most →
      readItems ']' (readValue depth) most (inside ++ rest) = some (items, rest)) :
    Means ('[' :: inside) (.list items) := by
  refine ⟨?_, List.cons_ne_nil _ _, ?_, fun rest => ?_⟩
  · intro char isFirst
    cases isFirst
    rfl
  · rw [List.mem_cons, not_or]
    exact ⟨by decide, unbroken⟩
  · have enough : inside.length < (inside ++ '\n' :: rest).length + 1 := by
      rw [List.length_append]
      omega
    exact readValue_of_list _ (reads _ _ _ enough)

theorem noItems_means : Means "[]".toList (.list []) := by
  refine list_means (by decide) fun depth most rest enough => ?_
  obtain ⟨most, rfl⟩ := Nat.exists_eq_add_one_of_ne_zero (Nat.ne_zero_of_lt enough)
  rfl

/-- A list with a single text stands in one line. -/
theorem oneItem_means (item : List Char) :
    Means ('[' :: (quote item ++ [']'])) (.list [.text (String.ofList item)]) := by
  refine list_means ?_ fun depth most rest enough => ?_
  · rw [List.mem_append, not_or]
    exact ⟨not_mem_quote item, by decide⟩
  · obtain ⟨most, rfl⟩ := Nat.exists_eq_add_one_of_ne_zero (Nat.ne_zero_of_lt enough)
    rw [List.append_assoc, List.singleton_append, readItems_quote _ _ _ (Or.inr rfl)]
    rfl

/-- A list of several texts has a line for each. -/
theorem itemLines_means (items : List (List Char)) :
    Means ('[' :: '\n' :: (itemLines items ++ [']']))
      (.list (items.map fun item => .text (String.ofList item))) := by
  refine list_means ?_ fun depth most rest enough => ?_
  · rw [List.mem_cons, List.mem_append, not_or, not_or]
    exact ⟨by decide, not_mem_itemLines items, by decide⟩
  · have atLeast := length_le_itemLines items
    have layout : '\n' :: (itemLines items ++ [']']) ++ rest =
        '\n' :: (itemLines items ++ ']' :: rest) := by simp
    rw [layout, readItems_lines]
    rw [List.length_cons, List.length_append] at enough
    omega

end StubResolver.Toml
