/-
This file proves that whole numbers and truth values are read from the words that are written for
them. A word may be many things, and a number has to be told from dates, times and fractions, which
also start with digits. What tells them apart is the punctuation: a number has none but the sign.
-/

import StubResolver.Toml.Reader
import StubResolver.Proofs.Text.Digits

namespace StubResolver.Toml

/-! ### Pieces -/

/-- A text without separators is a single piece. -/
theorem splitAtEach_of_none {separates : Char → Bool} {text : List Char}
    (none : ∀ char ∈ text, separates char = false) : splitAtEach separates text = [text] := by
  induction text with
  | nil => rfl
  | cons char rest inductionHypothesis =>
    rw [splitAtEach, none char List.mem_cons_self,
      inductionHypothesis fun other later => none other (List.mem_cons_of_mem _ later)]
    rfl

/-! ### Words of digits -/

/-- Digits, perhaps with a minus sign before them. -/
inductive Numeral : List Char → Prop where
  | unsigned (digits : List Char) (all : ∀ char ∈ digits, char.isDigit = true) : Numeral digits
  | negative (digits : List Char) (all : ∀ char ∈ digits, char.isDigit = true) :
      Numeral ('-' :: digits)

/-- Digits are a single piece if what separates is no digit. -/
theorem splitAtEach_digits {separates : Char → Bool} {digits : List Char}
    (all : ∀ char ∈ digits, char.isDigit = true)
    (apart : ∀ char, separates char = true → char.isDigit = false) :
    splitAtEach separates digits = [digits] := by
  refine splitAtEach_of_none fun char member => ?_
  rw [← Bool.not_eq_true]
  exact fun separated => Bool.noConfusion ((all char member).symm.trans (apart char separated))

theorem Numeral.onePiece {separates : Char → Bool} {word : List Char} (numeral : Numeral word)
    (minus : separates '-' = false)
    (apart : ∀ char, separates char = true → char.isDigit = false) :
    splitAtEach separates word = [word] := by
  cases numeral with
  | unsigned _ all => exact splitAtEach_digits all apart
  | negative digits all =>
    rw [splitAtEach, minus, splitAtEach_digits all apart]
    rfl

theorem Numeral.take {word : List Char} (numeral : Numeral word) (count : Nat) :
    Numeral (word.take count) := by
  cases numeral with
  | unsigned _ all => exact .unsigned _ fun char member => all char (List.mem_of_mem_take member)
  | negative digits all =>
    cases count with
    | zero => exact .unsigned [] fun _ nothing => absurd nothing List.not_mem_nil
    | succ count => exact .negative _ fun char member => all char (List.mem_of_mem_take member)

/-- A numeral has too few signs for a date. -/
theorem Numeral.isDate {word : List Char} (numeral : Numeral word) : isDate word = false := by
  have apart : ∀ char, (char == '-') = true → char.isDigit = false := by
    intro char same
    rw [beq_iff_eq.mp same]
    rfl
  unfold Toml.isDate
  cases numeral with
  | unsigned _ all => rw [splitAtEach_digits all apart]
  | negative digits all =>
    rw [splitAtEach, splitAtEach_digits all apart]
    rfl

/-- A numeral is no moment: it is neither a date nor a time, and does not start with a date. -/
theorem Numeral.isMoment {word : List Char} (numeral : Numeral word) : isMoment word = false := by
  have notTime : isTime word = false := by
    unfold isTime
    rw [numeral.onePiece rfl]
    intro char same
    rw [beq_iff_eq.mp same]
    rfl
  unfold Toml.isMoment
  rw [numeral.isDate, notTime, (numeral.take 10).isDate]
  split <;> rfl

theorem Numeral.splitSign {word : List Char} (numeral : Numeral word) :
    ∃ digits, (∀ char ∈ digits, char.isDigit = true) ∧
      (splitSign word = (none, digits) ∧ word = digits ∨
        splitSign word = (some '-', digits) ∧ word = '-' :: digits) := by
  cases numeral with
  | unsigned digits all =>
    refine ⟨word, all, Or.inl ⟨?_, rfl⟩⟩
    rw [Toml.splitSign]
    · rintro rest rfl
      exact Bool.noConfusion (all '+' List.mem_cons_self)
    · rintro rest rfl
      exact Bool.noConfusion (all '-' List.mem_cons_self)
  | negative digits all => exact ⟨digits, all, Or.inr ⟨rfl, rfl⟩⟩

/-- A numeral is no fraction, for it has neither a point nor an exponent. -/
theorem Numeral.isFraction {word : List Char} (numeral : Numeral word) :
    isFraction word = false := by
  obtain ⟨digits, all, split⟩ := numeral.splitSign
  have unsigned : (Toml.splitSign word).2 = digits := by
    rcases split with ⟨split, _⟩ | ⟨split, _⟩ <;> rw [split]
  have notWord : ¬ (digits = "inf".toList ∨ digits = "nan".toList) := by
    rintro (rfl | rfl)
    · exact Bool.noConfusion (all 'i' (by decide))
    · exact Bool.noConfusion (all 'n' (by decide))
  have noPower : splitAtEach (fun char => char == 'e' || char == 'E') digits = [digits] := by
    refine splitAtEach_digits all fun char isMark => ?_
    rcases (Bool.or_eq_true _ _).mp isMark with same | same
    · rw [beq_iff_eq.mp same]
      rfl
    · rw [beq_iff_eq.mp same]
      rfl
  have noPoint : splitAtEach (· == '.') digits = [digits] := by
    refine splitAtEach_digits all fun char same => ?_
    rw [beq_iff_eq.mp same]
    rfl
  unfold Toml.isFraction
  dsimp only
  rw [unsigned, if_neg notWord, noPower]
  dsimp only
  rw [noPoint]
  dsimp only
  split <;> rfl

/-! ### Numbers -/

/-- The number that digits write. -/
theorem numberIn_eq {digits : List Char} (all : ∀ char ∈ digits, char.isDigit = true) :
    numberIn 10 digits = Nat.ofDigitChars 10 digits 0 := by
  have general (start : Nat) :
      digits.foldl (fun value digit => value * 10 + (hexDigit? digit).getD 0) start =
        Nat.ofDigitChars 10 digits start := by
    induction digits generalizing start with
    | nil => rfl
    | cons digit rest inductionHypothesis =>
      rw [List.foldl_cons, Nat.ofDigitChars_cons,
        hexDigit?_of_isDigit (all digit List.mem_cons_self), Option.getD_some, Nat.mul_comm]
      exact inductionHypothesis (fun other later => all other (List.mem_cons_of_mem _ later)) _
  exact general 0

/-- The digits of a number are the digits of a decimal number. -/
theorem decimalDigits?_toDigits (value : Nat) :
    decimalDigits? (Nat.toDigits 10 value) = some (Nat.toDigits 10 value) := by
  have all : ∀ char ∈ Nat.toDigits 10 value, char.isDigit = true := fun _ member =>
    Nat.isDigit_of_mem_toDigits (by decide) (by decide) member
  have onePiece : splitAtEach (· == '_') (Nat.toDigits 10 value) = [Nat.toDigits 10 value] := by
    refine splitAtEach_digits all fun char same => ?_
    rw [beq_iff_eq.mp same]
    rfl
  have ungrouped : ungroup? Char.isDigit (Nat.toDigits 10 value) =
      some (Nat.toDigits 10 value) := by
    unfold ungroup?
    dsimp only
    rw [onePiece, if_pos]
    · rw [List.flatten_singleton]
    · simpa [Nat.toDigits_ne_nil] using all
  unfold decimalDigits?
  rw [ungrouped, Option.filter_some, if_pos]
  rw [decide_eq_true_eq]
  by_cases isZero : value = 0
  · exact Or.inr (by rw [isZero]; rfl)
  · exact Or.inl (head?_toDigits isZero)

/-- A whole number as it is written. -/
def numeralOf (value : Int) : List Char :=
  if value < 0 then '-' :: Nat.toDigits 10 value.natAbs else Nat.toDigits 10 value.natAbs

theorem numeralOf_numeral (value : Int) : Numeral (numeralOf value) := by
  have all : ∀ char ∈ Nat.toDigits 10 value.natAbs, char.isDigit = true := fun _ member =>
    Nat.isDigit_of_mem_toDigits (by decide) (by decide) member
  unfold numeralOf
  split
  · exact .negative _ all
  · exact .unsigned _ all

theorem toList_toString_nat (value : Nat) : (toString value).toList = numeralOf value := by
  unfold numeralOf
  rw [if_neg (by omega), Int.natAbs_natCast]
  exact Nat.toList_repr

theorem toList_toString_int (value : Int) : (toString value).toList = numeralOf value := by
  unfold numeralOf
  rw [Int.toString_eq_repr, Int.repr_eq_if]
  split
  · rename_i nonnegative
    rw [if_neg (by omega), Nat.toList_repr]
    congr 1
    omega
  · rename_i negative
    rw [if_pos (by omega), String.toList_append, Nat.toList_repr]
    have same : (-value).toNat = value.natAbs := by omega
    rw [same]
    rfl

/-- Digits name no base. -/
theorem Numeral.basedWhole? {word : List Char} (numeral : Numeral word) :
    basedWhole? word = none := by
  have noBase (base : Char) (isLetter : base.isDigit = false) (rest : List Char)
      (same : word = '0' :: base :: rest) : False := by
    subst same
    cases numeral with
    | unsigned _ all =>
      have isDigit := all base (List.mem_cons_of_mem _ List.mem_cons_self)
      exact Bool.noConfusion (isLetter.symm.trans isDigit)
  rw [Toml.basedWhole?]
  · exact noBase 'x' rfl
  · exact noBase 'o' rfl
  · exact noBase 'b' rfl

/-- A whole number is read from its numeral. -/
theorem whole?_numeralOf (value : Int) : whole? (numeralOf value) = some value := by
  have all : ∀ char ∈ Nat.toDigits 10 value.natAbs, char.isDigit = true := fun _ member =>
    Nat.isDigit_of_mem_toDigits (by decide) (by decide) member
  have number : numberIn 10 (Nat.toDigits 10 value.natAbs) = value.natAbs :=
    (numberIn_eq all).trans Nat.ofDigitChars_ten_toDigits
  unfold whole?
  rw [(numeralOf_numeral value).basedWhole?]
  dsimp only
  unfold numeralOf
  split
  · rename_i negative
    have signed : splitSign ('-' :: Nat.toDigits 10 value.natAbs) =
        (some '-', Nat.toDigits 10 value.natAbs) := rfl
    rw [signed]
    dsimp only
    rw [decimalDigits?_toDigits, Option.map_some, if_pos rfl, number]
    congr 1
    omega
  · rename_i nonnegative
    have unsigned : splitSign (Nat.toDigits 10 value.natAbs) =
        (none, Nat.toDigits 10 value.natAbs) := by
      obtain ⟨digits, _, ⟨split, rfl⟩ | ⟨_, signed⟩⟩ := (Numeral.unsigned _ all).splitSign
      · exact split
      · rw [signed] at all
        exact Bool.noConfusion (all '-' List.mem_cons_self)
    rw [unsigned]
    dsimp only
    rw [decimalDigits?_toDigits, Option.map_some, if_neg (by decide), number]
    congr 1
    omega

/-- A whole number that is not too large is what its numeral means. -/
theorem scalar?_numeralOf {value : Int} (fits : fits128 value = true) :
    scalar? (numeralOf value) = some (.whole value) := by
  have numeral := numeralOf_numeral value
  have notWord (letter : Char) (rest : List Char) (isLetter : letter.isDigit = false)
      (notMinus : letter ≠ '-') : numeralOf value ≠ letter :: rest := by
    intro same
    rw [same] at numeral
    cases numeral with
    | unsigned _ all => exact Bool.noConfusion (isLetter.symm.trans (all letter List.mem_cons_self))
    | negative _ _ => exact notMinus rfl
  have notTrue : numeralOf value ≠ "true".toList := notWord 't' _ rfl (by decide)
  have notFalse : numeralOf value ≠ "false".toList := notWord 'f' _ rfl (by decide)
  unfold scalar?
  rw [if_neg notTrue, if_neg notFalse, numeral.isMoment, numeral.isFraction, whole?_numeralOf]
  simp only [Bool.false_eq_true, if_false, fits, if_true]

/-! ### Reading words -/

/-- A word that is no date is read up to a character that stands in no word. -/
theorem readScalar_append {word rest : List Char} (all : ∀ char ∈ word, isWordChar char = true)
    (ends : ∀ char ∈ rest.head?, isWordChar char = false) (notDate : isDate word = false) :
    readScalar (word ++ rest) = (scalar? word).map (·, rest) := by
  obtain ⟨taken, dropped⟩ := takeWhile_append_of_ends all ends
  unfold readScalar
  dsimp only
  rw [taken, dropped, notDate]

theorem Numeral.isWordChar {word : List Char} (numeral : Numeral word) :
    ∀ char ∈ word, isWordChar char = true := by
  have digit {char : Char} (isDigit : char.isDigit = true) : Toml.isWordChar char = true := by
    simp [Toml.isWordChar, isBareKeyChar, Char.isAlphanum, isDigit]
  cases numeral with
  | unsigned _ all => exact fun char member => digit (all char member)
  | negative digits all =>
    intro char member
    rcases List.mem_cons.mp member with rfl | inside
    · decide
    · exact digit (all char inside)

/-- A number is read from its numeral. -/
theorem readScalar_numeralOf {value : Int} (fits : fits128 value = true) {rest : List Char}
    (ends : ∀ char ∈ rest.head?, isWordChar char = false) :
    readScalar (numeralOf value ++ rest) = some (.whole value, rest) := by
  have numeral := numeralOf_numeral value
  rw [readScalar_append numeral.isWordChar ends numeral.isDate, scalar?_numeralOf fits]
  rfl

/-- A truth value is read from its word. -/
theorem readScalar_truth (value : Bool) {rest : List Char}
    (ends : ∀ char ∈ rest.head?, isWordChar char = false) :
    readScalar ((if value then "true" else "false").toList ++ rest) =
      some (.truth value, rest) := by
  cases value with
  | false =>
    rw [readScalar_append (List.all_eq_true.mp (by decide)) ends (by decide)]
    rfl
  | true =>
    rw [readScalar_append (List.all_eq_true.mp (by decide)) ends (by decide)]
    rfl

end StubResolver.Toml
