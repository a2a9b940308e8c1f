/-
This file proves that numbers are read from the digits that are written for them, in decimal and in
hexadecimal form, up to the first character that is no digit.
-/

import StubResolver.Text.Decimal
import StubResolver.Text.Table
import Mathlib.Data.List.Basic

namespace StubResolver

/-! ### Words -/

/-- Nothing is taken of a text that does not go on with the characters of a word. -/
theorem takeWhile_of_ends {holds : Char → Bool} {rest : List Char}
    (ends : ∀ char ∈ rest.head?, holds char = false) :
    rest.takeWhile holds = [] ∧ rest.dropWhile holds = rest := by
  cases rest with
  | nil => exact ⟨rfl, rfl⟩
  | cons char others =>
    have stops : ¬ holds char = true := by
      rw [ends char rfl]
      exact Bool.false_ne_true
    rw [List.takeWhile_cons_of_neg stops, List.dropWhile_cons_of_neg stops]
    exact ⟨rfl, rfl⟩

/-- A word is taken as far as its characters go. -/
theorem takeWhile_append_of_ends {holds : Char → Bool} {word rest : List Char}
    (all : ∀ char ∈ word, holds char = true) (ends : ∀ char ∈ rest.head?, holds char = false) :
    (word ++ rest).takeWhile holds = word ∧ (word ++ rest).dropWhile holds = rest := by
  obtain ⟨taken, dropped⟩ := takeWhile_of_ends ends
  rw [List.takeWhile_append_of_pos all, List.dropWhile_append_of_pos all, taken, dropped]
  exact ⟨List.append_nil word, rfl⟩

/-! ### Decimal numbers -/

theorem between_of_isDigit {char : Char} (isDigit : char.isDigit = true) :
    '0' ≤ char ∧ char ≤ '9' := by
  simpa [Char.isDigit, Char.le_def] using isDigit

/-- No number but zero starts with a zero. -/
theorem head?_toDigits {value : Nat} (positive : value ≠ 0) :
    (Nat.toDigits 10 value).head? ≠ some '0' := by
  induction value using Nat.strongRecOn with
  | ind value inductionHypothesis =>
    rcases Nat.lt_or_ge value 10 with short | long
    · rw [Nat.toDigits_of_lt_base short]
      simpa using positive
    · rw [Nat.toDigits_of_base_le (by decide) long,
        List.head?_append_of_ne_nil _ Nat.toDigits_ne_nil]
      exact inductionHypothesis (value / 10) (by omega) (by omega)

theorem isDigit_of_mem_digitsOf {value : Nat} :
    ∀ char ∈ digitsOf value, char.isDigit = true := fun _ member =>
  Nat.isDigit_of_mem_toDigits (by decide) (by decide) member

/-- Digits are read as the number they write, behind the value of those before them. -/
theorem decimalFrom?_of_digits {digits : List Char} (all : ∀ char ∈ digits, char.isDigit = true)
    (value : Nat) : decimalFrom? value digits = some (Nat.ofDigitChars 10 digits value) := by
  induction digits generalizing value with
  | nil => rfl
  | cons digit rest inductionHypothesis =>
    have valued : decimalDigit? digit = some (digit.toNat - '0'.toNat) :=
      if_pos (between_of_isDigit (all digit List.mem_cons_self))
    rw [decimalFrom?, valued, Option.bind_eq_bind, Option.bind_some, Nat.ofDigitChars_cons,
      Nat.mul_comm value]
    exact inductionHypothesis (fun other later => all other (List.mem_cons_of_mem _ later)) _

/-- A number within its bound is read from its digits. -/
theorem readDigits?_digitsOf {greatest value : Nat} (bound : value ≤ greatest) :
    readDigits? greatest (digitsOf value) = some value := by
  have filled : (digitsOf value).isEmpty = false := by
    rw [List.isEmpty_eq_false_iff]
    exact Nat.toDigits_ne_nil
  have written : decimalFrom? 0 (digitsOf value) = some value := by
    rw [decimalFrom?_of_digits isDigit_of_mem_digitsOf]
    exact congrArg some Nat.ofDigitChars_ten_toDigits
  unfold readDigits?
  rw [filled, if_neg Bool.false_ne_true, written]
  exact if_pos bound

/-! ### Hexadecimal numbers -/

/-- Every decimal digit counts as its value. -/
theorem hexDigit?_of_isDigit {char : Char} (isDigit : char.isDigit = true) :
    hexDigit? char = some (char.toNat - '0'.toNat) :=
  if_pos (between_of_isDigit isDigit)

theorem hexDigit?_digitChar_of_lt :
    ∀ value < 16, hexDigit? (Nat.digitChar value) = some value := by decide

/-- Every character of a hexadecimal number is a hexadecimal digit. -/
theorem hexDigit?_isSome_of_mem_toDigits (value : Nat) :
    ∀ char ∈ Nat.toDigits 16 value, (hexDigit? char).isSome = true := by
  induction value using Nat.strongRecOn with
  | ind value inductionHypothesis =>
    intro char member
    rcases Nat.lt_or_ge value 16 with short | long
    · rw [Nat.toDigits_of_lt_base short, List.mem_singleton] at member
      rw [member, hexDigit?_digitChar_of_lt value short]
      rfl
    · rw [Nat.toDigits_of_base_le (by decide) long, List.mem_append, List.mem_singleton] at member
      rcases member with before | last
      · exact inductionHypothesis (value / 16) (by omega) char before
      · rw [last, hexDigit?_digitChar_of_lt (value % 16) (by omega)]
        rfl

theorem hexValue_append_singleton (digits : List Char) (digit : Char) :
    hexValue (digits ++ [digit]) = hexValue digits * 16 + (hexDigit? digit).getD 0 := by
  unfold hexValue
  rw [List.foldl_append]
  rfl

/-- A number is the value of its hexadecimal digits. -/
theorem hexValue_toDigits (value : Nat) : hexValue (Nat.toDigits 16 value) = value := by
  induction value using Nat.strongRecOn with
  | ind value inductionHypothesis =>
    rcases Nat.lt_or_ge value 16 with short | long
    · rw [Nat.toDigits_of_lt_base short, ← List.nil_append [_], hexValue_append_singleton,
        hexDigit?_digitChar_of_lt value short]
      exact Nat.zero_add value
    · rw [Nat.toDigits_of_base_le (by decide) long, hexValue_append_singleton,
        inductionHypothesis (value / 16) (by omega),
        hexDigit?_digitChar_of_lt (value % 16) (by omega), Option.getD_some]
      omega

end StubResolver
