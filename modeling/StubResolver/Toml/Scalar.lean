/-
This file reads values that are single words: truth values, numbers, dates and times. A word is
given as a whole, and is one of these or none. Digits may be grouped by single underscores.
-/

import StubResolver.Text.Blank
import StubResolver.Text.Decimal
import StubResolver.Text.Table
import StubResolver.Toml.Basic

namespace StubResolver.Toml

/-! ### Digits -/

/-- Digits without the underscores that group them, if each underscore stands between two. -/
def ungroup? (isDigit : Char → Bool) (word : List Char) : Option (List Char) :=
  let groups := splitAtEach (· == '_') word
  if groups.all fun group => !group.isEmpty && group.all isDigit then some groups.flatten
  else none

/-- The digits of a decimal number, which starts with a zero only if it is zero. -/
def decimalDigits? (word : List Char) : Option (List Char) :=
  (ungroup? Char.isDigit word).filter fun digits => digits.head? ≠ some '0' ∨ digits.length = 1

/-- Whether a word starts with a sign, and what follows the sign. -/
def splitSign : List Char → Option Char × List Char
  | '+' :: rest => (some '+', rest)
  | '-' :: rest => (some '-', rest)
  | word => (none, word)

/-! ### Whole numbers -/

/-- The number that digits of a base write. -/
def numberIn (base : Nat) (digits : List Char) : Nat :=
  digits.foldl (fun value digit => value * base + (hexDigit? digit).getD 0) 0

/-- Whether a character is a digit of a base. -/
def isDigitIn (base : Nat) (char : Char) : Bool :=
  match hexDigit? char with
  | some value => value < base
  | none => false

/-- A number in one of the bases that are named in front. -/
def basedWhole? : List Char → Option Nat
  | '0' :: 'x' :: word => (ungroup? (isDigitIn 16) word).map (numberIn 16)
  | '0' :: 'o' :: word => (ungroup? (isDigitIn 8) word).map (numberIn 8)
  | '0' :: 'b' :: word => (ungroup? (isDigitIn 2) word).map (numberIn 2)
  | _ => none

/-- A whole number. -/
def whole? (word : List Char) : Option Int :=
  match basedWhole? word with
  | some value => some value
  | none =>
    let (sign, digits) := splitSign word
    (decimalDigits? digits).map fun digits =>
      if sign = some '-' then -(numberIn 10 digits : Int) else numberIn 10 digits

/-- Whether a whole number has at most 128 bits, with a sign or without. -/
def fits128 (value : Int) : Bool :=
  -(Nat.pow 2 127 : Int) ≤ value ∧ value < (Nat.pow 2 128 : Int)

/-! ### Fractions -/

/-- The digits after a point, if there is a point. -/
def fractionDigits? : List (List Char) → Option (List Char)
  | [] => some []
  | [digits] => ungroup? Char.isDigit digits
  | _ => none

/-- The power of ten that an exponent names, if there is an exponent. -/
def exponent? : List (List Char) → Option Int
  | [] => some 0
  | [word] =>
    let (sign, digits) := splitSign word
    (ungroup? Char.isDigit digits).map fun digits =>
      if sign = some '-' then -(numberIn 10 digits : Int) else numberIn 10 digits
  | _ => none

/-- Whether a significand times a power of ten, rounded to double precision, is finite. The bound is
half a unit above the greatest finite number. -/
def isFiniteDouble (significand : Nat) (exponent : Int) : Bool :=
  let bound := (Nat.pow 2 54 - 1) * Nat.pow 2 970
  let magnitude := (digitsOf significand).length + exponent
  if significand = 0 ∨ magnitude < 308 then true
  else if 310 < magnitude then false
  else significand * Nat.pow 10 exponent.toNat < bound * Nat.pow 10 (-exponent).toNat

/-- Whether a word is a fraction: a decimal number with a point or an exponent or both, or one of
the words for what is not a finite number. -/
def isFraction (word : List Char) : Bool :=
  let (_, unsigned) := splitSign word
  if unsigned = "inf".toList ∨ unsigned = "nan".toList then
    true
  else
    match splitAtEach (fun char => char == 'e' || char == 'E') unsigned with
    | [] => false
    | mantissa :: powers =>
      match splitAtEach (· == '.') mantissa with
      | [] => false
      | front :: back =>
        match decimalDigits? front, fractionDigits? back, exponent? powers with
        | some whole, some part, some exponent =>
          !(back.isEmpty && powers.isEmpty) &&
            isFiniteDouble (numberIn 10 (whole ++ part)) (exponent - part.length)
        | _, _, _ => false

/-! ### Dates and times -/

/-- The number that `count` digits write, if a word consists of them. -/
def fixedDigits? (count : Nat) (word : List Char) : Option Nat :=
  if word.length = count ∧ word.all Char.isDigit then some (numberIn 10 word) else none

/-- The number of days in a month. -/
def daysIn (year month : Nat) : Nat :=
  if month = 2 then
    if year % 4 = 0 ∧ (year % 100 ≠ 0 ∨ year % 400 = 0) then 29 else 28
  else if month = 4 ∨ month = 6 ∨ month = 9 ∨ month = 11 then 30
  else 31

/-- Whether a word is a date. -/
def isDate (word : List Char) : Bool :=
  match splitAtEach (· == '-') word with
  | [year, month, day] =>
    match fixedDigits? 4 year, fixedDigits? 2 month, fixedDigits? 2 day with
    | some year, some month, some day =>
      1 ≤ month ∧ month ≤ 12 ∧ 1 ≤ day ∧ day ≤ daysIn year month
    | _, _, _ => false
  | _ => false

/-- Whether a word is an hour with its minute. -/
def isHourAndMinute (hour minute : List Char) : Bool :=
  match fixedDigits? 2 hour, fixedDigits? 2 minute with
  | some hour, some minute => hour ≤ 23 ∧ minute ≤ 59
  | _, _ => false

/-- Whether a word is a second, perhaps one that was inserted into a day, with any fraction. -/
def isSecond (word : List Char) : Bool :=
  match splitAtEach (· == '.') word with
  | whole :: part =>
    (match fixedDigits? 2 whole with
      | some second => second ≤ 60
      | none => false) &&
      match part with
      | [] => true
      | [digits] => !digits.isEmpty && digits.all Char.isDigit
      | _ => false
  | [] => false

/-- Whether a word is a time, whose second may be left out. -/
def isTime (word : List Char) : Bool :=
  match splitAtEach (· == ':') word with
  | [hour, minute] => isHourAndMinute hour minute
  | [hour, minute, second] => isHourAndMinute hour minute && isSecond second
  | _ => false

/-- Whether a word is a time that may say how far it is ahead of universal time. -/
def isZonedTime (word : List Char) : Bool :=
  match word.getLast? with
  | some 'Z' | some 'z' => isTime word.dropLast
  | _ =>
    let isOffset (char : Char) : Bool := char == '+' || char == '-'
    match splitAtEach isOffset word with
    | [time] => isTime time
    | [time, offset] =>
      isTime time &&
        match splitAtEach (· == ':') offset with
        | [hour, minute] => isHourAndMinute hour minute
        | _ => false
    | _ => false

/-- Whether a word is a moment: a date, a time, or both. -/
def isMoment (word : List Char) : Bool :=
  isDate word || isTime word ||
    match word.drop 10 with
    | mark :: time =>
      isDate (word.take 10) && (mark == 'T' || mark == 't' || mark == ' ') && isZonedTime time
    | [] => false

/-! ### Words -/

/-- The value that a word is. -/
def scalar? (word : List Char) : Option Value :=
  if word = "true".toList then some (.truth true)
  else if word = "false".toList then some (.truth false)
  else if isMoment word then some .moment
  else if isFraction word then some .fraction
  else
    match whole? word with
    | some value => if fits128 value then some (.whole value) else none
    | none => none

end StubResolver.Toml
