/-
This file reads decimal numbers as configuration files and type names write them: digits, with a
plus sign before them where the format allows one, and never beyond the greatest number that the
place admits.
-/

namespace StubResolver

/-- The value of a decimal digit. -/
def decimalDigit? (char : Char) : Option Nat :=
  if '0' ≤ char ∧ char ≤ '9' then some (char.toNat - '0'.toNat) else none

/-- The value of digits behind the value of those before them, or nothing when one of them is no
digit. -/
def decimalFrom? (value : Nat) : List Char → Option Nat
  | [] => some value
  | char :: rest => do decimalFrom? (value * 10 + (← decimalDigit? char)) rest

/-- The number that digits write, if they are digits and write none greater than `greatest`. -/
def readDigits? (greatest : Nat) (text : List Char) : Option Nat :=
  if text.isEmpty then
    none
  else
    match decimalFrom? 0 text with
    | some value => if value ≤ greatest then some value else none
    | none => none

/-- The number that digits write, which a plus sign may precede. -/
def readCount? (greatest : Nat) : List Char → Option Nat
  | '+' :: digits => readDigits? greatest digits
  | digits => readDigits? greatest digits

/-- The digits of a number. -/
def digitsOf (value : Nat) : List Char := Nat.toDigits 10 value

end StubResolver
