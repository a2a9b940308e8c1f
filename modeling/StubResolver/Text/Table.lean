/-
This file reads tables of numbers that are kept as text: rows are separated by blanks or line
ends, the numbers of a row by full stops, and numbers are hexadecimal. A large table is short and
quick to read this way.
-/

import StubResolver.Text.Blank

namespace StubResolver

/-- The value of a hexadecimal digit. -/
def hexDigit? (char : Char) : Option Nat :=
  if '0' ≤ char ∧ char ≤ '9' then some (char.toNat - '0'.toNat)
  else if 'a' ≤ char ∧ char ≤ 'f' then some (char.toNat - 'a'.toNat + 10)
  else if 'A' ≤ char ∧ char ≤ 'F' then some (char.toNat - 'A'.toNat + 10)
  else none

/-- The value of hexadecimal digits, first digit first. A character that is no digit counts as
zero, which no table contains. -/
def hexValue (digits : List Char) : Nat :=
  digits.foldl (fun value digit => value * 16 + (hexDigit? digit).getD 0) 0

/-- The rows of a table. -/
def readTable (text : String) : List (List Nat) :=
  (words text.toList).map fun row => (splitAtEach (· == '.') row).map hexValue

end StubResolver
