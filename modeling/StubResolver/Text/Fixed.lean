/-
This file writes floating-point numbers with a fixed number of decimal places. A finite number is a
whole number times a power of two, so the nearest decimal is found by exact arithmetic on whole
numbers; of two decimals equally near, the one with the even last digit is taken.
-/

namespace StubResolver

/-- The whole number nearest to a quotient, the even one of two equally near. -/
def roundQuotient (numerator denominator : Nat) : Nat :=
  let whole := numerator / denominator
  let twice := numerator % denominator * 2
  if twice < denominator then whole
  else if denominator < twice then whole + 1
  else whole + whole % 2

/-- The size of a finite number as a quotient. -/
def quotientOf (value : Float) : Nat × Nat :=
  let bits := value.toBits.toNat
  let hidden := Nat.pow 2 52
  let fraction := bits % hidden
  let exponent := bits / hidden % 2048
  let significand := if exponent = 0 then fraction else fraction + hidden
  let shift := if exponent = 0 then 1 else exponent
  if 1075 ≤ shift then (significand * Nat.pow 2 (shift - 1075), 1)
  else (significand, Nat.pow 2 (1075 - shift))

/-- A number of units of the last of `places` decimal places, as text. -/
def placesText (places units : Nat) : String :=
  let digits := Nat.toDigits 10 units
  let padded := List.replicate (places + 1 - digits.length) '0' ++ digits
  String.ofList (padded.take (padded.length - places)) ++ "." ++
    String.ofList (padded.drop (padded.length - places))

/-- A finite number that is not negative, with a fixed number of decimal places. -/
def fixedText (places : Nat) (value : Float) : String :=
  let (numerator, denominator) := quotientOf value
  placesText places (roundQuotient (numerator * Nat.pow 10 places) denominator)

end StubResolver
