/-
This file writes text of any script with the letters, digits and hyphens of ASCII, and reads it
back, by the bootstring method with the parameters that domain names use. The ASCII characters of
the text come first; after a hyphen follow, in ascending order of their code points, the other
characters, each as the distance from the one before. A distance is written in digits of base 36
that carry their own end marker: a digit below the threshold of its position is the last. The
threshold adapts to the distances already seen.
-/

namespace StubResolver.Punycode

/-! ### Digits and thresholds -/

/-- The digit of a value below thirty-six: letters first, then the decimal digits. -/
def digit (value : Nat) : Char :=
  if value < 26 then Char.ofNat (value + 0x61) else Char.ofNat (value - 26 + 0x30)

/-- The value of a digit, in either case. -/
def digitValue? (char : Char) : Option Nat :=
  if 'a' ≤ char ∧ char ≤ 'z' then some (char.toNat - 0x61)
  else if 'A' ≤ char ∧ char ≤ 'Z' then some (char.toNat - 0x41)
  else if '0' ≤ char ∧ char ≤ '9' then some (char.toNat - 0x30 + 26)
  else none

/-- The threshold of a digit. Positions count from 36 in steps of 36. -/
def threshold (bias position : Nat) : Nat :=
  if position ≤ bias + 1 then 1 else if bias + 26 ≤ position then 26 else position - bias

theorem threshold_pos (bias position : Nat) : 1 ≤ threshold bias position := by
  unfold threshold
  split
  · exact Nat.le_refl 1
  · split <;> omega

theorem threshold_le (bias position : Nat) : threshold bias position ≤ 26 := by
  unfold threshold
  split
  · omega
  · split <;> omega

/-- How often a distance is divided by 35 until it is at most 455, and what is left of it. -/
def shrink (distance steps : Nat) : Nat × Nat :=
  if 455 < distance then shrink (distance / 35) (steps + 1) else (distance, steps)
termination_by distance
decreasing_by exact Nat.div_lt_self (by omega) (by decide)

/-- The bias after a distance, where `count` characters are placed so far. The first distance is
damped more, since it is usually large. -/
def adapt (distance count : Nat) (first : Bool) : Nat :=
  let damped := if first then distance / 700 else distance / 2
  let (rest, steps) := shrink (damped + damped / count) 0
  steps * 36 + 36 * rest / (rest + 38)

/-! ### Writing -/

/-- The digits of a distance. -/
def writeDistance (bias position distance : Nat) : List Char :=
  let bound := threshold bias position
  if distance < bound then
    [digit distance]
  else
    digit (bound + (distance - bound) % (36 - bound)) ::
      writeDistance bias (position + 36) ((distance - bound) / (36 - bound))
termination_by distance
decreasing_by
  have positive := threshold_pos bias position
  have small := threshold_le bias position
  exact Nat.lt_of_le_of_lt (Nat.div_le_self _ _) (by omega)

/-- What writing keeps track of: the digits so far, the distance since the last character that was
written, the bias, and how many characters are written. -/
structure Writing where
  digits : List Char
  distance : Nat
  bias : Nat
  count : Nat

/-- One character of the text while the code point `code` is being placed: smaller ones are passed
over, equal ones are written. -/
def Writing.pass (basic code : Nat) (state : Writing) (char : Char) : Writing :=
  if char.toNat < code then
    { state with distance := state.distance + 1 }
  else if char.toNat = code then
    { digits := state.digits ++ writeDistance state.bias 36 state.distance
      distance := 0
      bias := adapt state.distance (state.count + 1) (state.count == basic)
      count := state.count + 1 }
  else
    state

/-- The different code points of a list, in ascending order. -/
def ascending (codes : List Nat) : List Nat :=
  codes.mergeSort.eraseDups

/-- Places the given code points, where all below `next` are placed. -/
def writeCodes (text : List Char) (basic : Nat) : (next : Nat) → List Nat → Writing → Writing
  | _, [], state => state
  | next, code :: rest, state =>
    let start := { state with distance := state.distance + (code - next) * (state.count + 1) }
    let placed := text.foldl (Writing.pass basic code) start
    writeCodes text basic (code + 1) rest { placed with distance := placed.distance + 1 }

/-- A text in ASCII characters. -/
def encode (text : List Char) : List Char :=
  let basic := text.filter fun char => char.toNat < 0x80
  let others := ascending ((text.filter fun char => 0x80 ≤ char.toNat).map Char.toNat)
  let start := if basic.isEmpty then [] else basic ++ ['-']
  (writeCodes text basic.length 0x80 others ⟨start, 0, 72, basic.length⟩).digits

/-! ### Reading -/

/-- What reading keeps track of: the text so far, the code point and the place that the next
distance counts from, the bias, and the distance under way with the weight and the position of its
next digit. -/
structure Reading where
  text : List Char
  code : Nat
  place : Nat
  bias : Nat
  distance : Nat
  weight : Nat
  position : Nat

/-- The next digit of a distance. The last one places a character; there is none for a code point
that is not a character. -/
def Reading.next (state : Reading) (char : Char) : Option Reading := do
  let value ← digitValue? char
  let distance := state.distance + value * state.weight
  let bound := threshold state.bias state.position
  if value < bound then
    let count := state.text.length + 1
    let reached := state.place + distance
    let code := state.code + reached / count
    let place := reached % count
    if code.isValidChar then
      some {
        text := state.text.take place ++ Char.ofNat code :: state.text.drop place
        code := code
        place := place + 1
        bias := adapt distance count (state.code == 0x80 && state.place == 0)
        distance := 0
        weight := 1
        position := 36 }
    else
      none
  else
    some { state with
      distance := distance
      weight := state.weight * (36 - bound)
      position := state.position + 36 }

/-- The text that ASCII characters stand for, if they stand for any. -/
def decode? (written : List Char) : Option (List Char) := do
  let hyphenLast := written.reverse.dropWhile (· != '-')
  let basic := (hyphenLast.drop 1).reverse
  let digits := (written.reverse.takeWhile (· != '-')).reverse
  if basic.any (fun char => 0x80 ≤ char.toNat) then
    none
  else
    let last ← digits.foldlM Reading.next ⟨basic, 0x80, 0, 72, 0, 1, 36⟩
    if last.position = 36 then some last.text else none

end StubResolver.Punycode
