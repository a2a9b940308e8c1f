/-
This file splits text at white space. The white space characters are those of the Unicode property
of that name, which is wider than the ASCII blanks: a no-break space or an ideographic space also
separates two words of a configuration line.
-/

import StubResolver.Text.Ranges

namespace StubResolver

/-- The ranges of white space characters, in ascending order. -/
def blankRanges : List (Nat × Nat) := [
  (0x9, 0xd), (0x20, 0x20), (0x85, 0x85), (0xa0, 0xa0), (0x1680, 0x1680), (0x2000, 0x200a),
  (0x2028, 0x2029), (0x202f, 0x202f), (0x205f, 0x205f), (0x3000, 0x3000)]

/-- Whether a character is white space. -/
def isBlank (char : Char) : Bool := inRanges blankRanges char

/-- Whether a character is a control character of either the ASCII or the Latin-1 block. -/
def isControl (char : Char) : Bool :=
  char.toNat < 0x20 || (0x7f ≤ char.toNat && char.toNat ≤ 0x9f)

/-- The pieces between the characters that satisfy `separates`. There is always one piece more
than there are separators. -/
def splitAtEach (separates : Char → Bool) : List Char → List (List Char)
  | [] => [[]]
  | char :: rest =>
    if separates char then
      [] :: splitAtEach separates rest
    else
      match splitAtEach separates rest with
      | [] => [[char]]
      | piece :: pieces => (char :: piece) :: pieces

/-- The words of a text: its longest pieces without white space. -/
def words (text : List Char) : List (List Char) :=
  (splitAtEach isBlank text).filter fun piece => !piece.isEmpty

/-- The lines of a text. A carriage return before the line feed is white space, and so makes no
difference to the words of a line. -/
def lines (text : List Char) : List (List Char) := splitAtEach (· == '\n') text

end StubResolver
