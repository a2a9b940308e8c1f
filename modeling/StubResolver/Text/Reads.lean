/-
This file fixes the shape of readers that work from left to right: a reader takes what it reads from
the front of a text and gives back the text that is left, so that readers can follow one another
and serve as parts of each other.
-/

namespace StubResolver

/-- What a reader makes of a text: a value and the text that is left, or nothing. -/
abbrev Reads (Value : Type) := List Char → Option (Value × List Char)

/-- Reads one given character. -/
def readChar (expected : Char) : Reads Unit
  | [] => none
  | char :: rest => if char = expected then some ((), rest) else none

/-- What a reader makes of a text that it uses up. -/
def wholly {Value : Type} (read : Reads Value) (text : List Char) : Option Value :=
  match read text with
  | some (value, []) => some value
  | _ => none

end StubResolver
