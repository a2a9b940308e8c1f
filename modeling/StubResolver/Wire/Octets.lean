/-
This file reads and writes the numbers and strings that messages are made of. A reader takes its
value from the front of a list of octets and gives back those that are left; it has no value when
there are too few. Numbers are written with the most significant octet first.
-/

namespace StubResolver.Wire

/-- What a reader makes of octets: a value and the octets that are left, or nothing. -/
abbrev Reads (Value : Type) := List UInt8 → Option (Value × List UInt8)

/-! ### Numbers -/

/-- The two octets of a number. -/
def ofUInt16 (value : UInt16) : List UInt8 := [(value / 256).toUInt8, value.toUInt8]

/-- Reads an octet. -/
def readUInt8 : Reads UInt8
  | octet :: rest => some (octet, rest)
  | [] => none

/-- Reads a number of two octets. -/
def readUInt16 : Reads UInt16
  | high :: low :: rest => some (high.toUInt16 * 256 + low.toUInt16, rest)
  | _ => none

/-- Reads a number of four octets. -/
def readUInt32 : Reads UInt32 := fun octets => do
  let (high, octets) ← readUInt16 octets
  let (low, octets) ← readUInt16 octets
  some (high.toUInt32 * 65536 + low.toUInt32, octets)

/-- What was written as a number of two octets is read back. -/
theorem readUInt16_ofUInt16 (value : UInt16) (rest : List UInt8) :
    readUInt16 (ofUInt16 value ++ rest) = some (value, rest) := by
  have whole : ((value / 256).toUInt8.toUInt16 * 256 + value.toUInt8.toUInt16) = value := by
    apply UInt16.toNat.inj
    have bound := value.toNat_lt
    simp
    omega
  simp only [ofUInt16, List.cons_append, List.nil_append, readUInt16, whole]

/-! ### Strings -/

/-- Reads as many octets as asked for. -/
def readOctets (count : Nat) : Reads (List UInt8) := fun octets =>
  if count ≤ octets.length then some (octets.take count, octets.drop count) else none

/-- Reads a string with its length in front. -/
def readString : Reads (List UInt8) := fun octets => do
  let (length, octets) ← readUInt8 octets
  readOctets length.toNat octets

/-- Strings one after the other, up to the end. -/
def readStrings? (octets : List UInt8) : Option (List (List UInt8)) :=
  match octets with
  | [] => some []
  | length :: rest =>
    if length.toNat ≤ rest.length then
      (readStrings? (rest.drop length.toNat)).map (rest.take length.toNat :: ·)
    else
      none
termination_by octets.length
decreasing_by
  simp only [List.length_drop, List.length_cons]
  omega

end StubResolver.Wire
