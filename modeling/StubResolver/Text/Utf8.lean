/-
This file reads octets as text in UTF-8 and never fails: where the octets are not UTF-8, the
longest piece that could have started a character becomes one replacement character.
-/

namespace StubResolver.Utf8

/-- What stands for octets that are not a character. -/
def replacement : Char := Char.ofNat 0xfffd

/-- A character under way: its bits so far, how many octets are still to come, and the range of
the next one. The range rules out spellings that are longer than needed, surrogates, and code
points that are too great. -/
structure Pending where
  bits : Nat
  missing : Nat
  least : UInt8
  greatest : UInt8

/-- What an octet starts: a character of its own, a character under way, or nothing sensible. -/
def start (octet : UInt8) : List Char × Option Pending :=
  if octet < 0x80 then ([Char.ofNat octet.toNat], none)
  else if octet < 0xc2 then ([replacement], none)
  else if octet < 0xe0 then ([], some ⟨octet.toNat % 32, 1, 0x80, 0xbf⟩)
  else if octet < 0xf0 then
    ([], some ⟨octet.toNat % 16, 2, if octet = 0xe0 then 0xa0 else 0x80,
      if octet = 0xed then 0x9f else 0xbf⟩)
  else if octet < 0xf5 then
    ([], some ⟨octet.toNat % 8, 3, if octet = 0xf0 then 0x90 else 0x80,
      if octet = 0xf4 then 0x8f else 0xbf⟩)
  else ([replacement], none)

/-- Reads octets behind a character under way, if there is one. -/
def decodeFrom : Option Pending → List UInt8 → List Char
  | none, [] => []
  | some _, [] => [replacement]
  | none, octet :: rest =>
    let (chars, pending) := start octet
    chars ++ decodeFrom pending rest
  | some pending, octet :: rest =>
    if pending.least ≤ octet ∧ octet ≤ pending.greatest then
      let bits := pending.bits * 64 + octet.toNat % 64
      if pending.missing = 1 then
        Char.ofNat bits :: decodeFrom none rest
      else
        decodeFrom (some ⟨bits, pending.missing - 1, 0x80, 0xbf⟩) rest
    else
      let (chars, next) := start octet
      replacement :: chars ++ decodeFrom next rest

/-- The text of octets. -/
def decode (octets : List UInt8) : List Char := decodeFrom none octets

end StubResolver.Utf8
