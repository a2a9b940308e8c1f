/-
This file writes names into messages and reads them out of messages. A name is its labels, each
with its length in front, and a zero octet. When a message repeats the end of a name, a pointer to
the earlier place may stand for it. A pointer leads to a place before the name it occurs in, and
the name found there ends before the name that the pointer came from begins; so each pointer leads
strictly backwards, and reading ends whatever a message holds.
-/

import StubResolver.Name.Basic
import StubResolver.Wire.Octets

namespace StubResolver.Wire

/-! ### Writing -/

/-- A label with its length in front. -/
def ofLabel (label : Label) : List UInt8 := label.octets.length.toUInt8 :: label.octets

/-- A name in full. -/
def ofName (name : Name) : List UInt8 := name.labels.flatMap ofLabel ++ [0]

/-! ### Reading -/

/-- Reads labels up to the end of a name. The name begins at offset `start` of the message, the
octets are those of the message from the place that reading has reached, and a name that a pointer
led to must be over before offset `limit`. -/
def readLabels (message : List UInt8) (start limit : Nat) (octets : List UInt8) :
    Option (List Label × List UInt8) :=
  match octets with
  | [] => none
  | length :: rest =>
    if limit ≤ message.length - (rest.length + 1) then
      none
    else if length = 0 then
      some ([], rest)
    else if 0xc0 ≤ length then
      match rest with
      | [] => none
      | low :: after =>
        let target := (length.toNat - 0xc0) * 256 + low.toNat
        if target < start then
          match readLabels message target start (message.drop target) with
          | some (labels, _) => some (labels, after)
          | none => none
        else
          none
    else if length.toNat ≤ rest.length then
      match Label.ofOctets? (rest.take length.toNat) with
      | some label =>
        match readLabels message start limit (rest.drop length.toNat) with
        | some (labels, after) => some (label :: labels, after)
        | none => none
      | none => none
    else
      none
termination_by (start, octets.length)
decreasing_by
  · exact Prod.Lex.left _ _ (by assumption)
  · apply Prod.Lex.right
    simp only [List.length_drop, List.length_cons]
    omega

/-- Reads a name out of a message, where the octets are those of the message from the name on. The
name is absolute. -/
def readName (message : List UInt8) : Reads Name := fun octets =>
  match readLabels message (message.length - octets.length) message.length octets with
  | some (labels, rest) => (Name.ofLabels? labels true).map (·, rest)
  | none => none

end StubResolver.Wire
