/-
This file gives names whose labels are single octets, and records of such names. Statements about
all names and records are tried out on them.
-/

import StubResolver.Record

namespace StubResolver

/-- The label of one octet. -/
def Label.ofOctet (octet : UInt8) : Label := ⟨[octet], by simp, by simp⟩

/-- The absolute name with labels of one octet each. There is room for at most 127 of them. -/
def Name.ofOctets (octets : List UInt8) : Name :=
  (ofLabels? (octets.map Label.ofOctet) true).getD root

/-- One of the addresses of the name `w.`. -/
def Record.address (last : UInt8) (ttl : UInt32) : Record :=
  ⟨Name.ofOctets [0x77], .inet, ttl, .a ⟨192, 0, 2, last⟩⟩

end StubResolver
