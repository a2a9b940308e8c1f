/-
This file fixes what the addresses of hosts and of servers are, and how they are written. An IPv6
address is written with its longest run of zero groups left out, where a run is at least two groups
long and the first of equally long runs is chosen; an address that stands for an IPv4 address shows
that address. A server is an address with a port, and an IPv6 server may name the zone that its
address belongs to.
-/

import StubResolver.Text.Decimal

namespace StubResolver

/-! ### Addresses -/

/-- An IPv4 address: four octets. -/
structure IPv4 where
  first : UInt8
  second : UInt8
  third : UInt8
  fourth : UInt8
deriving DecidableEq, Repr

/-- An IPv6 address: eight groups of sixteen bits. -/
structure IPv6 where
  groups : List UInt16
  size : groups.length = 8
deriving DecidableEq

/-- The address of a host. -/
inductive Address where
  | v4 (address : IPv4)
  | v6 (address : IPv6)
deriving DecidableEq

/-- The address of a server: a host with a port, and for IPv6 a zone, which is zero when none is
given. -/
inductive ServerAddress where
  | v4 (address : IPv4) (port : UInt16)
  | v6 (address : IPv6) (port : UInt16) (zone : UInt32)
deriving DecidableEq

/-- The port on which servers answer questions. -/
def dnsPort : UInt16 := 53

/-- The server on a port of a host. -/
def Address.atPort (port : UInt16) : Address → ServerAddress
  | .v4 address => .v4 address port
  | .v6 address => .v6 address port 0

/-! ### Text of addresses -/

/-- An IPv4 address as text: its octets in decimal, with full stops between them. -/
def IPv4.chars (address : IPv4) : List Char :=
  digitsOf address.first.toNat ++ '.' :: digitsOf address.second.toNat ++
    '.' :: digitsOf address.third.toNat ++ '.' :: digitsOf address.fourth.toNat

namespace IPv6

/-- The address of the given groups, if there are eight. -/
def ofGroups? (groups : List UInt16) : Option IPv6 :=
  if size : groups.length = 8 then some ⟨groups, size⟩ else none

/-- A group as text: hexadecimal, without leading zeros. -/
def groupChars (group : UInt16) : List Char := Nat.toDigits 16 group.toNat

/-- Groups as text, with colons between them. -/
def groupsChars : List UInt16 → List Char
  | [] => []
  | [group] => groupChars group
  | group :: rest => groupChars group ++ ':' :: groupsChars rest

/-- The number of zero groups at the front. -/
def leadingZeros (groups : List UInt16) : Nat := (groups.takeWhile (· = 0)).length

/-- The place and the length of the longest run of zero groups, the first of equally long ones.
Counting starts at `place`. -/
def longestZeros (place : Nat) : List UInt16 → Nat × Nat
  | [] => (place, 0)
  | group :: rest =>
    let here := leadingZeros (group :: rest)
    let (later, length) := longestZeros (place + 1) rest
    if length ≤ here then (place, here) else (later, length)

/-- The IPv4 address that an address stands for, when it is a mapped one. -/
def mapped? (address : IPv6) : Option IPv4 :=
  match address.groups with
  | [0, 0, 0, 0, 0, 0xffff, high, low] =>
    some ⟨(high / 256).toUInt8, high.toUInt8, (low / 256).toUInt8, low.toUInt8⟩
  | _ => none

/-- An IPv6 address as text. -/
def chars (address : IPv6) : List Char :=
  match address.mapped? with
  | some inner => ':' :: ':' :: 'f' :: 'f' :: 'f' :: 'f' :: ':' :: inner.chars
  | none =>
    let (place, length) := longestZeros 0 address.groups
    if 2 ≤ length then
      groupsChars (address.groups.take place) ++ ':' :: ':' ::
        groupsChars (address.groups.drop (place + length))
    else
      groupsChars address.groups

end IPv6

/-- An address as text. -/
def Address.chars : Address → List Char
  | .v4 address => address.chars
  | .v6 address => address.chars

/-- A server as text. Brackets keep the colons of an IPv6 address apart from the one before the
port. -/
def ServerAddress.chars : ServerAddress → List Char
  | .v4 address port => address.chars ++ ':' :: digitsOf port.toNat
  | .v6 address port zone =>
    let zoneChars := if zone = 0 then [] else '%' :: digitsOf zone.toNat
    '[' :: address.chars ++ zoneChars ++ ']' :: ':' :: digitsOf port.toNat

/-- An address as text. -/
def Address.text (address : Address) : String := String.ofList address.chars

/-- A server as text. -/
def ServerAddress.text (server : ServerAddress) : String := String.ofList server.chars

end StubResolver
