/-
This file reads records out of messages. The data of the types that resolving looks into is taken
apart; for other types its octets are kept. Data that has a form has to fill its place exactly, and
a record that breaks this spoils the message it stands in. Two kinds of data are looked at only
after the message has been accepted, and a record in which they are broken is merely dropped: the
target of a redirection, and the type that a signature covers.

Data of length zero is accepted for every type, as messages that change zones use it.
-/

import StubResolver.Record
import StubResolver.Wire.NameCodec

namespace StubResolver.Wire

/-! ### Records before their data is read -/

/-- A record with its data as octets. -/
structure RawRecord where
  name : Name
  type : RecordType
  recordClass : RecordClass
  ttl : UInt32
  octets : List UInt8
  /-- The octets of the message from the data on, in which names may point backwards. -/
  tail : List UInt8

/-- Reads a record up to its data, and passes over the data. -/
def readRaw (message : List UInt8) : Reads RawRecord := fun octets => do
  let (name, octets) ← readName message octets
  let (type, octets) ← readUInt16 octets
  let (recordClass, octets) ← readUInt16 octets
  let (ttl, octets) ← readUInt32 octets
  let (length, tail) ← readUInt16 octets
  let (data, rest) ← readOctets length.toNat tail
  some (⟨name, ⟨type⟩, ⟨recordClass⟩, ttl, data, tail⟩, rest)

/-! ### Data with a form -/

/-- Types whose data cannot be part of a message: the reserved type zero, and those that only
questions have. -/
def neverHasData (type : RecordType) : Bool := [0, 251, 252, 255].contains type.code

/-- Reads an IPv4 address. -/
def readIPv4 : Reads IPv4
  | first :: second :: third :: fourth :: rest => some (⟨first, second, third, fourth⟩, rest)
  | _ => none

/-- Reads as many groups of an IPv6 address as asked for. -/
def readGroups : (count : Nat) → Reads (List UInt16)
  | 0, octets => some ([], octets)
  | count + 1, octets => do
    let (group, octets) ← readUInt16 octets
    let (groups, octets) ← readGroups count octets
    some (group :: groups, octets)

/-- Reads an IPv6 address. -/
def readIPv6 : Reads IPv6 := fun octets => do
  let (groups, octets) ← readGroups 8 octets
  (IPv6.ofGroups? groups).map (·, octets)

/-- Reads what a zone says about itself. -/
def readZoneStart (message : List UInt8) : Reads ZoneStart := fun octets => do
  let (primary, octets) ← readName message octets
  let (mailbox, octets) ← readName message octets
  let (serial, octets) ← readUInt32 octets
  let (refresh, octets) ← readUInt32 octets
  let (retry, octets) ← readUInt32 octets
  let (expire, octets) ← readUInt32 octets
  let (minimum, octets) ← readUInt32 octets
  some (⟨primary, mailbox, serial, refresh, retry, expire, minimum⟩, octets)

/-- Reads a rule for replacing names, and gives it back as octets with its name in full. -/
def readReplacementRule (message : List UInt8) : Reads (List UInt8) := fun octets => do
  let (order, octets) ← readUInt16 octets
  let (preference, octets) ← readUInt16 octets
  let (flags, octets) ← readString octets
  let (services, octets) ← readString octets
  let (pattern, octets) ← readString octets
  let (replacement, octets) ← readName message octets
  let strings := [flags, services, pattern].flatMap fun text => text.length.toUInt8 :: text
  some (ofUInt16 order ++ ofUInt16 preference ++ strings ++ ofName replacement, octets)

/-- Whether an octet is an ASCII letter or digit. -/
def isAlphanumericOctet (octet : UInt8) : Bool :=
  (0x30 ≤ octet && octet ≤ 0x39) || (0x41 ≤ octet && octet ≤ 0x5a) ||
  (0x61 ≤ octet && octet ≤ 0x7a)

/-- Whether octets say which authorities may certify a name: flags, a tag of one to fifteen letters
or digits, and a value. -/
def isAuthorization (octets : List UInt8) : Bool :=
  match octets with
  | _ :: length :: rest =>
    let tag := rest.take length.toNat
    1 ≤ length && length ≤ 15 && tag.length = length.toNat && tag.all isAlphanumericOctet
  | _ => false

/-- Whether octets have the form that their type asks for, where the form has no names. Types
without a form admit all octets. -/
def isWellFormed (type : RecordType) (octets : List UInt8) : Bool :=
  match type.code with
  | 13 => (readStrings? octets).any fun strings => strings.length = 2
  | 44 => 2 ≤ octets.length
  | 52 | 53 => 3 ≤ octets.length
  | 257 => isAuthorization octets
  | _ => true

/-- What a reader makes of the data of a record, which it has to use up. -/
def fillsData {Value : Type} (raw : RawRecord) (read : Reads Value) : Option Value :=
  match read raw.tail with
  | some (value, rest) =>
    if rest.length + raw.octets.length = raw.tail.length then some value else none
  | none => none

/-! ### Data whose faults only cost the record -/

/-- The target of a redirection, which stands at the front of the data alone. -/
def redirectionTarget? (octets : List UInt8) : Option Name :=
  (readName octets octets).map Prod.fst

/-- The data of a redirection or of a signature, if it makes sense. All other data does. -/
def lateData? (type : RecordType) (octets : List UInt8) : Option RecordData :=
  if type = .dname then
    (redirectionTarget? octets).map .dname
  else if type = .rrsig then
    (readUInt16 octets).map fun (covered, _) => .rrsig ⟨covered⟩ octets
  else
    some (.other type octets)

/-! ### Records -/

/-- The data of a record. There is none at all when it spoils the message, and an empty one when
it only costs the record. -/
def dataOf (message : List UInt8) (raw : RawRecord) : Option (Option RecordData) :=
  if raw.octets.isEmpty then
    some (lateData? raw.type [])
  else if neverHasData raw.type then
    none
  else if raw.type = .a then
    (fillsData raw readIPv4).map fun address => some (.a address)
  else if raw.type = .aaaa then
    (fillsData raw readIPv6).map fun address => some (.aaaa address)
  else if raw.type = .ns then
    (fillsData raw (readName message)).map fun host => some (.ns host)
  else if raw.type = .cname then
    (fillsData raw (readName message)).map fun target => some (.cname target)
  else if raw.type = .ptr then
    (fillsData raw (readName message)).map fun target => some (.ptr target)
  else if raw.type = .mx then
    (fillsData raw fun octets => do
      let (preference, octets) ← readUInt16 octets
      let (exchange, octets) ← readName message octets
      some (RecordData.mx preference exchange, octets)).map some
  else if raw.type = .srv then
    (fillsData raw fun octets => do
      let (priority, octets) ← readUInt16 octets
      let (weight, octets) ← readUInt16 octets
      let (port, octets) ← readUInt16 octets
      let (target, octets) ← readName message octets
      some (RecordData.srv priority weight port target, octets)).map some
  else if raw.type = .soa then
    (fillsData raw (readZoneStart message)).map fun start => some (.soa start)
  else if raw.type = .txt then
    (readStrings? raw.octets).map fun strings => some (.txt strings)
  else if raw.type.code = 35 then
    (fillsData raw (readReplacementRule message)).map fun octets => some (.other raw.type octets)
  else if isWellFormed raw.type raw.octets then
    some (lateData? raw.type raw.octets)
  else
    none

/-- The record with its data read, as far as there is a record. -/
def recordOf (message : List UInt8) (raw : RawRecord) : Option (Option Record) :=
  (dataOf message raw).map fun data? =>
    data?.map fun data => ⟨raw.name, raw.recordClass, raw.ttl, data⟩

end StubResolver.Wire
