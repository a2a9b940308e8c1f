/-
This file writes queries and reads messages. A message is a header of twelve octets, which says how
many entries each section has, and then the sections. Only the first question counts, though all of
them are read. A message is refused as a whole when it ends too early or holds an entry that cannot
be read; octets after the last entry are ignored.

An options record among the additional records is not one of the data: its lifetime field carries
the upper bits of the result code.
-/

import StubResolver.Error
import StubResolver.Message
import StubResolver.Wire.RecordCodec

namespace StubResolver.Wire

/-! ### Writing queries -/

/-- The octets of a query. A query carries its identifier, whether the server is to find things
out, and one question. -/
def encodeQuery (message : Message) : Except Error (List UInt8) :=
  match message.question with
  | none => .error (.invalidName "Cannot encode a query without a question")
  | some question =>
    let flags : List UInt8 := [if message.recursionDesired then 1 else 0, 0]
    let counts : List UInt8 := [0, 1, 0, 0, 0, 0, 0, 0]
    .ok (ofUInt16 message.id ++ flags ++ counts ++ ofName question.name ++
      ofUInt16 question.type.code ++ ofUInt16 question.recordClass.onWire.code)

/-! ### Reading messages -/

/-- Reads as many values as asked for. -/
def readMany {Value : Type} (read : Reads Value) : (count : Nat) → Reads (List Value)
  | 0, octets => some ([], octets)
  | count + 1, octets => do
    let (value, octets) ← read octets
    let (values, octets) ← readMany read count octets
    some (value :: values, octets)

/-- Reads a question. -/
def readQuestion (message : List UInt8) : Reads Question := fun octets => do
  let (name, octets) ← readName message octets
  let (type, octets) ← readUInt16 octets
  let (recordClass, octets) ← readUInt16 octets
  some (⟨name, ⟨type⟩, ⟨recordClass⟩⟩, octets)

/-- The records that a section is left with once its data is read. -/
def recordsOf (message : List UInt8) (raws : List RawRecord) : Option (List Record) :=
  (raws.mapM (recordOf message)).map fun records => records.filterMap id

/-- Types that occur among the additional records only: options and the signatures of whole
messages. -/
def onlyAdditional (type : RecordType) : Bool := [24, 41, 250].contains type.code

/-- Whether the data of an options record can be passed over: pairs of a code and a string, of
which the last may be cut short between its parts or in its string. `total` is the length of all of
them. -/
def areOptions (total : Nat) : List UInt8 → Bool
  | [] => true
  | [_] => false
  | [_, _] => true
  | [_, _, _] => false
  | _ :: _ :: high :: low :: rest =>
    let length := high.toNat * 256 + low.toNat
    length ≤ total && (rest.length < length || areOptions total (rest.drop length))
termination_by octets => octets.length
decreasing_by
  simp only [List.length_drop, List.length_cons]
  omega

/-- Whether a record among the additional records is either data or a sensible options record. -/
def isSensibleAdditional (raw : RawRecord) : Bool :=
  raw.type ≠ .opt || (raw.name.isRoot && areOptions raw.octets.length raw.octets)

/-- The upper bits of the result code, from the options record if there is one. There must not be
two. -/
def upperResult? (raws : List RawRecord) : Option UInt16 :=
  match raws.filter fun raw => raw.type = .opt with
  | [] => some 0
  | [options] => some (options.ttl >>> 24).toUInt16
  | _ => none

/-- Whether a bit of an octet is set. -/
def isSet (octet mask : UInt8) : Bool := octet &&& mask ≠ 0

/-- Reads a message. -/
def readMessage? (message : List UInt8) : Option Message := do
  let (id, octets) ← readUInt16 message
  let (high, octets) ← readUInt8 octets
  let (low, octets) ← readUInt8 octets
  let (questionCount, octets) ← readUInt16 octets
  let (answerCount, octets) ← readUInt16 octets
  let (authorityCount, octets) ← readUInt16 octets
  let (additionalCount, octets) ← readUInt16 octets
  let (questions, octets) ← readMany (readQuestion message) questionCount.toNat octets
  let (answers, octets) ← readMany (readRaw message) answerCount.toNat octets
  let (authority, octets) ← readMany (readRaw message) authorityCount.toNat octets
  let (additional, _) ← readMany (readRaw message) additionalCount.toNat octets
  if (answers ++ authority).any (fun raw => onlyAdditional raw.type) ||
      !additional.all isSensibleAdditional then
    none
  else
    let upper ← upperResult? additional
    some {
      id := id
      response := isSet high 0x80
      authoritative := isSet high 0x04
      truncated := isSet high 0x02
      recursionDesired := isSet high 0x01
      recursionAvailable := isSet low 0x80
      result := ⟨upper * 16 + low.toUInt16 % 16⟩
      question := questions.head?
      answers := ← recordsOf message answers
      authority := ← recordsOf message authority
      additional := ← recordsOf message (additional.filter fun raw => raw.type ≠ .opt) }

/-- What is reported of octets that are no message: the reader ran out of octets that made sense. -/
def unreadable : String := "Failed to parse DNS response: unexpected end of input reached"

/-- Reads a message, reporting one that cannot be read. -/
def decode (octets : List UInt8) : Except Error Message :=
  match readMessage? octets with
  | some message => .ok message
  | none => .error (.invalidResponse unreadable)

end StubResolver.Wire
