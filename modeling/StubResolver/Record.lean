/-
This file fixes what a resource record is: an owner, a class, a lifetime in seconds, and data. The
data is kept apart for the types that resolving looks into; for every other type it is a string of
octets. A signature belongs to the set of the type that it covers, and not to a set of signatures.

Records are compared without their lifetimes and without the case of letters in names, which `≈`
says: the same data seen twice, with different remaining lifetimes, is one record.
-/

import StubResolver.Address.Basic
import StubResolver.Name.Printer
import StubResolver.RecordClass
import StubResolver.RecordType

namespace StubResolver

/-! ### Data -/

/-- What a zone says about itself. -/
structure ZoneStart where
  /-- The server that the zone is maintained on. -/
  primary : Name
  /-- The mailbox of those who maintain it, as a name. -/
  mailbox : Name
  serial : UInt32
  refresh : UInt32
  retry : UInt32
  expire : UInt32
  /-- How long the absence of a name or of a type may be remembered. -/
  minimum : UInt32
deriving DecidableEq

/-- The data of a record, by type. -/
inductive RecordData where
  | a (address : IPv4)
  | aaaa (address : IPv6)
  | ns (host : Name)
  | cname (target : Name)
  | dname (target : Name)
  | ptr (target : Name)
  | mx (preference : UInt16) (exchange : Name)
  | srv (priority weight port : UInt16) (target : Name)
  | soa (start : ZoneStart)
  | txt (strings : List (List UInt8))
  | rrsig (covered : RecordType) (octets : List UInt8)
  | other (type : RecordType) (octets : List UInt8)
deriving DecidableEq

/-- What a zone says about itself, with the capitals of names lowered. -/
def ZoneStart.lowered (start : ZoneStart) : ZoneStart :=
  { start with primary := start.primary.lowered, mailbox := start.mailbox.lowered }

/-- What a zone says about itself, as text. -/
def ZoneStart.text (start : ZoneStart) : String :=
  let numbers := [start.serial, start.refresh, start.retry, start.expire, start.minimum]
  " ".intercalate (start.primary.text :: start.mailbox.text ::
    numbers.map fun number => toString number.toNat)

namespace RecordData

/-- The type that the data belongs to. -/
def type : RecordData → RecordType
  | a _ => .a
  | aaaa _ => .aaaa
  | ns _ => .ns
  | cname _ => .cname
  | dname _ => .dname
  | ptr _ => .ptr
  | mx _ _ => .mx
  | srv _ _ _ _ => .srv
  | soa _ => .soa
  | txt _ => .txt
  | rrsig _ _ => .rrsig
  | other type _ => type

/-- The name that an alias stands for. -/
def aliasTarget? : RecordData → Option Name
  | cname target | dname target => some target
  | _ => none

/-- The host whose addresses a server sends along with the record. -/
def additionalName? : RecordData → Option Name
  | ns host => some host
  | mx _ exchange => some exchange
  | srv _ _ _ target => some target
  | _ => none

/-- The type that a signature covers. -/
def covered? : RecordData → Option RecordType
  | rrsig covered _ => some covered
  | _ => none

/-- How long a zone lets the absence of its names be remembered. -/
def minimum? : RecordData → Option UInt32
  | soa start => some start.minimum
  | _ => none

/-- The data with the capitals of names lowered. -/
def lowered : RecordData → RecordData
  | ns host => ns host.lowered
  | cname target => cname target.lowered
  | dname target => dname target.lowered
  | ptr target => ptr target.lowered
  | mx preference exchange => mx preference exchange.lowered
  | srv priority weight port target => srv priority weight port target.lowered
  | soa start => soa start.lowered
  | data => data

@[simp] theorem lowered_type (data : RecordData) : data.lowered.type = data.type := by
  cases data <;> rfl

@[simp] theorem lowered_covered? (data : RecordData) : data.lowered.covered? = data.covered? := by
  cases data <;> rfl

/-- A number of octets that are not looked into, as text. -/
def sizeText (octets : List UInt8) : String := toString octets.length

/-- The data as text. -/
def text : RecordData → String
  | a address => String.ofList address.chars
  | aaaa address => String.ofList address.chars
  | ns name | cname name | dname name | ptr name => name.text
  | mx preference exchange => toString preference.toNat ++ " " ++ exchange.text
  | srv priority weight port target =>
    let numbers := [priority, weight, port].map fun number => toString number.toNat
    " ".intercalate (numbers ++ [target.text])
  | soa start => start.text
  | txt strings =>
    " ".intercalate (strings.map fun octets => "\"" ++ String.ofList (Utf8.decode octets) ++ "\"")
  | rrsig covered octets => covered.text ++ " (" ++ sizeText octets ++ " octets)"
  | other _ octets => "\\# " ++ sizeText octets

end RecordData

/-! ### Records -/

/-- A resource record. -/
structure Record where
  name : Name
  recordClass : RecordClass
  /-- The lifetime in seconds. -/
  ttl : UInt32
  data : RecordData
deriving DecidableEq

namespace Record

/-- The type of a record. -/
def type (record : Record) : RecordType := record.data.type

/-- The type of the set that a record belongs to: for a signature the type it covers. -/
def setType (record : Record) : RecordType := record.data.covered?.getD record.type

/-- Whether a record is a signature. -/
def isSignature (record : Record) : Bool := record.type = .rrsig

/-- What decides whether two records are the same: the record with its lifetime left out and the
capitals of its names lowered. -/
def identity (record : Record) : Record :=
  { record with name := record.name.lowered, ttl := 0, data := record.data.lowered }

/-- Records are the same when they differ at most in lifetime and in the case of letters. -/
instance : Setoid Record where
  r first second := first.identity = second.identity
  iseqv := ⟨fun _ => rfl, Eq.symm, Eq.trans⟩

theorem equiv_iff_identity (first second : Record) :
    first ≈ second ↔ first.identity = second.identity := Iff.rfl

instance (first second : Record) : Decidable (first ≈ second) :=
  inferInstanceAs (Decidable (first.identity = second.identity))

/-- The same records have one type. -/
theorem type_eq_of_equiv (first second : Record) (same : first ≈ second) :
    first.type = second.type := by
  have dataSame : first.data.lowered = second.data.lowered := congrArg data same
  simpa [type] using congrArg RecordData.type dataSame

/-- The same records belong to sets of one type. -/
theorem setType_eq_of_equiv (first second : Record) (same : first ≈ second) :
    first.setType = second.setType := by
  have dataSame : first.data.lowered = second.data.lowered := congrArg data same
  have covered : first.data.covered? = second.data.covered? := by
    simpa using congrArg RecordData.covered? dataSame
  simp [setType, covered, type_eq_of_equiv first second same]

/-- A record as text. -/
def text (record : Record) : String :=
  " ".intercalate [record.name.text, toString record.ttl.toNat, record.recordClass.text,
    record.type.text, record.data.text]

/-- The number of different records in a list. -/
def distinctCount (records : List Record) : Nat :=
  (records.map identity).eraseDups.length

end Record

end StubResolver
