/-
This file names the types of resource records. A type is a sixteen-bit code; the well-known codes
have mnemonics, and every other code is written with its number, so that each type has a text and
every such text is read back as the type. Meta types occur in questions and in the bookkeeping of
transactions only, and never name a set of records.
-/

import StubResolver.Text.Decimal

namespace StubResolver

/-- The type of a resource record or of a question. -/
structure RecordType where
  code : UInt16
deriving DecidableEq, Repr

namespace RecordType

/-! ### The types that resolving looks at -/

/-- An IPv4 address. -/
def a : RecordType := ⟨1⟩
/-- A name server of a zone. -/
def ns : RecordType := ⟨2⟩
/-- The name that an alias stands for. -/
def cname : RecordType := ⟨5⟩
/-- The start of a zone, with the lifetime of negative answers. -/
def soa : RecordType := ⟨6⟩
/-- The name that an address belongs to. -/
def ptr : RecordType := ⟨12⟩
/-- A mail exchange. -/
def mx : RecordType := ⟨15⟩
/-- Text. -/
def txt : RecordType := ⟨16⟩
/-- An IPv6 address. -/
def aaaa : RecordType := ⟨28⟩
/-- The place of a service. -/
def srv : RecordType := ⟨33⟩
/-- The name that a whole subtree is redirected to. -/
def dname : RecordType := ⟨39⟩
/-- Options of a message, in the form of a record. -/
def opt : RecordType := ⟨41⟩
/-- A signature. -/
def rrsig : RecordType := ⟨46⟩
/-- All types, in a question. -/
def any : RecordType := ⟨255⟩

/-! ### Texts -/

/-- The codes that have a mnemonic. -/
def mnemonics : List (UInt16 × String) := [
  (1, "A"), (2, "NS"), (5, "CNAME"), (6, "SOA"), (12, "PTR"), (13, "HINFO"), (15, "MX"),
  (16, "TXT"), (28, "AAAA"), (33, "SRV"), (35, "NAPTR"), (39, "DNAME"), (41, "OPT"), (43, "DS"),
  (46, "RRSIG"), (47, "NSEC"), (48, "DNSKEY"), (50, "NSEC3"), (64, "SVCB"), (65, "HTTPS"),
  (249, "TKEY"), (250, "TSIG"), (251, "IXFR"), (252, "AXFR"), (253, "MAILB"), (254, "MAILA"),
  (255, "ANY"), (257, "CAA")]

/-- The mnemonic of a type that has one. -/
def mnemonic? (type : RecordType) : Option String := mnemonics.lookup type.code

/-- The mnemonic of a type, or the word for all types that have none. -/
def mnemonic (type : RecordType) : String := type.mnemonic?.getD "UNKNOWN"

/-- A type as text. -/
def text (type : RecordType) : String :=
  type.mnemonic?.getD ("TYPE" ++ toString type.code.toNat)

/-- The code behind the word `TYPE`, if that is what a text in capitals is. -/
def numbered? : List Char → Option UInt16
  | 'T' :: 'Y' :: 'P' :: 'E' :: digits => (readCount? 0xffff digits).map Nat.toUInt16
  | _ => none

/-- Reads a type, in letters of any case. -/
def parse? (text : String) : Option RecordType :=
  let capitals := text.toList.map Char.toUpper
  match numbered? capitals with
  | some code => some ⟨code⟩
  | none =>
    (mnemonics.find? fun entry => entry.2.toList = capitals).map fun entry => ⟨entry.1⟩

/-- What is reported of a text that is no type. -/
def unknownMessage (text : String) : String := "Unknown record type: " ++ text

/-! ### Kinds of types -/

/-- Whether a type never names a set of records: the options record, and the codes set aside for
questions and transactions. -/
def isMeta (type : RecordType) : Bool :=
  type.code == 41 || (128 ≤ type.code && type.code ≤ 255)

/-- Whether records of a type say that a name stands for another. -/
def isAlias (type : RecordType) : Bool := type = cname || type = dname

end RecordType

end StubResolver
