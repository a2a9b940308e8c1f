/-
This file reads addresses. The same readers serve an address alone, an address before a port, and
the IPv4 address at the end of an IPv6 address. No reader takes part of a number: a run of digits
that is too long, or that starts with a needless zero in an IPv4 address, is no number at all.
-/

import StubResolver.Address.Basic
import StubResolver.Error
import StubResolver.Text.Reads
import StubResolver.Text.Table

namespace StubResolver

/-! ### Parts -/

/-- Reads a decimal number up to `greatest`, of any number of digits. -/
def readDecimal (greatest : Nat) : Reads Nat := fun text =>
  match readDigits? greatest (text.takeWhile Char.isDigit) with
  | some value => some (value, text.dropWhile Char.isDigit)
  | none => none

/-- Reads an octet of an IPv4 address: at most three digits, without a needless zero in front. -/
def readOctet : Reads UInt8 := fun text =>
  let digits := text.takeWhile Char.isDigit
  if 3 < digits.length ∨ (digits.head? = some '0' ∧ 1 < digits.length) then
    none
  else
    match readDigits? 255 digits with
    | some value => some (value.toUInt8, text.dropWhile Char.isDigit)
    | none => none

/-- Whether a character is a hexadecimal digit. -/
def isHexDigit (char : Char) : Bool := (hexDigit? char).isSome

/-- Reads a group of an IPv6 address: one to four hexadecimal digits. -/
def readGroup : Reads UInt16 := fun text =>
  let digits := text.takeWhile isHexDigit
  if digits.isEmpty ∨ 4 < digits.length then
    none
  else
    some ((hexValue digits).toUInt16, text.dropWhile isHexDigit)

/-! ### Addresses -/

/-- Reads an IPv4 address. -/
def IPv4.read : Reads IPv4 := fun text => do
  let (first, text) ← readOctet text
  let ((), text) ← readChar '.' text
  let (second, text) ← readOctet text
  let ((), text) ← readChar '.' text
  let (third, text) ← readOctet text
  let ((), text) ← readChar '.' text
  let (fourth, text) ← readOctet text
  some (⟨first, second, third, fourth⟩, text)

namespace IPv6

/-- Reads a part of an address, after a colon unless it is the first part. -/
def readPart {Value : Type} (first : Bool) (read : Reads Value) : Reads Value := fun text =>
  if first then
    read text
  else
    match readChar ':' text with
    | some ((), rest) => read rest
    | none => none

/-- Reads as many groups as there are, but not more than there is `room` for. An IPv4 address may
stand for the last two of them; whether one did comes with the groups. -/
def readGroups : (room : Nat) → (first : Bool) → List Char → List UInt16 × Bool × List Char
  | 0, _, text => ([], false, text)
  | room + 1, first, text =>
    match if room = 0 then none else readPart first IPv4.read text with
    | some (inner, rest) =>
      ([inner.first.toUInt16 * 256 + inner.second.toUInt16,
        inner.third.toUInt16 * 256 + inner.fourth.toUInt16], true, rest)
    | none =>
      match readPart first readGroup text with
      | some (group, rest) =>
        let (groups, inner, rest) := readGroups room false rest
        (group :: groups, inner, rest)
      | none => ([], false, text)

/-- Reads an IPv6 address: eight groups, or fewer with two colons for the zero groups that are left
out, of which there is at least one. -/
def read : Reads IPv6 := fun text =>
  let (head, inner, rest) := readGroups 8 true text
  if head.length = 8 then
    (ofGroups? head).map (·, rest)
  else if inner then
    none
  else do
    let ((), rest) ← readChar ':' rest
    let ((), rest) ← readChar ':' rest
    let (tail, _, rest) := readGroups (7 - head.length) true rest
    let zeros := List.replicate (8 - head.length - tail.length) 0
    (ofGroups? (head ++ zeros ++ tail)).map (·, rest)

end IPv6

/-- Reads an address of either kind. -/
def Address.read : Reads Address := fun text =>
  match IPv4.read text with
  | some (address, rest) => some (.v4 address, rest)
  | none => (IPv6.read text).map fun (address, rest) => (.v6 address, rest)

/-- Reads the zone of an IPv6 address, if one is given. -/
def readZone (text : List Char) : Option (UInt32 × List Char) :=
  match readChar '%' text with
  | some ((), rest) =>
    (readDecimal 0xffffffff rest).map fun (zone, rest) => (zone.toUInt32, rest)
  | none => some (0, text)

/-- Reads an IPv4 address with a port. -/
def ServerAddress.readV4 : Reads ServerAddress := fun text => do
  let (address, text) ← IPv4.read text
  let ((), text) ← readChar ':' text
  let (port, text) ← readDecimal 0xffff text
  some (.v4 address port.toUInt16, text)

/-- Reads an IPv6 address in brackets with a port. -/
def ServerAddress.readV6 : Reads ServerAddress := fun text => do
  let ((), text) ← readChar '[' text
  let (address, text) ← IPv6.read text
  let (zone, text) ← readZone text
  let ((), text) ← readChar ']' text
  let ((), text) ← readChar ':' text
  let (port, text) ← readDecimal 0xffff text
  some (.v6 address port.toUInt16 zone, text)

/-! ### Whole texts -/

/-- Reads an address that is all of a text. -/
def Address.parse? (text : List Char) : Option Address := wholly Address.read text

/-- Reads a server with a port that is all of a text. -/
def ServerAddress.parseWithPort? (text : List Char) : Option ServerAddress :=
  wholly (fun chars => (readV4 chars).or (readV6 chars)) text

/-- Reads a server, which answers on the usual port when none is given. -/
def ServerAddress.parse? (text : List Char) : Option ServerAddress :=
  (parseWithPort? text).or ((Address.parse? text).map (Address.atPort dnsPort))

/-- Reads a server, reporting a text that is none. -/
def ServerAddress.parse (text : String) : Except Error ServerAddress :=
  match parse? text.toList with
  | some server => .ok server
  | none => .error (.configuration ("Invalid server address: " ++ text))

end StubResolver
