/-
This file writes names as text. A label that is the ASCII form of an international label is written
as what it stands for. Every other label is written octet by octet: letters, digits, hyphens and
underscores as they are, the remaining visible ASCII characters after a backslash, and all other
octets as a backslash and three octal digits. A full stop stands between labels, and one more at
the end marks an absolute name.
-/

import StubResolver.Name.Basic
import StubResolver.Text.Idna
import StubResolver.Text.Utf8

namespace StubResolver

/-! ### Octets -/

/-- Whether an octet of a label is written as it is. A hyphen must not come first, where it could
be taken for an option, and an asterisk only comes first. A full stop is never plain, since it
would end the label. -/
def isPlainOctet (first : Bool) (octet : UInt8) : Bool :=
  (0x30 ≤ octet && octet ≤ 0x39) || (0x41 ≤ octet && octet ≤ 0x5a) ||
  (0x61 ≤ octet && octet ≤ 0x7a) || octet == 0x5f ||
  (octet == 0x2d && !first) || (octet == 0x2a && first)

/-- The octal digits of an octet. -/
def octalDigits (octet : UInt8) : List Char :=
  [octet / 64, octet / 8 % 8, octet % 8].map fun digit => Char.ofNat (digit.toNat + 0x30)

/-- An octet of a label as text. -/
def octetText (first : Bool) (octet : UInt8) : List Char :=
  if isPlainOctet first octet then [Char.ofNat octet.toNat]
  else if 0x20 < octet ∧ octet < 0x7f then ['\\', Char.ofNat octet.toNat]
  else '\\' :: octalDigits octet

/-! ### Labels and names -/

/-- The text of the octets of a label. -/
def octetsText : List UInt8 → List Char
  | [] => []
  | first :: rest => octetText true first ++ rest.flatMap (octetText false)

namespace Label

/-- What a label stands for when it is the ASCII form of an international label. -/
def international? (label : Label) : Option (List Char) :=
  if label.octets.take 4 = [0x78, 0x6e, 0x2d, 0x2d] then
    Idna.toUnicode? (Utf8.decode label.octets)
  else
    none

/-- A label as text. -/
def text (label : Label) : List Char :=
  label.international?.getD (octetsText label.octets)

end Label

namespace Name

/-- A name as text, character by character. -/
def chars (name : Name) : List Char :=
  Idna.joinLabels (name.labels.map Label.text) ++ if name.absolute then ['.'] else []

/-- A name as text. -/
def text (name : Name) : String := String.ofList name.chars

/-- How the failure of an operation on names is reported. -/
def Misfit.toError : Misfit → Error
  | tooLong length =>
    .nameTooLong (toString length ++ " octets exceeds " ++ toString maxNameLength)
  | notBelow name owner => .invalidName (name.text ++ " is not below " ++ owner.text)

end Name

end StubResolver
