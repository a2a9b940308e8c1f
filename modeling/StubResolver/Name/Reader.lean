/-
This file reads names from text. A full stop ends a label. A backslash takes the next character
into the label whatever it is, except that a numeric character starts an escape of three octal
digits. White space and control characters have to be escaped. A text that ends in a full stop is
an absolute name; a text that ends in the middle of an escape loses what was read of the escape.

A label read this way is text of any script, and becomes octets when it ends: a label that starts
with an underscore is taken as it is, all others in their ASCII form. The first fault in reading
order is reported, so a label is turned into octets as soon as it ends.
-/

import StubResolver.Name.Basic
import StubResolver.Text.Idna
import StubResolver.Text.Numeric

namespace StubResolver

namespace Name

/-! ### Faults -/

/-- Why a text is not a name. -/
inductive Fault where
  /-- A character that cannot stand where it stands. -/
  | unrecognizedChar (char : Char)
  /-- A numeric character in an escape that is no octal digit. -/
  | illegalChar (char : Char)
  /-- A label of so many octets. -/
  | labelTooLong (length : Nat)
  /-- A label that cannot be looked up, in the form in which it would be. -/
  | malformedLabel (label : List Char)
  /-- A label that has no ASCII form. -/
  | noAsciiForm
  /-- A name that takes so many octets on the wire up to the label just read. -/
  | tooLong (length : Nat)
deriving DecidableEq

/-- The wording of a fault. -/
def Fault.message : Fault → String
  | unrecognizedChar char => "unrecognized char: " ++ char.toString
  | illegalChar char => "illegal char: " ++ char.toString
  | labelTooLong length => "label bytes exceed 63: " ++ toString length
  | malformedLabel label => "Malformed label: " ++ String.ofList label
  | noAsciiForm => "Label contains invalid characters: Err(Errors)"
  | tooLong length => "name label data exceed 255: " ++ toString length

/-! ### Labels -/

/-- Whether a character may stand in a label that is looked up. -/
def isLabelChar (first : Bool) (char : Char) : Bool :=
  char.isAlphanum || char == '_' || char == '.' || (char == '-' && !first) ||
    (char == '*' && first)

/-- Whether every character of a label may stand where it stands, and there is one. -/
def isLabelText : List Char → Bool
  | [] => false
  | first :: rest => isLabelChar true first && rest.all (isLabelChar false)

/-- The label of a text in ASCII. -/
def asciiLabel (label : List Char) : Except Fault Label :=
  if isLabelText label then
    match Label.ofOctets? (label.map fun char => char.toNat.toUInt8) with
    | some result => .ok result
    | none => .error (.labelTooLong label.length)
  else
    .error (.malformedLabel label)

/-- The label of a text of any script. Its length counts before it is brought into ASCII form,
which would take long for a long text. -/
def labelOfText (label : List Char) : Except Fault Label :=
  let length := (String.ofList label).utf8ByteSize
  if label = ['*'] then
    .ok Label.wildcard
  else if 63 < length then
    .error (.labelTooLong length)
  else if label.head? = some '_' then
    asciiLabel label
  else
    match Idna.toAscii? label with
    | some ascii => asciiLabel ascii
    | none => .error .noAsciiForm

/-! ### Names -/

/-- Where reading stands: in a label, behind a backslash, or in an octal escape with the digits
read so far. -/
inductive Spot where
  | inLabel
  | afterBackslash
  | inEscape (digits : List Nat)

/-- The value of an octal digit, or the fault that it is none. -/
def octalDigit (char : Char) : Except Fault Nat :=
  if '0' ≤ char ∧ char ≤ '7' then .ok (char.toNat - '0'.toNat) else .error (.illegalChar char)

/-- The name with one more label at its end. -/
def addLabel (name : Name) (label : List Char) : Except Fault Name := do
  let labels := name.labels ++ [← labelOfText label]
  match ofLabels? labels false with
  | some longer => .ok longer
  | none => .error (.tooLong (wireLength labels))

/-- Reads the rest of a text, where `name` holds the labels that have ended and `label` the
characters of the one that has not. -/
def readFrom (name : Name) (label : List Char) : Spot → List Char → Except Fault Name
  | _, [] =>
    if label.isEmpty then .ok name.toAbsolute else addLabel name label
  | .inLabel, char :: rest => do
    if char = '.' then
      readFrom (← addLabel name label) [] .inLabel rest
    else if char = '\\' then
      readFrom name label .afterBackslash rest
    else if isControl char || isBlank char then
      .error (.unrecognizedChar char)
    else
      readFrom name (label ++ [char]) .inLabel rest
  | .afterBackslash, char :: rest => do
    if isNumeric char then
      readFrom name label (.inEscape [← octalDigit char]) rest
    else
      readFrom name (label ++ [char]) .inLabel rest
  | .inEscape digits, char :: rest => do
    if isNumeric char then
      let value := digits.foldl (fun sum digit => sum * 8 + digit) 0
      let digit ← octalDigit char
      if digits.length = 2 then
        readFrom name (label ++ [Char.ofNat (value * 8 + digit)]) .inLabel rest
      else
        readFrom name label (.inEscape (digits ++ [digit])) rest
    else
      .error (.unrecognizedChar char)

/-- The name without labels that is not absolute. -/
def empty : Name := ⟨[], false, root.fits⟩

/-- Reads a name. The empty text is the name that has no labels and is not absolute. -/
def read (text : List Char) : Except Fault Name :=
  if text = ['.'] then .ok root
  else if text = [] then .ok empty
  else readFrom empty [] .inLabel text

/-- Reads a name, reporting a fault together with the text it was found in. -/
def parse (text : String) : Except Error Name :=
  match read text.toList with
  | .ok name => .ok name
  | .error fault => .error (.invalidName ("'" ++ text ++ "': " ++ fault.message))

end Name

end StubResolver
