/-
This file turns international names into the ASCII form in which they are looked up, and back. A
name is first normalised: every character is mapped, the whole is composed, and the labels that are
already in ASCII form are read. All labels then have to be well formed. The two directions differ
only in how the labels are written in the end.

A text may hold full stops and so be several labels: a full stop in it separates labels, as does
every character that is mapped to a full stop.
-/

import StubResolver.Text.Idna.Mapping
import StubResolver.Text.Idna.Context
import StubResolver.Text.Punycode

namespace StubResolver.Idna

/-- Whether a character is one of the ASCII characters. -/
def isAscii (char : Char) : Bool := char.toNat < 0x80

/-- What the ASCII form of an international label starts with. -/
def acePrefix : List Char := ['x', 'n', '-', '-']

/-- What a label stands for when it starts like an ASCII form; other labels have none. -/
def aceBody? : List Char → Option (List Char)
  | 'x' :: 'n' :: '-' :: '-' :: body => some body
  | _ => none

/-- A text with every character mapped, unless one is refused. -/
def mapText? : List Char → Option (List Char)
  | [] => some []
  | char :: rest => do
    let mapped ← mapChar char
    let others ← mapText? rest
    some (mapped ++ others)

/-- Whether a label may stand in a name as far as it can be told from the label alone. -/
def isWellFormed (label : List Char) : Bool :=
  !(match label with | [] => false | first :: _ => isMark first) && joinersAllowed [] label

/-- The label that an ASCII form stands for. It must not be one that could be written plainly, and
normalising must leave it as it is, so that every label has one ASCII form. -/
def readAce? (body : List Char) : Option (List Char) :=
  match Punycode.decode? body with
  | none => none
  | some label =>
    if label.all isAscii then none
    else if mapText? label = some label ∧ compose label = label then some label
    else none

/-- The labels of a text in normal form, or nothing when it is no international name. -/
def normalise? (text : List Char) : Option (List (List Char)) := do
  let mapped ← mapText? text
  let labels ← (splitAtEach (· == '.') (compose mapped)).mapM fun label =>
    match aceBody? label with
    | some body => readAce? body
    | none => some label
  if labels.all isWellFormed &&
      (labels.all keepsDirection || !labels.any (fun label => label.any runsLeft)) then
    some labels
  else
    none

/-- Joins labels with full stops. -/
def joinLabels : List (List Char) → List Char
  | [] => []
  | [label] => label
  | label :: rest => label ++ '.' :: joinLabels rest

/-- The ASCII form of a text. A text in ASCII has itself for its ASCII form, with capitals
lowered, unless it is one that stands for an international name. -/
def toAscii? (text : List Char) : Option (List Char) :=
  let lowered := text.map Char.toLower
  if text.all isAscii && (splitAtEach (· == '.') lowered).all (fun label => (aceBody? label).isNone)
  then
    some lowered
  else
    (normalise? text).map fun labels => joinLabels (labels.map fun label =>
      if label.all isAscii then label else acePrefix ++ Punycode.encode label)

/-- What a text stands for, with every ASCII form in it read. -/
def toUnicode? (text : List Char) : Option (List Char) :=
  (normalise? text).map joinLabels

end StubResolver.Idna
