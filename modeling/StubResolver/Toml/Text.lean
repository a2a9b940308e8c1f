/-
This file reads and writes texts between quotes. Double quotes hold a text with escapes, single
quotes a text as it is, and three quotes of either kind a text that may have line ends in it. When
a text is written, the plainest kind of quotes that can hold it is taken.

Line ends are single line feeds: whoever reads a document brings its line ends into this form
first.
-/

import StubResolver.Text.Reads
import StubResolver.Text.Table

namespace StubResolver.Toml

/-- Whether a character may not stand in a document, line feeds apart. -/
def isForbidden (char : Char) : Bool :=
  (char.toNat < 0x20 && char != '\t' && char != '\n') || char.toNat == 0x7f

/-! ### Reading -/

/-- The characters that escapes of one letter stand for. -/
def escapes : List (Char × Char) := [
  ('b', '\x08'), ('t', '\t'), ('n', '\n'), ('f', '\x0c'), ('r', '\r'), ('e', '\x1b'), ('"', '"'),
  ('\\', '\\')]

/-- The number of hexadecimal digits in an escape that names a code point. -/
def codeLength? : Char → Option Nat
  | 'x' => some 2
  | 'u' => some 4
  | 'U' => some 8
  | _ => none

/-- Where reading a text with escapes stands. -/
inductive Spot where
  /-- Between two characters of the text. -/
  | plain
  /-- Behind a backslash. -/
  | escaped
  /-- In the digits of a code point. -/
  | inCode (missing value : Nat)
  /-- Behind a backslash and blanks, where only a line end can follow. -/
  | beforeLineEnd
  /-- Behind a backslash and a line end, where blanks and line ends do not count. -/
  | afterLineEnd

/-- Puts a character before the text that a reader found. -/
def putBefore (char : Char) (found : Option (List Char × List Char)) :
    Option (List Char × List Char) :=
  found.map fun (text, rest) => (char :: text, rest)

/-- Reads up to the closing double quote. -/
def readEscaped : Spot → Reads (List Char)
  | _, [] => none
  | .inCode missing value, char :: rest =>
    match hexDigit? char with
    | some digit =>
      let code := value * 16 + digit
      if 1 < missing then readEscaped (.inCode (missing - 1) code) rest
      else if code.isValidChar then putBefore (Char.ofNat code) (readEscaped .plain rest)
      else none
    | none => none
  | .escaped, char :: rest =>
    match escapes.lookup char, codeLength? char with
    | some meant, _ => putBefore meant (readEscaped .plain rest)
    | none, some length => readEscaped (.inCode length 0) rest
    | none, none => none
  | _, char :: rest =>
    if char = '"' then some ([], rest)
    else if char = '\\' then readEscaped .escaped rest
    else if char = '\n' ∨ isForbidden char then none
    else putBefore char (readEscaped .plain rest)

/-- Reads up to three closing double quotes. One or two quotes right before them belong to the
text. -/
def readEscapedLines : Spot → Reads (List Char)
  | _, [] => none
  | .inCode missing value, char :: rest =>
    match hexDigit? char with
    | some digit =>
      let code := value * 16 + digit
      if 1 < missing then readEscapedLines (.inCode (missing - 1) code) rest
      else if code.isValidChar then putBefore (Char.ofNat code) (readEscapedLines .plain rest)
      else none
    | none => none
  | .escaped, char :: rest =>
    match escapes.lookup char, codeLength? char with
    | some meant, _ => putBefore meant (readEscapedLines .plain rest)
    | none, some length => readEscapedLines (.inCode length 0) rest
    | none, none =>
      if char = '\n' then readEscapedLines .afterLineEnd rest
      else if char = ' ' ∨ char = '\t' then readEscapedLines .beforeLineEnd rest
      else none
  | .beforeLineEnd, char :: rest =>
    if char = '\n' then readEscapedLines .afterLineEnd rest
    else if char = ' ' ∨ char = '\t' then readEscapedLines .beforeLineEnd rest
    else none
  | _, '"' :: '"' :: '"' :: '"' :: '"' :: rest => some (['"', '"'], rest)
  | _, '"' :: '"' :: '"' :: '"' :: rest => some (['"'], rest)
  | _, '"' :: '"' :: '"' :: rest => some ([], rest)
  | .afterLineEnd, char :: rest =>
    if char = ' ' ∨ char = '\t' ∨ char = '\n' then readEscapedLines .afterLineEnd rest
    else if char = '\\' then readEscapedLines .escaped rest
    else if isForbidden char then none
    else putBefore char (readEscapedLines .plain rest)
  | .plain, char :: rest =>
    if char = '\\' then readEscapedLines .escaped rest
    else if isForbidden char then none
    else putBefore char (readEscapedLines .plain rest)

/-- Reads up to the closing single quote. -/
def readLiteral : Reads (List Char)
  | [] => none
  | char :: rest =>
    if char = '\'' then some ([], rest)
    else if char = '\n' ∨ isForbidden char then none
    else putBefore char (readLiteral rest)

/-- Reads up to three closing single quotes. One or two quotes right before them belong to the
text. -/
def readLiteralLines : Reads (List Char)
  | [] => none
  | '\'' :: '\'' :: '\'' :: '\'' :: '\'' :: rest => some (['\'', '\''], rest)
  | '\'' :: '\'' :: '\'' :: '\'' :: rest => some (['\''], rest)
  | '\'' :: '\'' :: '\'' :: rest => some ([], rest)
  | char :: rest => if isForbidden char then none else putBefore char (readLiteralLines rest)

/-- A text without the line end that it may start with. -/
def dropLineEnd : List Char → List Char
  | '\n' :: rest => rest
  | text => text

/-- Reads a text in quotes that stand once. -/
def readShortText : Reads (List Char)
  | '"' :: rest => readEscaped .plain rest
  | '\'' :: rest => readLiteral rest
  | _ => none

/-- Reads a text in quotes of any kind. -/
def readText : Reads (List Char)
  | '"' :: '"' :: '"' :: rest => readEscapedLines .plain (dropLineEnd rest)
  | '\'' :: '\'' :: '\'' :: rest => readLiteralLines (dropLineEnd rest)
  | text => readShortText text

/-! ### Writing -/

/-- A character as four hexadecimal digits. -/
def codeText (char : Char) : List Char :=
  [char.toNat / 4096, char.toNat / 256, char.toNat / 16, char.toNat].map fun value =>
    (Nat.digitChar (value % 16)).toUpper

/-- A character between double quotes, double quotes and line feeds apart. -/
def escapedChar (char : Char) : List Char :=
  if char = '\x08' then ['\\', 'b']
  else if char = '\t' then ['\\', 't']
  else if char = '\x0c' then ['\\', 'f']
  else if char = '\r' then ['\\', 'r']
  else if char = '\\' then ['\\', '\\']
  else if isForbidden char then '\\' :: 'u' :: codeText char
  else [char]

/-- A text between double quotes, where `most` quotes in a row need no escape, and `row` of them
have just been written. A line feed is escaped only when no quotes may stand unescaped. -/
def escapedText (most : Nat) : (row : Nat) → List Char → List Char
  | _, [] => []
  | row, char :: rest =>
    if char = '"' then
      if row < most then '"' :: escapedText most (row + 1) rest
      else '\\' :: '"' :: escapedText most 0 rest
    else if char = '\n' then
      (if most = 0 then ['\\', 'n'] else ['\n']) ++ escapedText most 0 rest
    else
      escapedChar char ++ escapedText most 0 rest

/-- The length of the longest row of a character in a text, where `row` of them come before it. -/
def longestRow (counted : Char) : (row : Nat) → List Char → Nat
  | row, [] => row
  | row, char :: rest =>
    if char = counted then longestRow counted (row + 1) rest
    else max row (longestRow counted 0 rest)

/-- A text with the same quotes before and after it. -/
def between (quotes text : List Char) : List Char := quotes ++ text ++ quotes

/-- Three of a kind of quotes. -/
def three (quote : Char) : List Char := List.replicate 3 quote

/-- A text in quotes. Double quotes serve for most texts, and single quotes where they save
escapes. A text with line ends starts on a line of its own between three double quotes, and three
quotes also help a text that has quotes of both kinds in it. -/
def quote (text : List Char) : List Char :=
  let controls := text.any fun char => isForbidden char || char == '\t'
  let doubles := longestRow '"' 0 text
  let singles := longestRow '\'' 0 text
  let backslash := text.contains '\\'
  if text.contains '\n' then between (three '"') ('\n' :: escapedText 2 0 text)
  else if controls || (!backslash && doubles == 0) then between ['"'] (escapedText 0 0 text)
  else if singles == 0 then between ['\''] text
  else if !backslash && doubles ≤ 2 then between (three '"') (escapedText 2 0 text)
  else if singles ≤ 2 then between (three '\'') text
  else between ['"'] (escapedText 0 0 text)

end StubResolver.Toml
