/-
This file reads documents. A document is read in two steps: first as the list of its headers and
of its keys with their values, each of which is well formed on its own, and then by adding these to
the document one after the other, which tells whether they go together.

Lists and tables in braces may be nested, but only so deep. The depth and the length of the text
bound all that reading has to do.
-/

import StubResolver.Toml.Scalar
import StubResolver.Toml.Text

namespace StubResolver.Toml

/-! ### Blanks and comments -/

/-- Whether a character is blank within a line. -/
def isGap (char : Char) : Bool := char == ' ' || char == '\t'

/-- A text without the blanks at its front. -/
def skipGap (text : List Char) : List Char := text.dropWhile isGap

/-- A text without the blanks, line ends and comments at its front, where `inComment` says whether
it starts within a comment. There is none when a comment holds a character that may not stand in a
document. -/
def skipVoid (inComment : Bool) : List Char → Option (List Char)
  | [] => some []
  | char :: rest =>
    if char = '\n' then skipVoid false rest
    else if inComment then if isForbidden char then none else skipVoid true rest
    else if char = '#' then skipVoid true rest
    else if isGap char then skipVoid false rest
    else some (char :: rest)

/-- The text after the end of a line, if nothing but a comment comes before the end. -/
def endLine (text : List Char) : Option (List Char) :=
  match skipGap text with
  | [] => some []
  | '\n' :: rest => some rest
  | '#' :: rest =>
    let comment := rest.takeWhile (· != '\n')
    if comment.any isForbidden then none else some (rest.dropWhile (· != '\n'))
  | _ => none

/-! ### Keys -/

/-- Whether a character may stand in a key without quotes. -/
def isBareKeyChar (char : Char) : Bool := char.isAlphanum || char == '_' || char == '-'

/-- Reads one part of a key. -/
def readKeyPart : Reads String := fun text =>
  let bare := text.takeWhile isBareKeyChar
  if bare.isEmpty then
    (readShortText text).map fun (key, rest) => (String.ofList key, rest)
  else
    some (String.ofList bare, text.dropWhile isBareKeyChar)

/-- Reads a key of at most so many parts, with the blanks after it. -/
def readKeyParts : (most : Nat) → Reads (List String)
  | 0, _ => none
  | most + 1, text => do
    let (part, rest) ← readKeyPart text
    match skipGap rest with
    | '.' :: rest =>
      let (parts, rest) ← readKeyParts most (skipGap rest)
      some (part :: parts, rest)
    | rest => some ([part], rest)

/-- Reads a key, with the blanks around it. -/
def readKey : Reads (List String) := fun text => readKeyParts text.length (skipGap text)

/-! ### Values -/

/-- Reads at most so many items up to a closing bracket, with commas between them and perhaps one
after the last. -/
def readItems {Item : Type} (close : Char) (readItem : Reads Item) :
    (most : Nat) → Reads (List Item)
  | 0, _ => none
  | most + 1, text => do
    match ← skipVoid false text with
    | [] => none
    | char :: rest =>
      if char = close then
        some ([], rest)
      else
        let (item, rest) ← readItem (char :: rest)
        match ← skipVoid false rest with
        | [] => none
        | char :: rest =>
          if char = ',' then
            let (items, rest) ← readItems close readItem most rest
            some (item :: items, rest)
          else if char = close then
            some ([item], rest)
          else
            none

/-- Reads a key with its value. -/
def readPair (readValue : Reads Value) : Reads (List String × Value) := fun text => do
  let (key, rest) ← readKey text
  let ((), rest) ← readChar '=' rest
  let (value, rest) ← readValue (skipGap rest)
  some ((key, value), rest)

/-- Whether a character may stand in a value that is a word. -/
def isWordChar (char : Char) : Bool :=
  isBareKeyChar char || char == '+' || char == '.' || char == ':'

/-- Reads a value that is a word. A blank may stand between a date and a time. -/
def readScalar : Reads Value := fun text =>
  let word := text.takeWhile isWordChar
  match isDate word, text.dropWhile isWordChar with
  | true, ' ' :: digit :: rest =>
    if digit.isDigit then
      let time := (digit :: rest).takeWhile isWordChar
      (scalar? (word ++ ' ' :: time)).map fun value => (value, rest.dropWhile isWordChar)
    else
      some (.moment, ' ' :: digit :: rest)
  | _, rest => (scalar? word).map fun value => (value, rest)

/-- The table of keys and values in braces. -/
def tableInBraces? (pairs : List (List String × Value)) : Option Value :=
  (pairs.foldlM (fun entries (key, value) => define key value .braces entries) []).map
    (.table .braces)

/-- Reads a value that may have values nested in it, but only so deep. -/
def readValue : (depth : Nat) → Reads Value
  | depth, '[' :: rest =>
    match depth with
    | 0 => none
    | depth + 1 =>
      (readItems ']' (readValue depth) (rest.length + 1) rest).map fun (items, rest) =>
        (.list items, rest)
  | depth, '\x7b' :: rest =>
    match depth with
    | 0 => none
    | depth + 1 => do
      let (pairs, rest) ←
        readItems '\x7d' (readPair (readValue depth)) (rest.length + 1) rest
      (tableInBraces? pairs).map (·, rest)
  | _, text =>
    match readText text with
    | some (text, rest) => some (.text (String.ofList text), rest)
    | none => readScalar text

/-- How deep values may be nested. -/
def greatestDepth : Nat := 80

/-! ### Documents -/

/-- What a line of a document says. -/
inductive Statement where
  /-- The lines that follow are about this table. -/
  | header (key : List String)
  /-- The lines that follow are about a new table in this series. -/
  | element (key : List String)
  /-- The key has the value. -/
  | pair (key : List String) (value : Value)

/-- Reads a statement. -/
def readStatement : Reads Statement
  | '[' :: '[' :: rest => do
    let (key, rest) ← readKey rest
    let ((), rest) ← readChar ']' rest
    let ((), rest) ← readChar ']' rest
    some (.element key, rest)
  | '[' :: rest => do
    let (key, rest) ← readKey rest
    let ((), rest) ← readChar ']' rest
    some (.header key, rest)
  | text => (readPair (readValue greatestDepth) text).map fun ((key, value), rest) =>
    (.pair key value, rest)

/-- Reads at most so many statements, which have to be all of a text. -/
def readStatements : (most : Nat) → List Char → Option (List Statement)
  | 0, _ => none
  | most + 1, text => do
    match ← skipVoid false text with
    | [] => some []
    | text =>
      let (statement, rest) ← readStatement text
      let rest ← endLine rest
      (readStatements most rest).map (statement :: ·)

/-- A document as far as it has been read, with the key of the last header. -/
structure Draft where
  current : List String
  entries : Entries

/-- The document with one more statement, if it goes together with those before it. -/
def Draft.add (draft : Draft) : Statement → Option Draft
  | .header key => (openTable key draft.entries).map fun entries => ⟨key, entries⟩
  | .element key => (openElement key draft.entries).map fun entries => ⟨key, entries⟩
  | .pair key value =>
    (alter false (define key value) draft.current .header draft.entries).map fun entries =>
      { draft with entries := entries }

/-- A text with single line feeds for its line ends. -/
def plainLineEnds : List Char → List Char
  | [] => []
  | '\r' :: '\n' :: rest => '\n' :: plainLineEnds rest
  | char :: rest => char :: plainLineEnds rest

/-- A text without the mark that some programs put at the front of a file. -/
def dropMark : List Char → List Char
  | '\ufeff' :: rest => rest
  | text => text

/-- Reads a document. -/
def read (text : List Char) : Option Entries := do
  let text := plainLineEnds (dropMark text)
  let statements ← readStatements (text.length + 1) text
  let draft ← statements.foldlM Draft.add ⟨[], []⟩
  some draft.entries

end StubResolver.Toml
