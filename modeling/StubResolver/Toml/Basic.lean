/-
This file fixes what a TOML document is: a table of values under keys, where values may be tables
again. It also says how a document grows line by line, since a document may come back to a table
that it has left. What may be added to a table depends on how the table came about: a table in
braces is complete, a table under a header is defined once, and a table that only dotted keys have
made is completed by dotted keys.
-/

namespace StubResolver.Toml

/-! ### Values -/

/-- How a table came about. -/
inductive Origin where
  /-- In braces, all at once. -/
  | braces
  /-- Under a header of its own. -/
  | header
  /-- On the way to the table of a longer header. -/
  | passed
  /-- On the way of a dotted key. -/
  | dotted
deriving DecidableEq

/-- A value. Of fractions and moments it is only kept that they are such. -/
inductive Value where
  | text (value : String)
  | whole (value : Int)
  | fraction
  | truth (value : Bool)
  /-- A date, a time, or both. -/
  | moment
  | list (items : List Value)
  | table (origin : Origin) (entries : List (String × Value))
  /-- Tables that each have a header of their own, with the same key. -/
  | series (elements : List (List (String × Value)))

/-- The values of a table under their keys. -/
abbrev Entries := List (String × Value)

/-! ### Growing -/

/-- The entries with another value under a key. -/
def setEntry (entries : Entries) (key : String) (value : Value) : Entries :=
  entries.filter (fun entry => entry.1 ≠ key) ++ [(key, value)]

/-- Whether a path may go on into a table that came about in a given way. -/
def mayPass (byDots : Bool) (origin : Origin) : Bool :=
  match origin with
  | .braces => false
  | .header => !byDots
  | .passed | .dotted => true

/-- The entries with a change made to the table at the end of a path. Tables that are missing on
the way are made, and of tables in a series the last one is meant. -/
def alter (byDots : Bool) (change : Origin → Entries → Option Entries) :
    (path : List String) → Origin → Entries → Option Entries
  | [], origin, entries => change origin entries
  | key :: rest, _, entries =>
    match entries.lookup key with
    | none =>
      let made := if byDots then Origin.dotted else .passed
      (alter byDots change rest made []).map fun grown =>
        setEntry entries key (.table made grown)
    | some (.table origin inner) =>
      if mayPass byDots origin then
        (alter byDots change rest origin inner).map fun grown =>
          setEntry entries key (.table origin grown)
      else
        none
    | some (.series elements) =>
      match elements.getLast? with
      | some last =>
        (alter byDots change rest .header last).map fun grown =>
          setEntry entries key (.series (elements.dropLast ++ [grown]))
      | none => none
    | some _ => none

/-- The path and the last key of a dotted key. -/
def splitLast : List String → Option (List String × String)
  | [] => none
  | [key] => some ([], key)
  | key :: rest => (splitLast rest).map fun (path, last) => (key :: path, last)

/-- The table with a value under a dotted key, which must be new. Dots lead only into tables that
dots have made. -/
def define (keys : List String) (value : Value) (origin : Origin) (entries : Entries) :
    Option Entries := do
  let (path, key) ← splitLast keys
  let insert (reached : Origin) (inner : Entries) : Option Entries :=
    if path.isEmpty == decide (reached = .dotted) then none
    else if (inner.lookup key).isSome then none
    else some (inner ++ [(key, value)])
  alter (!path.isEmpty) insert path origin entries

/-- The document with a table under a header. A table that longer headers have passed is
completed. -/
def openTable (keys : List String) (document : Entries) : Option Entries := do
  let (path, key) ← splitLast keys
  let insert (_ : Origin) (inner : Entries) : Option Entries :=
    match inner.lookup key with
    | none => some (inner ++ [(key, .table .header [])])
    | some (.table .passed grown) => some (setEntry inner key (.table .header grown))
    | some _ => none
  alter false insert path .header document

/-- The document with one more table in a series. -/
def openElement (keys : List String) (document : Entries) : Option Entries := do
  let (path, key) ← splitLast keys
  let insert (_ : Origin) (inner : Entries) : Option Entries :=
    match inner.lookup key with
    | none => some (inner ++ [(key, .series [[]])])
    | some (.series elements) => some (setEntry inner key (.series (elements ++ [[]])))
    | some _ => none
  alter false insert path .header document

end StubResolver.Toml
