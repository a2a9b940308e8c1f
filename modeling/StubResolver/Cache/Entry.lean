/-
This file fixes what a cache keeps about a name: for one type a set of records or the fact that
there are none, and for the name itself the fact that it does not exist. Each entry has the
credibility of its source and the second at which it expires. The entries of one name are few, and
are kept as a list with one entry for each key; their order means nothing.
-/

import StubResolver.Credibility
import StubResolver.RRset

namespace StubResolver.Cache

/-! ### Keys -/

/-- The place of an entry among the entries of a name. -/
inductive EntryKey where
  /-- The fact that the name does not exist. -/
  | name
  /-- What is known about one type. -/
  | type (type : RecordType)
deriving DecidableEq

/-- A key as text. -/
def EntryKey.text : EntryKey → String
  | name => "NXDOMAIN"
  | type recordType => recordType.text

/-! ### Entries -/

/-- What an entry says. -/
inductive EntryData where
  /-- These are the records. -/
  | positive (set : RRset)
  /-- There is nothing. -/
  | negative
deriving DecidableEq

/-- What is known under one key of a name. -/
structure Entry where
  data : EntryData
  credibility : Credibility
  /-- The second from which on the entry counts for nothing. -/
  expiresAt : Nat
deriving DecidableEq

/-- The last second that the clock can show. Expiry beyond it is moved back to it. -/
def lastSecond : Nat := UInt64.size - 1

/-- The second at which a lifetime that starts now is over. -/
def expiryAfter (now : Nat) (lifetime : UInt32) : Nat := min (now + lifetime.toNat) lastSecond

namespace Entry

/-- The entry of a set whose lifetime `longest` may cut short. -/
def ofSet (set : RRset) (credibility : Credibility) (now : Nat) (longest : Option UInt32) :
    Entry :=
  let lifetime := match longest with
    | some bound => min set.ttl bound
    | none => set.ttl
  ⟨.positive set, credibility, expiryAfter now lifetime⟩

/-- The entry of an absence that lasts for `lifetime`, which `longest` may cut short. -/
def ofAbsence (lifetime : UInt32) (credibility : Credibility) (now : Nat) (longest : UInt32) :
    Entry :=
  ⟨.negative, credibility, expiryAfter now (min lifetime longest)⟩

/-- Whether an entry counts for nothing any more. -/
def isExpired (entry : Entry) (now : Nat) : Bool := entry.expiresAt ≤ now

/-- The set of an entry that has one. -/
def set? (entry : Entry) : Option RRset :=
  match entry.data with
  | .positive set => some set
  | .negative => none

end Entry

/-! ### The entries of a name -/

/-- The entries of one name. -/
abbrev Entries := List (EntryKey × Entry)

namespace Entries

/-- The entry under a key. -/
def get? (entries : Entries) (key : EntryKey) : Option Entry := entries.lookup key

/-- The entries without the one under a key. -/
def erase (entries : Entries) (key : EntryKey) : Entries :=
  entries.filter fun slot => slot.1 ≠ key

/-- The entries with another one under a key. -/
def put (entries : Entries) (key : EntryKey) (entry : Entry) : Entries :=
  (key, entry) :: entries.erase key

/-- The entries that have not expired. -/
def live (entries : Entries) (now : Nat) : Entries :=
  entries.filter fun slot => !slot.2.isExpired now

/-- The entry under a key, if it is credible enough. -/
def usable? (entries : Entries) (least : Credibility) (key : EntryKey) : Option Entry :=
  (entries.get? key).filter fun entry => least ≤ entry.credibility

/-- The set under a type, if there is one that is credible enough. -/
def usableSet? (entries : Entries) (least : Credibility) (type : RecordType) : Option RRset :=
  (entries.usable? least (.type type)).bind Entry.set?

/-- All sets that are credible enough, ordered by the code of their type. -/
def usableSets (entries : Entries) (least : Credibility) : List RRset :=
  (entries.filterMap fun slot => if least ≤ slot.2.credibility then slot.2.set? else none).mergeSort
    fun first second => first.type.code ≤ second.type.code

end Entries

end StubResolver.Cache
