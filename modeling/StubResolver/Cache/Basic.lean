/-
This file fixes what a cache of records is, and what can be done to it without knowing the time:
looking at its entries, changing its limits, and dropping what it holds. One cache holds records of
one class.
-/

import StubResolver.Cache.Metrics
import StubResolver.Cache.Shelf
import StubResolver.RecordClass

namespace StubResolver

/-- The limits of a cache. -/
structure CacheLimits where
  /-- How many names there is room for; zero means room for all. -/
  capacity : Nat
  /-- The longest that a set is kept. Without it every set is kept as long as its lifetime says,
  and with zero no set is kept. -/
  longestPositive : Option UInt32
  /-- The longest that an absence is kept. -/
  longestNegative : UInt32
deriving DecidableEq

/-- A cache of the records of one class. -/
structure Cache where
  recordClass : RecordClass
  shelf : Cache.Shelf
  limits : CacheLimits
  metrics : Cache.Metrics
deriving DecidableEq

namespace Cache

/-- A cache that holds nothing yet. -/
def new (recordClass : RecordClass) (limits : CacheLimits) : Cache :=
  ⟨recordClass, [], limits, Metrics.zero⟩

/-! ### Looking -/

/-- The entry of a name under a key, expired or not. -/
def entryAt? (cache : Cache) (name : Name) (key : EntryKey) : Option Entry :=
  cache.shelf.entryAt? name key

/-- The number of names. -/
def size (cache : Cache) : Nat := cache.shelf.length

/-- The number of entries of all names. -/
def entryCount (cache : Cache) : Nat := cache.shelf.entryCount

/-! ### Changing limits -/

/-- The cache with room for another number of names. Names that no longer fit go, those used
longest ago first. -/
def setCapacity (cache : Cache) (capacity : Nat) : Cache :=
  let shelf := cache.shelf.fit capacity
  let dropped := cache.shelf.length - shelf.length
  { cache with
    shelf := shelf
    limits := { cache.limits with capacity := capacity }
    metrics := { cache.metrics with
      capacityEvictions := cache.metrics.capacityEvictions + dropped } }

/-- The cache with another bound on the lifetime of sets that are added from now on. -/
def setLongestPositive (cache : Cache) (longest : Option UInt32) : Cache :=
  { cache with limits := { cache.limits with longestPositive := longest } }

/-- The cache with another bound on the lifetime of absences that are added from now on. -/
def setLongestNegative (cache : Cache) (longest : UInt32) : Cache :=
  { cache with limits := { cache.limits with longestNegative := longest } }

/-! ### Dropping -/

/-- The cache without anything about a name, which is taken as absolute. -/
def flushName (cache : Cache) (name : Name) : Cache :=
  { cache with shelf := cache.shelf.eraseName name.toAbsolute }

/-- The cache without the entry of a name under a key. The name is taken as absolute. -/
def flushEntry (cache : Cache) (name : Name) (key : EntryKey) : Cache :=
  { cache with shelf := cache.shelf.eraseEntry name.toAbsolute key }

/-- The cache without anything in it. Its counters go on. -/
def clear (cache : Cache) : Cache := { cache with shelf := [] }

end Cache

end StubResolver
