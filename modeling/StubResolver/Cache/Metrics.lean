/-
This file counts what happens to a cache: lookups that found something and lookups that did not,
entries that were installed, and entries that went because they had expired, on the way or in a
sweep, as well as names that had to make room.
-/

import StubResolver.Text.Fixed

namespace StubResolver.Cache

/-- The counters of a cache. -/
structure Metrics where
  hits : Nat
  misses : Nat
  insertions : Nat
  /-- Expired entries that were met and dropped by other operations. -/
  lazyDeletions : Nat
  /-- Expired entries that were dropped by sweeps. -/
  swept : Nat
  /-- Names that had to make room for others. -/
  capacityEvictions : Nat
deriving DecidableEq, Repr

namespace Metrics

/-- The counters of a new cache. -/
def zero : Metrics := ⟨0, 0, 0, 0, 0, 0⟩

/-- The share of lookups that found something, in percent, out of the numbers of both kinds. -/
def hitRate (hits misses : UInt64) : Float :=
  let total := hits.toFloat + misses.toFloat
  if 0 < total then hits.toFloat / total * 100 else 0

/-- The share of lookups that found something, in percent, as text. -/
def hitRateText (hits misses : UInt64) : String := fixedText 6 (hitRate hits misses)

end Metrics

end StubResolver.Cache
