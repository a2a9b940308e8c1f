/-
This file drops expired entries that no lookup has met. A sweep takes down the names of the cache
and goes through them in batches, so that others can use the cache in between; each batch looks at
its names as they are when its turn comes.
-/

import StubResolver.Cache.Basic

namespace StubResolver.Cache

/-- The number of names in a batch. -/
def batchSize : Nat := 256

/-- The names of a cache, the latest used first. -/
def names (cache : Cache) : List Name := cache.shelf.map Slot.owner

/-- The cache without the expired entries of one name, and how many there were. -/
def sweepName (cache : Cache) (now : Nat) (name : Name) : Nat × Cache :=
  match cache.shelf.slot? name with
  | some slot =>
    (slot.entries.length - (slot.entries.live now).length,
      { cache with shelf := cache.shelf.reshape name fun entries => entries.live now })
  | none => (0, cache)

/-- The cache without the expired entries of some names, and how many there were. -/
def sweepNames (cache : Cache) (now : Nat) : List Name → Nat × Cache
  | [] => (0, cache)
  | name :: rest =>
    let (first, swept) := cache.sweepName now name
    let (others, last) := swept.sweepNames now rest
    (first + others, last)

/-- Names in batches. -/
def batches (names : List Name) : List (List Name) :=
  if names.isEmpty then
    []
  else
    names.take batchSize :: batches (names.drop batchSize)
termination_by names.length
decreasing_by
  rename_i filled
  have positive : 0 < names.length := by
    cases names with
    | nil => exact absurd rfl filled
    | cons => exact Nat.succ_pos _
  simp only [List.length_drop, batchSize]
  omega

/-- Sweeps batches one after the other. -/
def sweepBatches (cache : Cache) (now : Nat) : List (List Name) → Nat × Cache
  | [] => (0, cache)
  | batch :: rest =>
    let (first, swept) := cache.sweepNames now batch
    let (others, last) := swept.sweepBatches now rest
    (first + others, last)

/-- What a sweep reports: how many entries it dropped, how many names it went through, and how many
names are left. -/
structure SweepReport where
  removed : Nat
  scanned : Nat
  size : Nat
deriving DecidableEq

/-- The cache with a sweep entered into its counters. -/
def countSweep (cache : Cache) (removed : Nat) : Cache :=
  { cache with metrics := { cache.metrics with swept := cache.metrics.swept + removed } }

/-- Sweeps the whole cache. -/
def sweep (cache : Cache) (now : Nat) : SweepReport × Cache :=
  let names := cache.names
  let (removed, swept) := cache.sweepBatches now (batches names)
  (⟨removed, names.length, swept.size⟩, swept.countSweep removed)

end StubResolver.Cache
