/-
This file keeps one cache for each class of records, together with the jobs that sweep them. A
cache comes into being when its class is first asked for, and all of them are made from the same
settings.
-/

import StubResolver.Cache.Ingest
import StubResolver.Cache.Lookup
import StubResolver.Cache.Sweep
import StubResolver.Config.Basic
import StubResolver.Eviction

namespace StubResolver

/-! ### Caches that are swept -/

/-- A cache with the job that sweeps it, if one has been started. -/
structure SweptCache where
  cache : Cache
  job : Option EvictionJob
deriving DecidableEq

namespace SweptCache

/-- The cache with another interval between sweeps. The first interval starts the job, unless there
is nothing it could run in, which `canRun` says. Later ones only retune it. -/
def retune (swept : SweptCache) (canRun : Bool) (interval : Option Nat) : SweptCache :=
  match swept.job with
  | some job => { swept with job := some (job.setInterval interval) }
  | none =>
    if interval.isSome && canRun then
      { swept with job := some (EvictionJob.start interval) }
    else
      swept

/-- The cache with another interval between sweeps, given in minutes, if there is room for its
seconds. -/
def setInterval (swept : SweptCache) (canRun : Bool) (minutes : Int64) :
    Except Overflow SweptCache := do
  let interval ← sweepInterval minutes
  return swept.retune canRun (interval.map UInt64.toNat)

/-- The length of the interval between sweeps, in seconds. -/
def interval (swept : SweptCache) : Option Nat := swept.job.bind EvictionJob.interval

/-- A new cache of a class that nothing sweeps. -/
def unswept (recordClass : RecordClass) (settings : CacheConfig) : SweptCache :=
  ⟨Cache.new recordClass settings.limits, none⟩

/-- A new cache of a class, if there is room for the seconds of its interval. -/
def new (recordClass : RecordClass) (settings : CacheConfig) (canRun : Bool) :
    Except Overflow SweptCache :=
  (unswept recordClass settings).setInterval canRun settings.cleanupIntervalMinutes

/-- The cache after sweeping it a number of times. -/
def sweepTimes (swept : SweptCache) (now : Nat) : (times : Nat) → SweptCache
  | 0 => swept
  | times + 1 =>
    let once := swept.sweepTimes now times
    { once with cache := (once.cache.sweep now).2 }

/-- The cache after its job has had a number of seconds, at the end of which the clock shows
`now`. -/
def advance (swept : SweptCache) (now seconds : Nat) : SweptCache :=
  match swept.job with
  | none => swept
  | some job =>
    let (later, cycles) := job.advance seconds
    ({ swept with job := some later } : SweptCache).sweepTimes now cycles

end SweptCache

/-! ### One cache for each class -/

/-- The caches of all classes that have been asked for. -/
structure Registry where
  settings : CacheConfig
  caches : List SweptCache
deriving DecidableEq

namespace Registry

/-- A registry without caches. -/
def new (settings : CacheConfig) : Registry := ⟨settings, []⟩

/-- The cache of a class, if it has been asked for. -/
def get? (registry : Registry) (recordClass : RecordClass) : Option SweptCache :=
  registry.caches.find? fun swept => swept.cache.recordClass = recordClass

/-- The registry with a cache in the place of its class. -/
def put (registry : Registry) (swept : SweptCache) : Registry :=
  let others := registry.caches.filter fun other =>
    other.cache.recordClass ≠ swept.cache.recordClass
  { registry with caches := others ++ [swept] }

/-- The cache of a class, which is made if it is not there and can be made. -/
def getOrCreate (registry : Registry) (recordClass : RecordClass) :
    Except Overflow (SweptCache × Registry) :=
  match registry.get? recordClass with
  | some swept => .ok (swept, registry)
  | none => do
    let swept ← SweptCache.new recordClass registry.settings true
    return (swept, registry.put swept)

/-- The cache of a class as calls find it, which is made if it is not there. Who makes calls has
made sure that it can be made; in place of one that cannot, there is one that nothing sweeps. -/
def opened (registry : Registry) (recordClass : RecordClass) : SweptCache × Registry :=
  match registry.getOrCreate recordClass with
  | .ok opened => opened
  | .error _ => (.unswept recordClass registry.settings, registry)

/-- The classes that have a cache, by ascending code. -/
def classes (registry : Registry) : List RecordClass :=
  (registry.caches.map fun swept => swept.cache.recordClass).mergeSort
    fun first second => first.code ≤ second.code

/-- The registry after all jobs have had a number of seconds. -/
def advance (registry : Registry) (now seconds : Nat) : Registry :=
  { registry with caches := registry.caches.map fun swept => swept.advance now seconds }

end Registry

end StubResolver
