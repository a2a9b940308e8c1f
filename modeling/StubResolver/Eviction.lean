/-
This file is the timetable of sweeping. An eviction job waits for the length of its interval, runs
a cycle, and waits again; without an interval it waits for one to be set. Setting an interval,
even to what it was, starts the wait anew. The job ends when it is cancelled, which dropping its
handle also does, and when it finds at the end of a wait that the cache is gone.

The job does nothing of its own accord. Others leave it something to find, time passes, and when it
has a turn it looks whether anything has woken it. There may be several such things at once, and
then the order in which it looks at them decides.

Time passes in whole ticks, which are seconds where caches are swept. A cycle takes no time, and
whether it fails makes no difference to the timetable.
-/

import StubResolver.Cache.Sweep
import StubResolver.Error

namespace StubResolver

/-! ### Intervals -/

/-- A count that 64 bits have no room for. What it was to be used for is not done. -/
inductive Overflow where
  | product
deriving DecidableEq, Repr

/-- The wording of an overflow. -/
def Overflow.message : Overflow → String
  | product => "attempt to multiply with overflow"

/-- The seconds of some minutes, if there is room for their number. -/
def secondsOf (minutes : UInt64) : Except Overflow UInt64 :=
  if minutes.toNat * 60 < UInt64.size then .ok (minutes * 60) else .error .product

/-- The length of the interval between sweeps, in seconds, that a number of minutes stands for.
There is none for zero and for negative numbers. -/
def sweepInterval (minutes : Int64) : Except Overflow (Option UInt64) :=
  if 0 < minutes then (secondsOf minutes.toUInt64).map some else .ok none

/-! ### Jobs -/

/-- A job that sweeps a cache from time to time. -/
structure EvictionJob where
  /-- The length of the interval, in ticks, that was set last. -/
  interval : Option Nat
  /-- Whether the job has not looked at the interval since it was set. -/
  unseen : Bool
  /-- How many ticks the current wait has left. Without an interval it has no end. -/
  wait : Option Nat
  /-- Whether the job has been told to end. -/
  cancelled : Bool
  /-- Whether there is still a handle to set the interval with. -/
  hasHandle : Bool
  /-- Whether the job has ended. -/
  finished : Bool
  /-- Whether the cache is still there. -/
  cacheAlive : Bool
deriving DecidableEq, Repr

/-- What wakes a job. -/
inductive Wake where
  | cancelled
  | changed
  | closed
  | due
deriving DecidableEq, Repr

/-- What a cycle comes to. -/
abbrev CycleResult := Except Error Cache.SweepReport

namespace EvictionJob

/-! ### What others do -/

/-- A job that has not had a turn yet. -/
def spawn (interval : Option Nat) : EvictionJob := ⟨interval, true, none, false, true, false, true⟩

/-- The job with another interval, which it is to look at. -/
def send (job : EvictionJob) (interval : Option Nat) : EvictionJob :=
  { job with interval := interval, unseen := true }

/-- The job after it was told to end. -/
def tellToEnd (job : EvictionJob) : EvictionJob := { job with cancelled := true }

/-- The job without its handle, which tells it to end. -/
def dropHandle (job : EvictionJob) : EvictionJob :=
  { job with cancelled := true, hasHandle := false }

/-- The job after the cache has gone, which it does not notice yet. -/
def dropCache (job : EvictionJob) : EvictionJob := { job with cacheAlive := false }

/-- The job one tick later. -/
def pass (job : EvictionJob) : EvictionJob := { job with wait := job.wait.map (· - 1) }

/-! ### Turns -/

/-- What wakes a job, if anything does. -/
def wake? (job : EvictionJob) : Option Wake :=
  if job.cancelled then some .cancelled
  else if job.unseen then some .changed
  else if !job.hasHandle then some .closed
  else if job.wait = some 0 then some .due
  else none

/-- The job after it has ended. -/
def finish (job : EvictionJob) : EvictionJob := { job with finished := true }

/-- The job at the start of a wait, for which it looks at its interval. -/
def look (job : EvictionJob) : EvictionJob :=
  { job with unseen := false, wait := job.interval }

/-- The job after a turn, and whether it has run a cycle. The result is what the cycle comes to if
there is one. -/
def turn (job : EvictionJob) (result : CycleResult) : EvictionJob × Bool :=
  if job.finished then
    (job, false)
  else
    match job.wake? with
    | none => (job, false)
    | some .cancelled | some .closed => (job.finish, false)
    | some .changed => (job.look, false)
    | some .due =>
      if job.cacheAlive then
        match result with
        | .ok _ => (job.look, true)
        | .error _ => (job.look, true)
      else
        (job.finish, false)

/-! ### Jobs that have a turn whenever something happens -/

/-- A cycle that has nothing to report. -/
def uneventful : CycleResult := .ok ⟨0, 0, 0⟩

/-- A job that starts now. -/
def start (interval : Option Nat) : EvictionJob := ((spawn interval).turn uneventful).1

/-- The job with another interval, whose wait starts anew. -/
def setInterval (job : EvictionJob) (interval : Option Nat) : EvictionJob :=
  ((job.send interval).turn uneventful).1

/-- The job after it was told to end and has done so. -/
def cancel (job : EvictionJob) : EvictionJob := (job.tellToEnd.turn uneventful).1

/-- The job one tick later, and whether a cycle is run. -/
def tick (job : EvictionJob) : EvictionJob × Bool := job.pass.turn uneventful

/-- The job a number of ticks later, and how many cycles were run. -/
def advance (job : EvictionJob) : (ticks : Nat) → EvictionJob × Nat
  | 0 => (job, 0)
  | ticks + 1 =>
    let (earlier, cycles) := job.advance ticks
    let (later, due) := earlier.tick
    (later, if due then cycles + 1 else cycles)

end EvictionJob

end StubResolver
