/-
This file proves that the eviction job keeps its timetable. Others set its interval, tell it to end,
drop its handle or drop the cache, in whatever order, several of these between two of its turns or
none. Time passes tick by tick, and after each tick the job has a turn, and maybe more of them.

The wait of the job is measured out anew whenever it looks at its interval, and that is when it was
set and when a cycle has been run. So a cycle is due some whole number of periods after the last
setting, never earlier and never later, and what the cycles before it came to has no part in that.
-/

import StubResolver.Eviction
import Mathlib.Data.List.Induction

namespace StubResolver.EvictionJob

/-! ### The course of things -/

/-- Something that others do to a job. -/
inductive Happening where
  | set (interval : Option Nat)
  | cancel
  | dropHandle
  | dropCache

/-- The job after something has been done to it. -/
def Happening.apply : Happening → EvictionJob → EvictionJob
  | set interval, job => job.send interval
  | cancel, job => job.tellToEnd
  | dropHandle, job => job.dropHandle
  | dropCache, job => job.dropCache

/-- The job after several such things. -/
def applyAll (happenings : List Happening) (job : EvictionJob) : EvictionJob :=
  happenings.foldl (fun job happening => happening.apply job) job

/-- A turn of a job with what comes before it: whether a tick has passed since its last turn, and
what others have done since then. The result is what a cycle comes to that is run in the turn. -/
structure Moment where
  ticked : Bool
  happenings : List Happening
  result : CycleResult

/-- The job as a turn finds it. -/
def Moment.found (moment : Moment) (job : EvictionJob) : EvictionJob :=
  applyAll moment.happenings (if moment.ticked then job.pass else job)

/-- The job after a turn, and whether it has run a cycle. -/
def Moment.take (moment : Moment) (job : EvictionJob) : EvictionJob × Bool :=
  (moment.found job).turn moment.result

/-- The job after turns one after the other. -/
def run (moments : List Moment) (job : EvictionJob) : EvictionJob :=
  moments.foldl (fun job moment => (moment.take job).1) job

/-- A job at the end of its first turn, before which others may already have done something. -/
def begin (initial : Option Nat) (opening : List Happening) : EvictionJob :=
  ((applyAll opening (spawn initial)).turn uneventful).1

/-! ### What can be heard of it -/

/-- How many ticks have passed. -/
def time (moments : List Moment) : Nat := moments.countP Moment.ticked

/-- What has happened since a time, and when. -/
def heardSince (now : Nat) : List Moment → List (Nat × Happening)
  | [] => []
  | moment :: rest =>
    let next := now + moment.ticked.toNat
    moment.happenings.map (next, ·) ++ heardSince next rest

/-- All that has happened, and when. -/
def heard (opening : List Happening) (moments : List Moment) : List (Nat × Happening) :=
  opening.map (0, ·) ++ heardSince 0 moments

/-- What was set last, and when. The start counts as a setting. -/
def lastSetting (initial : Option Nat) (events : List (Nat × Happening)) : Nat × Option Nat :=
  events.foldl
    (fun last event =>
      match event.2 with
      | .set interval => (event.1, interval)
      | _ => last)
    (0, initial)

/-- A cycle is due at a time that is some whole number of periods after the last setting. -/
def Due (last : Nat × Option Nat) (now : Nat) : Prop :=
  ∃ period count, last.2 = some period ∧ 1 ≤ count ∧ now = last.1 + count * period

/-- The job is told to end by being cancelled, and by losing its handle. -/
def Happening.TellsToEnd : Happening → Prop
  | cancel | dropHandle => True
  | set _ | dropCache => False

/-- The job has been told to end, or has lost the cache. -/
def Over (events : List (Nat × Happening)) : Prop :=
  ∃ event ∈ events, event.2.TellsToEnd ∨ event.2 = .dropCache

/-- There are no periods of no length. -/
structure PositivePeriods (initial : Option Nat) (events : List (Nat × Happening)) : Prop where
  initially : initial ≠ some 0
  later : ∀ event ∈ events, event.2 ≠ .set (some 0)

theorem time_append (first second : List Moment) :
    time (first ++ second) = time first + time second := List.countP_append

theorem time_singleton (moment : Moment) : time [moment] = moment.ticked.toNat := by
  unfold time
  rw [List.countP_singleton]
  cases moment.ticked <;> rfl

theorem time_snoc (moments : List Moment) (moment : Moment) :
    time (moments ++ [moment]) = time moments + moment.ticked.toNat := by
  rw [time_append, time_singleton]

theorem heardSince_append (now : Nat) (first second : List Moment) :
    heardSince now (first ++ second) =
      heardSince now first ++ heardSince (now + time first) second := by
  induction first generalizing now with
  | nil => rfl
  | cons moment rest inductionHypothesis =>
    have split : time (moment :: rest) = moment.ticked.toNat + time rest := by
      rw [← List.singleton_append, time_append, time_singleton]
    rw [List.cons_append, heardSince, heardSince, inductionHypothesis, split, List.append_assoc,
      Nat.add_assoc]

theorem heard_append (opening : List Happening) (first second : List Moment) :
    heard opening (first ++ second) =
      heard opening first ++ heardSince (time first) second := by
  unfold heard
  rw [heardSince_append, Nat.zero_add, List.append_assoc]

theorem heard_snoc (opening : List Happening) (moments : List Moment) (moment : Moment) :
    heard opening (moments ++ [moment]) = heard opening moments ++
      moment.happenings.map (time (moments ++ [moment]), ·) := by
  rw [heard_append, time_snoc]
  simp only [heardSince, List.append_nil]

theorem lastSetting_snoc (initial : Option Nat) (events : List (Nat × Happening)) (now : Nat)
    (happening : Happening) :
    lastSetting initial (events ++ [(now, happening)]) =
      match happening with
      | .set interval => (now, interval)
      | _ => lastSetting initial events := by
  unfold lastSetting
  rw [List.foldl_append]
  rfl

theorem run_snoc (moments : List Moment) (moment : Moment) (job : EvictionJob) :
    run (moments ++ [moment]) job = (moment.take (run moments job)).1 := by
  unfold run
  rw [List.foldl_append]
  rfl

/-- What caches do with their jobs are such courses. -/
theorem start_eq (initial : Option Nat) : start initial = begin initial [] := rfl

theorem setInterval_eq (job : EvictionJob) (interval : Option Nat) :
    job.setInterval interval = run [⟨false, [.set interval], uneventful⟩] job := rfl

theorem cancel_eq (job : EvictionJob) :
    job.cancel = run [⟨false, [.cancel], uneventful⟩] job := rfl

theorem advance_fst (job : EvictionJob) (ticks : Nat) :
    (job.advance ticks).1 = run (List.replicate ticks ⟨true, [], uneventful⟩) job := by
  induction ticks with
  | zero => rfl
  | succ ticks inductionHypothesis =>
    rw [List.replicate_succ', run_snoc, ← inductionHypothesis]
    rfl

/-- The period that was set last has some length. -/
theorem PositivePeriods.last {initial : Option Nat} {events : List (Nat × Happening)}
    (positive : PositivePeriods initial events) : (lastSetting initial events).2 ≠ some 0 := by
  induction events using List.reverseRecOn with
  | nil => exact positive.initially
  | append_singleton events event inductionHypothesis =>
    obtain ⟨now, happening⟩ := event
    have before := inductionHypothesis ⟨positive.initially, fun other member =>
      positive.later other (List.mem_append_left _ member)⟩
    have here := positive.later (now, happening) (List.mem_append_right _ List.mem_cons_self)
    rw [lastSetting_snoc]
    cases happening with
    | set interval => exact fun isZero => here (congrArg Happening.set isZero)
    | _ => exact before

theorem PositivePeriods.of_append {initial : Option Nat} {events later : List (Nat × Happening)}
    (positive : PositivePeriods initial (events ++ later)) : PositivePeriods initial events :=
  ⟨positive.initially, fun event member => positive.later event (List.mem_append_left _ member)⟩

/-! ### One turn -/

/-- What a turn can be, and what it leaves. -/
inductive Turns (job : EvictionJob) : EvictionJob × Bool → Prop where
  | ended (finished : job.finished = true) : Turns job (job, false)
  | ends (running : job.finished = false) (cancelled : job.cancelled = true) :
      Turns job (job.finish, false)
  | hears (running : job.finished = false) (notCancelled : job.cancelled = false)
      (unseen : job.unseen = true) : Turns job (job.look, false)
  | sweeps (running : job.finished = false) (notCancelled : job.cancelled = false)
      (seen : job.unseen = false) (due : job.wait = some 0) (alive : job.cacheAlive = true) :
      Turns job (job.look, true)
  | misses (running : job.finished = false) (notCancelled : job.cancelled = false)
      (seen : job.unseen = false) (due : job.wait = some 0) (gone : job.cacheAlive = false) :
      Turns job (job.finish, false)
  | waits (running : job.finished = false) (notCancelled : job.cancelled = false)
      (seen : job.unseen = false) (early : job.wait ≠ some 0) : Turns job (job, false)

/-- A job without a handle has been told to end, so that it does not have to find out. Whether a
cycle fails makes no difference. -/
theorem turn_turns {job : EvictionJob} (handle : job.hasHandle = false → job.cancelled = true)
    (result : CycleResult) : Turns job (job.turn result) := by
  unfold turn wake?
  cases running : job.finished with
  | true => exact .ended running
  | false =>
    cases cancelled : job.cancelled with
    | true => exact .ends running cancelled
    | false =>
      cases unseen : job.unseen with
      | true => exact .hears running cancelled unseen
      | false =>
        cases held : job.hasHandle with
        | false => exact absurd ((handle held).symm.trans cancelled) (by decide)
        | true =>
          by_cases due : job.wait = some 0
          · cases alive : job.cacheAlive with
            | true =>
              rw [due]
              cases result with
              | ok report => exact .sweeps running cancelled unseen due alive
              | error error => exact .sweeps running cancelled unseen due alive
            | false =>
              rw [due]
              exact .misses running cancelled unseen due alive
          · simp only [Bool.false_eq_true, if_false, Bool.not_true, if_neg due]
            exact .waits running cancelled unseen due

/-! ### What a turn finds -/

/-- How a wait is measured out: without a period it has no end, and with one it ends when the next
cycle is due. Directly after a tick it may have ended. -/
def OnTime (ticked : Bool) (last : Nat × Option Nat) (now : Nat) (wait : Option Nat) : Prop :=
  match last.2 with
  | none => wait = none
  | some period => ∃ left count, wait = some left ∧ 1 ≤ count ∧
      now + left = last.1 + count * period ∧
      if ticked then left < period else 0 < left ∧ left ≤ period

/-- A wait has ended exactly if a tick has passed and a cycle is due. -/
theorem OnTime.ended_iff {ticked : Bool} {last : Nat × Option Nat} {now : Nat} {wait : Option Nat}
    (onTime : OnTime ticked last now wait) :
    wait = some 0 ↔ ticked = true ∧ Due last now := by
  obtain ⟨since, period?⟩ := last
  unfold OnTime at onTime
  cases period? with
  | none =>
    dsimp only at onTime
    subst onTime
    constructor
    · intro ended
      cases ended
    · rintro ⟨_, _, _, isPeriod, _⟩
      cases isPeriod
  | some period =>
    obtain ⟨left, count, rfl, counted, ends, bound⟩ := onTime
    dsimp only at ends
    constructor
    · intro ended
      cases ended
      cases ticked with
      | false => exact absurd bound.1 (Nat.lt_irrefl 0)
      | true => exact ⟨rfl, period, count, rfl, counted, ends⟩
    · rintro ⟨rfl, _, other, isPeriod, _, due⟩
      cases isPeriod
      dsimp only at due
      have short : left < period := bound
      -- two multiples of the period that are less than a period apart are the same
      have nothing : left = 0 := by
        rcases Nat.lt_or_ge other count with fewer | notFewer
        · have apart := Nat.mul_le_mul_right period (Nat.succ_le_of_lt fewer)
          rw [Nat.succ_mul] at apart
          omega
        · have apart := Nat.mul_le_mul_right period notFewer
          omega
      rw [nothing]

/-- How a job stands at some time, when a number of things have happened. -/
structure Stands (initial : Option Nat) (events : List (Nat × Happening)) (ticked : Bool)
    (now : Nat) (job : EvictionJob) : Prop where
  interval : job.interval = (lastSetting initial events).2
  fresh : job.finished = false → job.unseen = true → (lastSetting initial events).1 = now
  waits : job.finished = false → job.unseen = false →
    OnTime ticked (lastSetting initial events) now job.wait
  cancelled : job.cancelled = true ↔ ∃ event ∈ events, event.2.TellsToEnd
  handle : job.hasHandle = false → job.cancelled = true
  cache : job.cacheAlive = false ↔ ∃ event ∈ events, event.2 = .dropCache

/-- A job that has not ended has nothing more to find at the end of a turn. -/
structure Rests (job : EvictionJob) : Prop where
  seen : job.finished = false → job.unseen = false
  uncancelled : job.finished = false → job.cancelled = false

section

variable {initial : Option Nat} {events : List (Nat × Happening)} {ticked : Bool} {now : Nat}
  {job : EvictionJob}

/-- A wait starts now that is as long as the interval. -/
theorem OnTime.look {last : Nat × Option Nat} (positive : last.2 ≠ some 0)
    (origin : now = last.1 ∨ Due last now) : OnTime false last now last.2 := by
  obtain ⟨since, period?⟩ := last
  unfold OnTime
  cases period? with
  | none => rfl
  | some period =>
    have lengthy : 0 < period := Nat.pos_of_ne_zero fun isZero => positive (congrArg some isZero)
    dsimp only at origin ⊢
    rcases origin with same | ⟨_, count, isPeriod, _, due⟩
    · exact ⟨period, 1, rfl, Nat.le_refl 1, by omega, lengthy, Nat.le_refl _⟩
    · cases isPeriod
      refine ⟨period, count + 1, rfl, Nat.le_add_left 1 count, ?_, lengthy, Nat.le_refl _⟩
      rw [Nat.succ_mul]
      dsimp only at due
      omega

/-- A tick makes a wait shorter. -/
theorem OnTime.pass {last : Nat × Option Nat} {wait : Option Nat}
    (onTime : OnTime false last now wait) : OnTime true last (now + 1) (wait.map (· - 1)) := by
  obtain ⟨since, period?⟩ := last
  unfold OnTime at onTime ⊢
  cases period? with
  | none =>
    dsimp only at onTime ⊢
    rw [onTime]
    rfl
  | some period =>
    obtain ⟨left, count, rfl, counted, ends, positive, short⟩ := onTime
    refine ⟨left - 1, count, rfl, counted, ?_, ?_⟩
    · dsimp only at ends ⊢
      omega
    · show left - 1 < period
      omega

/-- A wait that has not ended goes on. -/
theorem OnTime.rest {last : Nat × Option Nat} {wait : Option Nat}
    (onTime : OnTime ticked last now wait) (early : wait ≠ some 0) :
    OnTime false last now wait := by
  obtain ⟨since, period?⟩ := last
  unfold OnTime at onTime ⊢
  cases period? with
  | none => exact onTime
  | some period =>
    obtain ⟨left, count, rfl, counted, ends, bound⟩ := onTime
    have positive : 0 < left := Nat.pos_of_ne_zero fun isZero => early (congrArg some isZero)
    refine ⟨left, count, rfl, counted, ends, positive, ?_⟩
    cases ticked with
    | false => exact bound.2
    | true => exact Nat.le_of_lt bound

/-- One more event is one more that may have been of some kind. -/
theorem exists_snoc (holds : Happening → Prop) (happening : Happening) :
    (∃ event ∈ events ++ [(now, happening)], holds event.2) ↔
      (∃ event ∈ events, holds event.2) ∨ holds happening := by
  simp only [List.mem_append, List.mem_singleton, or_and_right, exists_or, exists_eq_left]

/-- A job has been told to end before, or now. -/
theorem Happening.cancelled_apply (happening : Happening) (job : EvictionJob) :
    (happening.apply job).cancelled = true ↔ job.cancelled = true ∨ happening.TellsToEnd := by
  cases happening with
  | set | dropCache => exact (or_iff_left id).symm
  | cancel | dropHandle => exact iff_of_true rfl (Or.inr trivial)

/-- The cache has gone before, or goes now. -/
theorem Happening.cacheAlive_apply (happening : Happening) (job : EvictionJob) :
    (happening.apply job).cacheAlive = false ↔
      job.cacheAlive = false ∨ happening = .dropCache := by
  cases happening with
  | dropCache => exact iff_of_true rfl (Or.inr rfl)
  | _ => exact (or_iff_left Happening.noConfusion).symm

/-- A job that others do something to. -/
theorem Stands.happen (stands : Stands initial events ticked now job) (happening : Happening) :
    Stands initial (events ++ [(now, happening)]) ticked now (happening.apply job) := by
  have told := happening.cancelled_apply job
  have gone := happening.cacheAlive_apply job
  have last := lastSetting_snoc initial events now happening
  rw [stands.cancelled, ← exists_snoc Happening.TellsToEnd] at told
  rw [stands.cache, ← exists_snoc (· = Happening.dropCache)] at gone
  -- only a setting starts the wait anew, and all else leaves it as it is
  cases happening with
  | set interval =>
    refine ⟨?_, fun _ _ => ?_, fun _ seen => Bool.noConfusion seen, told, stands.handle, gone⟩
    · rw [last]
      rfl
    · rw [last]
  | cancel | dropHandle =>
    refine ⟨?_, ?_, ?_, told, fun _ => rfl, gone⟩ <;> rw [last]
    exacts [stands.interval, stands.fresh, stands.waits]
  | dropCache =>
    refine ⟨?_, ?_, ?_, told, stands.handle, gone⟩ <;> rw [last]
    exacts [stands.interval, stands.fresh, stands.waits]

theorem Stands.happens (stands : Stands initial events ticked now job)
    (happenings : List Happening) :
    Stands initial (events ++ happenings.map (now, ·)) ticked now (applyAll happenings job) := by
  induction happenings generalizing events job with
  | nil =>
    rw [List.map_nil, List.append_nil]
    exact stands
  | cons happening rest inductionHypothesis =>
    rw [List.map_cons, List.append_cons]
    exact inductionHypothesis (stands.happen happening)

/-- A job that a tick passes by. -/
theorem Stands.pass (stands : Stands initial events false now job) (rests : Rests job) :
    Stands initial events true (now + 1) job.pass where
  interval := stands.interval
  fresh running unseen := absurd ((rests.seen running).symm.trans unseen) Bool.false_ne_true
  waits running seen := (stands.waits running seen).pass
  cancelled := stands.cancelled
  handle := stands.handle
  cache := stands.cache

/-- Nothing is due at the time of the last setting. -/
theorem not_due_of_fresh {last : Nat × Option Nat} (positive : last.2 ≠ some 0)
    (fresh : last.1 = now) : ¬ Due last now := by
  rintro ⟨period, count, isPeriod, counted, due⟩
  have notZero : period ≠ 0 := fun isZero => positive (isZero ▸ isPeriod)
  have later := Nat.mul_pos counted (Nat.pos_of_ne_zero notZero)
  omega

/-- A job in its turn finds that its wait has ended exactly if a tick has passed and a cycle is
due. -/
theorem Stands.ended_iff (stands : Stands initial events ticked now job)
    (positive : PositivePeriods initial events) (running : job.finished = false) :
    job.unseen = false ∧ job.wait = some 0 ↔
      ticked = true ∧ Due (lastSetting initial events) now := by
  cases unseen : job.unseen with
  | true =>
    have fresh := stands.fresh running unseen
    exact ⟨fun ended => Bool.noConfusion ended.1,
      fun due => absurd due.2 (not_due_of_fresh positive.last fresh)⟩
  | false =>
    rw [← (stands.waits running unseen).ended_iff]
    exact and_iff_right rfl

/-- A job that ends has no wait left to be right about. -/
theorem Stands.finishes (stands : Stands initial events ticked now job) :
    Stands initial events false now job.finish ∧ Rests job.finish :=
  ⟨⟨stands.interval, fun running => Bool.noConfusion running, fun running => Bool.noConfusion running,
    stands.cancelled, stands.handle, stands.cache⟩,
    fun running => Bool.noConfusion running, fun running => Bool.noConfusion running⟩

theorem finish_of_finished (finished : job.finished = true) : job.finish = job := by
  cases job
  cases finished
  rfl

/-- A job that looks at its interval starts a wait from which the next cycle can be told. -/
theorem Stands.looks (stands : Stands initial events ticked now job)
    (positive : PositivePeriods initial events) (notCancelled : job.cancelled = false)
    (origin : now = (lastSetting initial events).1 ∨ Due (lastSetting initial events) now) :
    Stands initial events false now job.look ∧ Rests job.look := by
  have onTime := OnTime.look positive.last origin
  rw [← stands.interval] at onTime
  exact ⟨⟨stands.interval, fun _ unseen => Bool.noConfusion unseen, fun _ _ => onTime,
    stands.cancelled, stands.handle, stands.cache⟩, fun _ => rfl, fun _ => notCancelled⟩

/-- How a job stands after a turn. -/
theorem Stands.turn (stands : Stands initial events ticked now job)
    (positive : PositivePeriods initial events) (result : CycleResult) :
    Stands initial events false now (job.turn result).1 ∧ Rests (job.turn result).1 := by
  have turns := turn_turns stands.handle result
  generalize job.turn result = turned at turns ⊢
  cases turns with
  | ended finished => exact finish_of_finished finished ▸ stands.finishes
  | ends | misses => exact stands.finishes
  | hears running notCancelled unseen =>
    exact stands.looks positive notCancelled (Or.inl (stands.fresh running unseen).symm)
  | sweeps running notCancelled seen due alive =>
    have isDue := ((stands.ended_iff positive running).mp ⟨seen, due⟩).2
    exact stands.looks positive notCancelled (Or.inr isDue)
  | waits running notCancelled seen early =>
    exact ⟨⟨stands.interval, stands.fresh,
      fun running seen => (stands.waits running seen).rest early, stands.cancelled, stands.handle,
      stands.cache⟩, fun _ => seen, fun _ => notCancelled⟩

/-- When a turn runs a cycle. -/
theorem Stands.ran_iff (stands : Stands initial events ticked now job)
    (positive : PositivePeriods initial events) (result : CycleResult) :
    (job.turn result).2 = true ↔ (ticked = true ∧ Due (lastSetting initial events) now) ∧
      job.finished = false ∧ job.cancelled = false ∧ job.cacheAlive = true := by
  have turns := turn_turns stands.handle result
  generalize job.turn result = turned at turns ⊢
  cases turns with
  | ended finished => simp [finished]
  | ends running cancelled => simp [cancelled]
  | misses running notCancelled seen due gone => simp [gone]
  | hears running notCancelled unseen => simp [← stands.ended_iff positive running, unseen]
  | sweeps running notCancelled seen due alive =>
    simp [← stands.ended_iff positive running, running, notCancelled, seen, due, alive]
  | waits running notCancelled seen early =>
    simp [← stands.ended_iff positive running, early]

/-- When a turn leaves a job that has ended. -/
theorem Stands.finished_iff (stands : Stands initial events ticked now job)
    (positive : PositivePeriods initial events) (result : CycleResult) :
    (job.turn result).1.finished = true ↔ job.finished = true ∨ job.cancelled = true ∨
      (ticked = true ∧ Due (lastSetting initial events) now) ∧ job.cacheAlive = false := by
  have turns := turn_turns stands.handle result
  generalize job.turn result = turned at turns ⊢
  cases turns with
  | ended finished => simp [finished]
  | ends running cancelled => simp [cancelled, finish]
  | misses running notCancelled seen due gone =>
    simp [← stands.ended_iff positive running, seen, due, gone, finish]
  | hears running notCancelled unseen =>
    simp [← stands.ended_iff positive running, running, notCancelled, unseen, look]
  | sweeps running notCancelled seen due alive => simp [running, notCancelled, alive, look]
  | waits running notCancelled seen early =>
    simp [← stands.ended_iff positive running, running, notCancelled, early]

end

/-! ### All turns -/

theorem spawn_stands (initial : Option Nat) : Stands initial [] false 0 (spawn initial) where
  interval := rfl
  fresh _ _ := rfl
  waits _ seen := Bool.noConfusion seen
  cancelled := by simp [spawn]
  handle dropped := Bool.noConfusion dropped
  cache := by simp [spawn]

theorem finished_applyAll (happenings : List Happening) (job : EvictionJob) :
    (applyAll happenings job).finished = job.finished := by
  induction happenings generalizing job with
  | nil => rfl
  | cons happening rest inductionHypothesis =>
    refine (inductionHypothesis (happening.apply job)).trans ?_
    cases happening <;> rfl

theorem Moment.finished_found (moment : Moment) (job : EvictionJob) :
    (moment.found job).finished = job.finished := by
  refine (finished_applyAll _ _).trans ?_
  split <;> rfl

section

variable {initial : Option Nat} {opening : List Happening} {moments : List Moment}

theorem begin_stands (positive : PositivePeriods initial (heard opening [])) :
    Stands initial (heard opening []) false 0 (begin initial opening) ∧
      Rests (begin initial opening) := by
  have nothingElse : heard opening [] = opening.map (0, ·) := List.append_nil _
  rw [nothingElse] at positive ⊢
  exact ((spawn_stands initial).happens opening).turn positive uneventful

/-- How the next turn finds a job. -/
theorem Stands.found {job : EvictionJob}
    (stands : Stands initial (heard opening moments) false (time moments) job) (rests : Rests job)
    (moment : Moment) :
    Stands initial (heard opening (moments ++ [moment])) moment.ticked (time (moments ++ [moment]))
      (moment.found job) := by
  rw [heard_snoc, time_snoc]
  unfold Moment.found
  refine Stands.happens ?_ moment.happenings
  cases moment.ticked with
  | false => exact stands
  | true => exact stands.pass rests

/-- How a job stands after all turns. -/
theorem run_stands (positive : PositivePeriods initial (heard opening moments)) :
    Stands initial (heard opening moments) false (time moments)
        (run moments (begin initial opening)) ∧
      Rests (run moments (begin initial opening)) := by
  induction moments using List.reverseRecOn with
  | nil => exact begin_stands positive
  | append_singleton moments moment inductionHypothesis =>
    have before := positive
    rw [heard_snoc] at before
    obtain ⟨stands, rests⟩ := inductionHypothesis before.of_append
    rw [run_snoc]
    exact (stands.found rests moment).turn positive moment.result

/-- A job is stranded when a cycle is due and the cache is gone. -/
def Stranded (initial : Option Nat) (opening : List Happening) (moments : List Moment) : Prop :=
  ∃ earlier moment later, moments = earlier ++ moment :: later ∧ moment.ticked = true ∧
    Due (lastSetting initial (heard opening (earlier ++ [moment]))) (time (earlier ++ [moment])) ∧
    ∃ event ∈ heard opening (earlier ++ [moment]), event.2 = .dropCache

theorem stranded_snoc (moment : Moment) :
    Stranded initial opening (moments ++ [moment]) ↔ Stranded initial opening moments ∨
      (moment.ticked = true ∧ Due (lastSetting initial (heard opening (moments ++ [moment])))
        (time (moments ++ [moment]))) ∧
        ∃ event ∈ heard opening (moments ++ [moment]), event.2 = .dropCache := by
  constructor
  · rintro ⟨earlier, last, later, split, ticked, due, gone⟩
    rcases List.eq_nil_or_concat later with rfl | ⟨others, final, rfl⟩
    · obtain ⟨rfl, same⟩ := List.append_inj' split rfl
      cases same
      exact Or.inr ⟨⟨ticked, due⟩, gone⟩
    · rw [List.concat_eq_append, ← List.cons_append, ← List.append_assoc] at split
      obtain ⟨rfl, _⟩ := List.append_inj' split rfl
      exact Or.inl ⟨earlier, last, others, rfl, ticked, due, gone⟩
  · rintro (⟨earlier, last, later, rfl, ticked, due, gone⟩ | ⟨⟨ticked, due⟩, gone⟩)
    · exact ⟨earlier, last, later ++ [moment], List.append_assoc _ _ _, ticked, due, gone⟩
    · exact ⟨moments, moment, [], rfl, ticked, due, gone⟩

/-- A job has ended when it has been told to, and when it was stranded. -/
theorem run_finished_iff (positive : PositivePeriods initial (heard opening moments)) :
    (run moments (begin initial opening)).finished = true ↔
      (∃ event ∈ heard opening moments, event.2.TellsToEnd) ∨ Stranded initial opening moments := by
  induction moments using List.reverseRecOn with
  | nil =>
    have nothingElse : heard opening [] = opening.map (0, ·) := List.append_nil _
    have notStranded : ¬ Stranded initial opening [] := by
      rintro ⟨earlier, moment, later, split, _⟩
      exact absurd split.symm (List.append_ne_nil_of_right_ne_nil _ (List.cons_ne_nil _ _))
    rw [nothingElse] at positive ⊢
    have stands := (spawn_stands initial).happens opening
    have finished : (applyAll opening (spawn initial)).finished = false :=
      finished_applyAll opening (spawn initial)
    have exactly := stands.finished_iff positive uneventful
    rw [finished] at exactly
    show ((applyAll opening (spawn initial)).turn uneventful).1.finished = true ↔ _
    rw [exactly, stands.cancelled]
    simp [notStranded]
  | append_singleton moments moment inductionHypothesis =>
    have before := positive
    rw [heard_snoc] at before
    obtain ⟨stands, rests⟩ := run_stands before.of_append
    have found := stands.found rests moment
    rw [run_snoc, Moment.take, found.finished_iff positive, moment.finished_found,
      inductionHypothesis before.of_append, found.cancelled, found.cache, stranded_snoc]
    have remembered : (∃ event ∈ heard opening moments, event.2.TellsToEnd) →
        ∃ event ∈ heard opening (moments ++ [moment]), event.2.TellsToEnd := by
      rintro ⟨event, member, tells⟩
      exact ⟨event, heard_snoc opening moments moment ▸ List.mem_append_left _ member, tells⟩
    constructor
    · rintro ((told | stranded) | told | now)
      · exact Or.inl (remembered told)
      · exact Or.inr (Or.inl stranded)
      · exact Or.inl told
      · exact Or.inr (Or.inr now)
    · rintro (told | stranded | now)
      · exact Or.inr (Or.inl told)
      · exact Or.inl (Or.inr stranded)
      · exact Or.inr (Or.inr now)

theorem Over.append {events : List (Nat × Happening)} (isOver : Over events)
    (later : List (Nat × Happening)) : Over (events ++ later) := by
  obtain ⟨event, member, why⟩ := isOver
  exact ⟨event, List.mem_append_left _ member, why⟩

/-- What is over can be told from a job. -/
theorem Stands.over_iff {events : List (Nat × Happening)} {ticked : Bool} {now : Nat}
    {job : EvictionJob} (stands : Stands initial events ticked now job) :
    Over events ↔ job.cancelled = true ∨ job.cacheAlive = false := by
  rw [stands.cancelled, stands.cache, Over]
  simp only [and_or_left, exists_or]

/-- A job does not end before that. -/
theorem over_of_finished (positive : PositivePeriods initial (heard opening moments))
    (finished : (run moments (begin initial opening)).finished = true) :
    Over (heard opening moments) := by
  rcases (run_finished_iff positive).mp finished with ⟨event, member, tells⟩ | stranded
  · exact ⟨event, member, Or.inl tells⟩
  · obtain ⟨earlier, moment, later, rfl, _, _, event, member, isGone⟩ := stranded
    rw [List.append_cons, heard_append]
    exact Over.append ⟨event, member, Or.inr isGone⟩ _

/-- A job whose periods have some length runs no cycle in its first turn. In a later turn it runs
one exactly if the turn follows a tick, the time is some whole number of periods after the last
setting, and nothing has told it to end or taken its cache away. Its interval is the last that was
set. It has ended exactly if it was told to, or has found the cache gone at a time at which a cycle
was due. What its cycles come to does not matter. -/
theorem run_schedule (positive : PositivePeriods initial (heard opening moments)) :
    ((applyAll opening (spawn initial)).turn uneventful).2 = false ∧
      (∀ earlier moment later, moments = earlier ++ moment :: later →
        let events := heard opening (earlier ++ [moment])
        let now := time (earlier ++ [moment])
        (moment.take (run earlier (begin initial opening))).2 = true ↔
          moment.ticked = true ∧ Due (lastSetting initial events) now ∧ ¬ Over events) ∧
      (run moments (begin initial opening)).interval =
        (lastSetting initial (heard opening moments)).2 ∧
      ((run moments (begin initial opening)).finished = true ↔
        (∃ event ∈ heard opening moments, event.2.TellsToEnd) ∨
          Stranded initial opening moments) := by
  refine ⟨?_, ?_, (run_stands positive).1.interval, run_finished_iff positive⟩
  · have atFirst : PositivePeriods initial ([] ++ opening.map (0, ·)) := positive.of_append
    have exactly := ((spawn_stands initial).happens opening).ran_iff atFirst uneventful
    rw [Bool.eq_false_iff]
    exact fun ran => Bool.noConfusion (exactly.mp ran).1.1
  · rintro earlier moment later rfl
    rw [List.append_cons, heard_append] at positive
    have upTo := positive.of_append
    have before := upTo
    rw [heard_snoc] at before
    obtain ⟨stands, rests⟩ := run_stands before.of_append
    have found := stands.found rests moment
    intro events now
    rw [Moment.take, found.ran_iff upTo, moment.finished_found, and_assoc]
    refine and_congr_right fun _ => and_congr_right fun _ => ?_
    rw [found.over_iff, not_or, Bool.not_eq_true, Bool.not_eq_false]
    refine and_iff_right_of_imp fun goesOn => ?_
    rw [← Bool.not_eq_true]
    intro finished
    have isOver := over_of_finished before.of_append finished
    have overNow := isOver.append (moment.happenings.map (time (earlier ++ [moment]), ·))
    rw [← heard_snoc, found.over_iff, goesOn.1, goesOn.2] at overNow
    simp at overNow

end

/-- The job of a cache is set to two ticks. Its first cycle fails. At the third tick the interval is
set to what it was, and with the sixth the job is cancelled. -/
def retuned : List Moment :=
  [⟨true, [], uneventful⟩, ⟨true, [], .error .queryTimeout⟩,
    ⟨true, [.set (some 2)], uneventful⟩, ⟨true, [], uneventful⟩, ⟨true, [], uneventful⟩,
    ⟨true, [.cancel], uneventful⟩]

/-- There are cycles at the second tick and at the fifth, but not at the fourth. -/
theorem retuned_schedule :
    PositivePeriods (some 2) (heard [] retuned) ∧
      (Moment.take ⟨true, [], .error .queryTimeout⟩
        (run (retuned.take 1) (begin (some 2) []))).2 = true ∧
      (Moment.take ⟨true, [], uneventful⟩ (run (retuned.take 3) (begin (some 2) []))).2 = false ∧
      (Moment.take ⟨true, [], uneventful⟩ (run (retuned.take 4) (begin (some 2) []))).2 = true ∧
      (run retuned (begin (some 2) [])).interval = some 2 ∧
      (run retuned (begin (some 2) [])).finished = true := by
  have positive : PositivePeriods (some 2) (heard [] retuned) := by
    constructor <;> simp [heard, heardSince, retuned]
  obtain ⟨_, cycles, interval, finished⟩ := run_schedule positive
  have nothing : ¬ Over (heard [] (retuned.take 2)) := by simp [Over, heard, heardSince, retuned]
  have setting : ¬ Over (heard [] (retuned.take 5)) := by
    simp [Over, heard, heardSince, retuned, Happening.TellsToEnd]
  refine ⟨positive, ?_, ?_, ?_, interval.trans rfl, ?_⟩
  · exact (cycles (retuned.take 1) _ (retuned.drop 2) rfl).mpr
      ⟨rfl, ⟨2, 1, rfl, by decide, rfl⟩, nothing⟩
  · rfl
  · exact (cycles (retuned.take 4) _ (retuned.drop 5) rfl).mpr
      ⟨rfl, ⟨2, 1, rfl, by decide, rfl⟩, setting⟩
  · exact finished.mpr (Or.inl ⟨(6, .cancel), by simp [heard, heardSince, retuned], trivial⟩)

end StubResolver.EvictionJob
