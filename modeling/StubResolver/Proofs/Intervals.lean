/-
This file says how long the interval between sweeps comes out. Minutes are configured with a sign
and 64 bits, and seconds are counted in 64 bits without one. So there is no room for the seconds of
very many minutes. Up to there the interval is exact, and beyond it there is none at all: the cache
is not made, or keeps the interval that it had.

There are three ways to a cache with an interval: it is made from settings, a registry makes it, or
it has its interval set. They come to the same.
-/

import StubResolver.Registry

namespace StubResolver

/-! ### Jobs and their interval -/

/-- A turn leaves the interval as it is. -/
theorem EvictionJob.turn_interval (job : EvictionJob) (result : CycleResult) :
    (job.turn result).1.interval = job.interval := by
  unfold turn
  cases job.finished with
  | true => rfl
  | false =>
    rcases job.wake? with _ | (_ | _ | _ | _)
    case some.due =>
      cases job.cacheAlive with
      | true => cases result <;> rfl
      | false => rfl
    all_goals rfl

/-- What comes of setting the interval between the sweeps of a cache to some minutes, where there is
something that its job can run in. -/
inductive SweptCache.Setting (minutes : Int64) : Except Overflow SweptCache → Prop where
  /-- The cache is made from settings. -/
  | made (recordClass : RecordClass) (settings : CacheConfig)
      (given : settings.cleanupIntervalMinutes = minutes) :
      Setting minutes (SweptCache.new recordClass settings true)
  /-- A registry makes it. -/
  | created (registry : Registry) (recordClass : RecordClass)
      (given : registry.settings.cleanupIntervalMinutes = minutes)
      (unknown : registry.get? recordClass = none) :
      Setting minutes ((registry.getOrCreate recordClass).map Prod.fst)
  /-- It was there before. -/
  | set (swept : SweptCache) (canRun : Bool) (runs : canRun = true ∨ swept.job.isSome = true) :
      Setting minutes (swept.setInterval canRun minutes)

/-- The interval is set. A cache without a job gets one, unless there is no interval. -/
theorem SweptCache.interval_retune (swept : SweptCache) {canRun : Bool} (interval : Option Nat)
    (runs : canRun = true ∨ swept.job.isSome = true) :
    (swept.retune canRun interval).interval = interval := by
  unfold retune SweptCache.interval
  cases isJob : swept.job with
  | some job => exact (job.send _).turn_interval EvictionJob.uneventful
  | none =>
    obtain rfl : canRun = true := runs.resolve_right (by rw [isJob]; exact Bool.false_ne_true)
    cases interval with
    | none =>
      show swept.job.bind _ = none
      rw [isJob]
      rfl
    | some seconds => exact (EvictionJob.spawn _).turn_interval EvictionJob.uneventful

theorem SweptCache.setInterval_interval (swept : SweptCache) {canRun : Bool} (minutes : Int64)
    (runs : canRun = true ∨ swept.job.isSome = true) :
    (swept.setInterval canRun minutes).map SweptCache.interval =
      (sweepInterval minutes).map (Option.map UInt64.toNat) := by
  unfold setInterval
  cases sweepInterval minutes with
  | error overflow => rfl
  | ok interval => exact congrArg Except.ok (swept.interval_retune (interval.map _) runs)

/-- Whichever way it is set, the interval is the one that the minutes stand for. -/
theorem SweptCache.Setting.interval_eq {minutes : Int64} {outcome : Except Overflow SweptCache}
    (setting : Setting minutes outcome) :
    outcome.map SweptCache.interval = (sweepInterval minutes).map (Option.map UInt64.toNat) := by
  cases setting with
  | made recordClass settings given =>
    rw [← given]
    exact setInterval_interval _ _ (Or.inl rfl)
  | created registry recordClass given unknown =>
    have isSet := setInterval_interval (unswept recordClass registry.settings)
      registry.settings.cleanupIntervalMinutes (Or.inl rfl : true = true ∨ _)
    rw [← given, ← isSet, Registry.getOrCreate, unknown]
    show Except.map _ (Except.map _ (SweptCache.new _ _ _ >>= fun swept =>
      return (swept, registry.put swept))) = (SweptCache.new _ _ _).map _
    cases SweptCache.new recordClass registry.settings true <;> rfl
  | set swept canRun runs => exact setInterval_interval swept minutes runs

/-! ### Minutes and seconds -/

/-- The greatest number of minutes whose seconds there is room for. -/
def greatestMinutes : Nat := (UInt64.size - 1) / 60

/-- Seconds that there is room for are counted as they are. -/
theorem secondsOf_eq_ok {minutes : UInt64} (few : minutes.toNat ≤ greatestMinutes) :
    ∃ seconds, secondsOf minutes = .ok seconds ∧ seconds.toNat = 60 * minutes.toNat := by
  simp only [greatestMinutes, UInt64.size] at few
  have fits : minutes.toNat * 60 < UInt64.size := by
    simp only [UInt64.size]
    omega
  refine ⟨minutes * 60, if_pos fits, ?_⟩
  rw [UInt64.toNat_mul, Nat.mul_comm 60]
  exact Nat.mod_eq_of_lt fits

theorem secondsOf_eq_error {minutes : UInt64} (many : greatestMinutes < minutes.toNat) :
    secondsOf minutes = .error .product := by
  refine if_neg ?_
  simp only [greatestMinutes, UInt64.size] at many ⊢
  omega

/-- What an interval should be that some minutes stand for. -/
structure IsExactInterval (minutes : Int64) (interval : Option Nat) : Prop where
  /-- There is no interval for zero and for negative numbers, -/
  none_iff : interval = none ↔ minutes ≤ 0
  /-- and otherwise one of sixty seconds for each minute, -/
  seconds : ∀ seconds, interval = some seconds → (seconds : Int) = 60 * minutes.toInt
  /-- which is not nothing -/
  notZero : interval ≠ some 0
  /-- and not shorter than that of fewer minutes. -/
  notShorter : ∀ (fewer : Int64) (shorter : UInt64) (longer : Nat), fewer ≤ minutes →
    sweepInterval fewer = .ok (some shorter) → interval = some longer → shorter.toNat ≤ longer

/-- Up to the greatest number of minutes there is no interval, or one that takes sixty seconds for
each of them. -/
theorem sweepInterval_of_le {minutes : Int64} (few : minutes.toInt ≤ greatestMinutes) :
    (minutes ≤ 0 ∧ sweepInterval minutes = .ok none) ∨
      0 < minutes ∧ ∃ seconds, sweepInterval minutes = .ok (some seconds) ∧
        (seconds.toNat : Int) = 60 * minutes.toInt := by
  by_cases positive : 0 < minutes
  · have isPositive : 0 < minutes.toInt := Int64.lt_iff_toInt_lt.mp positive
    have count : minutes.toUInt64.toNat = minutes.toInt.toNat :=
      Int64.toNat_toUInt64_of_le (Int64.le_of_lt positive)
    obtain ⟨seconds, counted, exact⟩ :=
      secondsOf_eq_ok (by omega : minutes.toUInt64.toNat ≤ greatestMinutes)
    refine Or.inr ⟨positive, seconds, ?_, by omega⟩
    rw [sweepInterval, if_pos positive, counted]
    rfl
  · exact Or.inl ⟨Int64.not_lt.mp positive, if_neg positive⟩

/-- Beyond it there is no room for the seconds. -/
theorem sweepInterval_of_lt {minutes : Int64} (many : greatestMinutes < minutes.toInt) :
    sweepInterval minutes = .error .product := by
  have isPositive : 0 < minutes.toInt := by omega
  have positive : 0 < minutes := Int64.lt_iff_toInt_lt.mpr isPositive
  have count : minutes.toUInt64.toNat = minutes.toInt.toNat :=
    Int64.toNat_toUInt64_of_le (Int64.le_of_lt positive)
  rw [sweepInterval, if_pos positive, secondsOf_eq_error (by omega)]
  rfl

/-- The minutes of an interval have sixty seconds each. -/
theorem toNat_of_sweepInterval {minutes : Int64} {seconds : UInt64}
    (isInterval : sweepInterval minutes = .ok (some seconds)) :
    0 < minutes ∧ (seconds.toNat : Int) = 60 * minutes.toInt := by
  have few : minutes.toInt ≤ greatestMinutes := by
    refine Int.not_lt.mp fun many => ?_
    rw [sweepInterval_of_lt many] at isInterval
    cases isInterval
  rcases sweepInterval_of_le few with ⟨_, none⟩ | ⟨positive, other, same, exact⟩
  · cases none.symm.trans isInterval
  · cases same.symm.trans isInterval
    exact ⟨positive, exact⟩

theorem isExactInterval_of_sweepInterval {minutes : Int64} {interval : Option UInt64}
    (isInterval : sweepInterval minutes = .ok interval) (few : minutes.toInt ≤ greatestMinutes) :
    IsExactInterval minutes (interval.map UInt64.toNat) := by
  rcases sweepInterval_of_le few with ⟨notPositive, none⟩ | ⟨positive, seconds, same, exact⟩
  · cases none.symm.trans isInterval
    exact ⟨iff_of_true rfl notPositive, fun _ isSome => (by cases isSome),
      fun isSome => (by cases isSome), fun _ _ _ _ _ isSome => (by cases isSome)⟩
  · cases same.symm.trans isInterval
    have isPositive : 0 < minutes.toInt := Int64.lt_iff_toInt_lt.mp positive
    refine ⟨iff_of_false (fun none => (by cases none)) (Int64.not_le.mpr positive), ?_, ?_, ?_⟩
    · rintro _ ⟨⟩
      exact exact
    · rintro zero
      have := Option.some.inj zero
      omega
    · rintro fewer shorter _ least isShorter ⟨⟩
      have shorterExact := (toNat_of_sweepInterval isShorter).2
      have := Int64.le_iff_toInt_le.mp least
      omega

/-! ### Exact intervals -/

/-- However the interval of a cache is set, it is exact if there is room for the seconds. Otherwise
it is not set. -/
theorem interval_exact_or_overflows {minutes : Int64} {outcome : Except Overflow SweptCache}
    (setting : SweptCache.Setting minutes outcome) :
    (minutes.toInt ≤ greatestMinutes ∧
        ∃ swept, outcome = .ok swept ∧ IsExactInterval minutes swept.interval) ∨
      (greatestMinutes < minutes.toInt ∧ outcome = .error .product) := by
  have isInterval := setting.interval_eq
  rcases Int.lt_or_le greatestMinutes minutes.toInt with many | few
  · rw [sweepInterval_of_lt many] at isInterval
    cases outcome with
    | error overflow =>
      cases isInterval
      exact Or.inr ⟨many, rfl⟩
    | ok swept => cases isInterval
  · refine Or.inl ⟨few, ?_⟩
    obtain ⟨interval, counted⟩ : ∃ interval, sweepInterval minutes = .ok interval := by
      rcases sweepInterval_of_le few with ⟨_, none⟩ | ⟨_, seconds, some, _⟩
      · exact ⟨_, none⟩
      · exact ⟨_, some⟩
    rw [counted] at isInterval
    cases outcome with
    | error overflow => cases isInterval
    | ok swept =>
      have same : swept.interval = interval.map UInt64.toNat := Except.ok.inj isInterval
      refine ⟨swept, rfl, ?_⟩
      rw [same]
      exact isExactInterval_of_sweepInterval counted few

/-- The defaults of caches. -/
theorem halfHour_exact :
    ∃ swept, SweptCache.new .inet CacheConfig.default true = .ok swept ∧
      swept.interval = some 1800 ∧ IsExactInterval 30 swept.interval := by
  rcases interval_exact_or_overflows (.made .inet CacheConfig.default rfl) with
    ⟨_, swept, made, isExact⟩ | ⟨many, _⟩
  · refine ⟨swept, made, ?_, isExact⟩
    cases made
    rfl
  · exact absurd many (by decide)

/-- The settings of a cache with another interval. -/
def CacheConfig.withInterval (settings : CacheConfig) (minutes : Int64) : CacheConfig :=
  { settings with cleanupIntervalMinutes := minutes }

/-- There is room for the seconds of so many minutes, but not for those of one more. With far more
there is no cache either. -/
theorem manyMinutes_overflow :
    ((SweptCache.new .inet (CacheConfig.default.withInterval 307445734561825860) true).map
        SweptCache.interval = .ok (some 18446744073709551600)) ∧
      SweptCache.new .inet (CacheConfig.default.withInterval 307445734561825861) true =
        .error .product ∧
      ¬ ∃ swept, SweptCache.new .inet (CacheConfig.default.withInterval 4611686018427387904) true =
          .ok swept ∧ IsExactInterval 4611686018427387904 swept.interval := by
  refine ⟨rfl, rfl, ?_⟩
  rintro ⟨swept, made, _⟩
  cases made

end StubResolver
