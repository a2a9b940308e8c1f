/-
This file proves that a sweep can be interrupted. A cycle takes down the names of a cache and goes
through them batch by batch, and between the batches others do what they like: they add, look up,
flush, clear, or change the limits. What a batch finds is therefore not what was there when the
names were taken down. Names may have gone, come back, or come to hold something else.

No batch does harm, since it looks at each name as it is when its turn comes. And nothing that had
expired at the start is missed, since every name of the start has its turn, and a name that had its
turn can only come to hold what others put there. An entry that has expired at once when it is put
there, such as an absence that lasts for no time, may well stand there at the end. But it is not one
that the cycle should have dropped.
-/

import StubResolver.Proofs.Cache.Batches
import StubResolver.Proofs.Cache.Upkeep

namespace StubResolver.Cache

/-! ### Turns -/

/-- A turn of a cycle: what others do before it, the time at which it comes, and the names that it
goes through. -/
structure Turn where
  others : List (Nat × Operation)
  now : Nat
  batch : List Name

namespace Turn

/-- The cache as a turn finds it. -/
def found (turn : Turn) (cache : Cache) : Cache := Operation.run turn.others cache

/-- How many entries a turn drops, and the cache that it leaves. -/
def take (turn : Turn) (cache : Cache) : Nat × Cache :=
  (turn.found cache).sweepNames turn.now turn.batch

/-- Takes turns one after the other, and adds up what they drop. -/
def takeAll : List Turn → Cache → Nat × Cache
  | [], cache => (0, cache)
  | turn :: rest, cache =>
    let (first, swept) := turn.take cache
    let (others, last) := takeAll rest swept
    (first + others, last)

/-- How many entries there are fewer after a turn than when it came, for several turns. -/
def dropped : List Turn → Cache → Nat
  | [], _ => 0
  | turn :: rest, cache =>
    (turn.found cache).entryCount - (turn.take cache).2.entryCount +
      dropped rest (turn.take cache).2

/-- All that happens in a turn. -/
def events (turn : Turn) : List (Nat × Operation) :=
  turn.others ++ [(turn.now, .sweepNames turn.batch)]

end Turn

/-- A cycle that starts at a time with the names of a cache, among operations of others. -/
structure Cycle (start : Nat) (names : List Name) where
  turns : List Turn
  /-- What others do after the last turn. -/
  afterwards : List (Nat × Operation)
  /-- Every batch of the names has its turn. -/
  divided : turns.map Turn.batch = batches names
  /-- Others add sets that were put together. -/
  built : ∀ event ∈ turns.flatMap Turn.others ++ afterwards, event.2.Built
  /-- The clock does not go back behind the start. -/
  notBefore : ∀ event ∈ turns.flatMap Turn.events ++ afterwards, start ≤ event.1

/-- Runs a cycle, and enters what it has dropped into the counters. -/
def Cycle.run {start : Nat} {names : List Name} (cycle : Cycle start names) (cache : Cache) :
    SweepReport × Cache :=
  let (removed, swept) := Turn.takeAll cycle.turns cache
  let left := Operation.run cycle.afterwards swept
  (⟨removed, names.length, left.size⟩, left.countSweep removed)

/-! ### Entries that are put in a place -/

/-- An entry is installed in a place in the course of operations, by one of their steps. -/
inductive InstalledDuring (name : Name) (key : EntryKey) (entry : Entry) :
    List (Nat × Operation) → Cache → Prop where
  | here {now : Nat} {operation : Operation} {rest : List (Nat × Operation)} {cache : Cache}
      {earlier later : List Change} {change : Change} {owner : Name}
      (steps : operation.changes now cache = earlier ++ change :: later) (same : owner ≈ name)
      (installs : Installs now (Change.applyAll now earlier cache)
        (change.apply now (Change.applyAll now earlier cache)) owner key entry) :
      InstalledDuring name key entry ((now, operation) :: rest) cache
  | later {now : Nat} {operation : Operation} {rest : List (Nat × Operation)} {cache : Cache}
      (after : InstalledDuring name key entry rest (operation.apply now cache)) :
      InstalledDuring name key entry ((now, operation) :: rest) cache

section

variable {cache : Cache} {now : Nat} {name owner : Name} {key ownKey : EntryKey} {entry : Entry}

theorem of_dropExpired (tidy : cache.shelf.Tidy)
    (found : (cache.dropExpired now owner ownKey).entryAt? name key = some entry) :
    cache.entryAt? name key = some entry := by
  rcases (dropExpired_settles tidy now owner ownKey).entry_cases found with
    stayed | ⟨same, rfl, alive⟩
  · exact stayed
  · rw [← entryAt?_congr cache same]
    exact (live?_eq_some_iff.mp alive).1

/-- What is found after an addition was there before, or was installed. -/
theorem settle_cases (tidy : cache.shelf.Tidy) {credibility : Credibility} {fresh : Option Entry}
    (found : ((cache.dropExpired now owner ownKey).settle owner ownKey credibility fresh).entryAt?
      name key = some entry) :
    cache.entryAt? name key = some entry ∨ owner ≈ name ∧ ownKey = key ∧
      Installs now cache ((cache.dropExpired now owner ownKey).settle owner ownKey credibility
        fresh) owner ownKey entry := by
  have dropped := dropExpired_settles tidy now owner ownKey
  unfold settle at found ⊢
  cases fresh with
  | none =>
    rcases (displace_settles dropped.tidy owner ownKey credibility).entry_cases found with
      stayed | ⟨same, rfl, outranks⟩
    · exact Or.inl (of_dropExpired tidy stayed)
    · rw [entryAt?_congr _ same] at outranks
      exact Or.inl (of_dropExpired tidy (Option.filter_eq_some_iff.mp outranks).1)
  | some new =>
    dsimp only at found ⊢
    split at found
    · exact Or.inl (of_dropExpired tidy found)
    · rename_i notOutranked
      rcases (install_settles dropped.tidy owner ownKey new).entry_cases found with
        stayed | ⟨same, rfl, isNew⟩
      · exact Or.inl (of_dropExpired tidy stayed)
      · cases isNew
        rw [if_neg notOutranked]
        exact Or.inr ⟨same, rfl, rfl⟩

theorem storeSet_cases (tidy : cache.shelf.Tidy) {set : RRset} {credibility : Credibility}
    (found : (cache.storeSet now set credibility).entryAt? name key = some entry) :
    cache.entryAt? name key = some entry ∨ set.name ≈ name ∧ .type set.type = key ∧
      Installs now cache (cache.storeSet now set credibility) set.name (.type set.type) entry := by
  rw [storeSet_eq] at found ⊢
  exact settle_cases tidy found

/-- What is found after a record was stored by itself was there before, or was installed by that.
-/
theorem storeRecord_cases (tidy : cache.shelf.Tidy) {record : Record} {credibility : Credibility}
    (found : ((cache.dropExpired now record.name (.type record.setType)).storeSet now
      (RRset.ofRecord record) credibility).entryAt? name key = some entry) :
    cache.entryAt? name key = some entry ∨ ∃ owner, owner ≈ name ∧
      Installs now cache ((cache.dropExpired now record.name (.type record.setType)).storeSet now
        (RRset.ofRecord record) credibility) owner key entry := by
  have dropped := dropExpired_settles tidy now record.name (.type record.setType)
  rcases storeSet_cases dropped.tidy found with stayed | ⟨same, rfl, installs⟩
  · exact Or.inl (of_dropExpired tidy stayed)
  · -- what is stored drops once more what has expired, in vain
    unfold Installs at installs ⊢
    rw [RRset.ofRecord_name, RRset.ofRecord_type, dropExpired_dropExpired tidy] at installs
    exact Or.inr ⟨_, RRset.ofRecord_name record ▸ same, RRset.ofRecord_type _ ▸ installs⟩

/-- A record that joins an entry leaves it as alive as it was, so an entry that has expired is not
one that a record has joined. -/
theorem joinRecord_cases (tidy : cache.shelf.Tidy) {record : Record}
    (found : ((cache.dropExpired now record.name (.type record.setType)).joinSet record.name
      (.type record.setType) record).entryAt? name key = some entry)
    (expired : entry.isExpired now = true) : cache.entryAt? name key = some entry := by
  have dropped := dropExpired_settles tidy now record.name (.type record.setType)
  rcases (joinSet_settles dropped.tidy _ _ _).entry_cases found with stayed | ⟨same, rfl, joined⟩
  · exact of_dropExpired tidy stayed
  · rw [dropped.there _ (Setoid.refl _)] at joined
    obtain ⟨before, alive, rfl⟩ := Option.map_eq_some_iff.mp joined
    have lasts : before.isExpired now = false := (live?_eq_some_iff.mp alive).2
    exact absurd (lasts.symm.trans expired) Bool.false_ne_true

/-- What has expired when it is found after a record was added was there before, or was installed
by that. -/
theorem addRecord_cases (tidy : cache.shelf.Tidy) {record : Record} {credibility : Credibility}
    (found : ((Change.addRecord record credibility).apply now cache).entryAt? name key = some entry)
    (expired : entry.isExpired now = true) :
    cache.entryAt? name key = some entry ∨ ∃ owner, owner ≈ name ∧
      Installs now cache ((Change.addRecord record credibility).apply now cache) owner key
        entry := by
  cases isMeta : record.setType.isMeta with
  | true =>
    rw [refuse_addRecord isMeta] at found
    exact Or.inl found
  | false =>
    have applied : (Change.addRecord record credibility).apply now cache =
        (cache.dropExpired now (kept record).name (.type (kept record).setType)).addToStanding now
          (kept record) credibility := by
      show ((cache.addRecord now record credibility).toOption).getD cache = _
      rw [addRecord_eq cache now record credibility isMeta]
      rfl
    rw [applied] at found ⊢
    unfold addToStanding at found ⊢
    split at found
    · split at found
      · exact Or.inl (of_dropExpired tidy found)
      · rename_i notLess
        split at found
        · exact Or.inl (joinRecord_cases tidy found expired)
        · rename_i notEqual
          rw [if_neg notLess, if_neg notEqual]
          exact storeRecord_cases tidy found
    · exact storeRecord_cases tidy found

/-- What has expired when it is found after a step was there before, or the step has installed it.
-/
theorem apply_cases (tidy : cache.shelf.Tidy) {change : Change}
    (found : (change.apply now cache).entryAt? name key = some entry)
    (expired : entry.isExpired now = true) :
    cache.entryAt? name key = some entry ∨ ∃ owner, owner ≈ name ∧
      Installs now cache (change.apply now cache) owner key entry := by
  have shrunk (shrinks : Shrinks cache (change.apply now cache)) :
      cache.entryAt? name key = some entry := by
    rcases shrinks.entries name key with same | gone
    · exact same.symm.trans found
    · rw [gone] at found
      cases found
  cases change with
  | addRecord record credibility => exact addRecord_cases tidy found expired
  | storeSet set credibility =>
    exact (storeSet_cases tidy found).imp_right fun ⟨same, isKey, installs⟩ =>
      ⟨set.name, same, isKey ▸ installs⟩
  | storeAbsence place placeKey zoneStart credibility =>
    change (cache.storeAbsence now place placeKey zoneStart credibility).entryAt? name key =
      some entry at found
    show _ ∨ ∃ owner, owner ≈ name ∧ Installs now cache
      (cache.storeAbsence now place placeKey zoneStart credibility) owner key entry
    rw [storeAbsence_eq] at found ⊢
    exact (settle_cases tidy found).imp_right fun ⟨same, isKey, installs⟩ =>
      ⟨place, same, isKey ▸ installs⟩
  | lookup place type least => exact Or.inl (shrunk (lookup_spec tidy now place type least).1.shrinks)
  | sweepName place => exact Or.inl (shrunk (sweepName_fades tidy now place).shrinks)
  | flushName place => exact Or.inl (shrunk (flushName_shrinks tidy place))
  | flushEntry place placeKey => exact Or.inl (shrunk (flushEntry_shrinks tidy place placeKey))
  | clear => exact Or.inl (shrunk clear_shrinks)
  | setCapacity capacity => exact Or.inl (shrunk (setCapacity_shrinks tidy capacity))
  | _ => exact Or.inl found

/-- So it is with the steps of an operation. -/
theorem applyAll_installs (reachable : Reachable cache) (changes : List Change)
    (coherent : ∀ change ∈ changes, change.Coherent)
    (found : (Change.applyAll now changes cache).entryAt? name key = some entry)
    (expired : entry.isExpired now = true) :
    cache.entryAt? name key = some entry ∨ ∃ earlier change later owner,
      changes = earlier ++ change :: later ∧ owner ≈ name ∧
        Installs now (Change.applyAll now earlier cache)
          (change.apply now (Change.applyAll now earlier cache)) owner key entry := by
  induction changes generalizing cache with
  | nil => exact Or.inl found
  | cons first rest inductionHypothesis =>
    have after := reachable.step now first (coherent first List.mem_cons_self)
    rcases inductionHypothesis after
      (fun other later => coherent other (List.mem_cons_of_mem _ later)) found with
      early | ⟨earlier, change, later, owner, rfl, same, installs⟩
    · exact (apply_cases reachable.tidy early expired).imp_right fun ⟨owner, same, installs⟩ =>
        ⟨[], first, rest, owner, rfl, same, installs⟩
    · exact Or.inr ⟨first :: earlier, change, later, owner, rfl, same, installs⟩

/-- And so it is with operations: what has expired by all of their times was there at first, or one
of them has installed it. -/
theorem Reachable.run_installs (reachable : Reachable cache) (events : List (Nat × Operation))
    (built : ∀ event ∈ events, event.2.Built)
    (expired : ∀ event ∈ events, entry.isExpired event.1 = true)
    (found : (Operation.run events cache).entryAt? name key = some entry) :
    cache.entryAt? name key = some entry ∨ InstalledDuring name key entry events cache := by
  induction events generalizing cache with
  | nil => exact Or.inl found
  | cons event rest inductionHypothesis =>
    obtain ⟨time, operation⟩ := event
    have coherent := (built _ List.mem_cons_self).coherent
    rcases inductionHypothesis (reachable.operation time operation coherent)
      (fun other later => built other (List.mem_cons_of_mem _ later))
      (fun other later => expired other (List.mem_cons_of_mem _ later)) found with early | later
    · rw [operation.apply_eq] at early
      refine (applyAll_installs reachable _ (operation.changes_coherent coherent time cache) early
        (expired _ List.mem_cons_self)).imp_right ?_
      rintro ⟨_, _, _, _, steps, same, installs⟩
      exact .here steps same installs
    · exact Or.inr (.later later)

end

theorem Entry.isExpired_later {entry : Entry} {now later : Nat}
    (expired : entry.isExpired now = true) (inOrder : now ≤ later) :
    entry.isExpired later = true :=
  decide_eq_true (Nat.le_trans (of_decide_eq_true expired) inOrder)

/-! ### The counter of sweeps -/

section

variable (cache : Cache) (now : Nat)

theorem dropExpired_swept (name : Name) (key : EntryKey) :
    (cache.dropExpired now name key).metrics.swept = cache.metrics.swept := by
  unfold dropExpired
  split
  · split <;> rfl
  · rfl

theorem settle_swept (name : Name) (key : EntryKey) (credibility : Credibility)
    (fresh : Option Entry) :
    (cache.settle name key credibility fresh).metrics.swept = cache.metrics.swept := by
  unfold settle
  cases fresh with
  | none =>
    dsimp only
    unfold displace
    split
    · split <;> rfl
    · rfl
  | some entry =>
    dsimp only
    split <;> rfl

theorem storeSet_swept (set : RRset) (credibility : Credibility) :
    (cache.storeSet now set credibility).metrics.swept = cache.metrics.swept := by
  rw [storeSet_eq, settle_swept, dropExpired_swept]

theorem addToStanding_swept (record : Record) (credibility : Credibility) :
    (cache.addToStanding now record credibility).metrics.swept = cache.metrics.swept := by
  unfold addToStanding
  split
  · split
    · rfl
    · split
      · rfl
      · exact storeSet_swept cache now _ _
  · exact storeSet_swept cache now _ _

theorem visit_swept (name : Name) :
    (cache.visit now name).1.metrics.swept = cache.metrics.swept := by
  unfold visit
  split <;> rfl

theorem searchAncestors_swept (least : Credibility) (names : List Name) :
    (cache.searchAncestors now least names).2.metrics.swept = cache.metrics.swept := by
  induction names generalizing cache with
  | nil => rfl
  | cons name rest inductionHypothesis =>
    unfold searchAncestors
    dsimp only
    split
    · exact visit_swept cache now name
    · rw [inductionHypothesis, visit_swept]

theorem lookup_swept (name : Name) (type : RecordType) (least : Credibility) :
    (cache.lookup now name type least).2.metrics.swept = cache.metrics.swept := by
  have counted (metrics : Metrics) (outcome : Outcome) :
      (metrics.countLookup outcome).swept = metrics.swept := by
    unfold Metrics.countLookup
    split <;> rfl
  unfold lookup search
  dsimp only
  split
  · rw [counted, visit_swept]
  · rw [counted, searchAncestors_swept, visit_swept]

/-- No step but one that counts a sweep changes the counter. -/
theorem apply_swept {change : Change} (other : ∀ removed, change ≠ .countSweep removed) :
    (change.apply now cache).metrics.swept = cache.metrics.swept := by
  cases change with
  | addRecord record credibility =>
    cases isMeta : record.setType.isMeta with
    | true => rw [refuse_addRecord isMeta]
    | false =>
      show (((cache.addRecord now record credibility).toOption).getD cache).metrics.swept = _
      rw [addRecord_eq cache now record credibility isMeta]
      exact (addToStanding_swept _ now _ _).trans (dropExpired_swept cache now _ _)
  | storeSet set credibility => exact storeSet_swept cache now set credibility
  | storeAbsence name key zoneStart credibility =>
    show (cache.storeAbsence now name key zoneStart credibility).metrics.swept = _
    rw [storeAbsence_eq, settle_swept, dropExpired_swept]
  | lookup name type least => exact lookup_swept cache now name type least
  | sweepName name =>
    show (cache.sweepName now name).2.metrics.swept = _
    rw [sweepName_eq]
  | countSweep removed => exact absurd rfl (other removed)
  | _ => rfl

end

theorem applyAll_swept (cache : Cache) (now : Nat) (changes : List Change)
    (others : ∀ change ∈ changes, ∀ removed, change ≠ .countSweep removed) :
    (Change.applyAll now changes cache).metrics.swept = cache.metrics.swept := by
  induction changes generalizing cache with
  | nil => rfl
  | cons change rest inductionHypothesis =>
    have after := inductionHypothesis (change.apply now cache)
      fun other later => others other (List.mem_cons_of_mem _ later)
    exact after.trans (apply_swept cache now (others change List.mem_cons_self))

namespace Operation

/-- Only whole sweeps are counted. -/
theorem Takes.isSweep {operation : Operation} {removed : Nat}
    (takes : operation.Takes (.countSweep removed)) : operation = .sweep := by
  generalize counts : Change.countSweep removed = change at takes
  cases takes with
  | countSweep removed => rfl
  | ingest message question write asked cacheable written => cases write <;> cases counts
  | _ => cases counts

/-- Operations that are not whole sweeps leave the counter as it is. -/
theorem run_swept (events : List (Nat × Operation)) (cache : Cache)
    (others : ∀ event ∈ events, event.2 ≠ .sweep) :
    (run events cache).metrics.swept = cache.metrics.swept := by
  induction events generalizing cache with
  | nil => rfl
  | cons event rest inductionHypothesis =>
    have after := inductionHypothesis (event.2.apply event.1 cache)
      fun other later => others other (List.mem_cons_of_mem _ later)
    refine after.trans ?_
    rw [event.2.apply_eq]
    refine applyAll_swept cache event.1 _ fun change member removed counts => ?_
    exact others event List.mem_cons_self (counts ▸ takes_of_mem_changes member).isSweep

end Operation

theorem Operation.run_append (first second : List (Nat × Operation)) (cache : Cache) :
    run (first ++ second) cache = run second (run first cache) := List.foldl_append

/-! ### All turns of a cycle -/

namespace Turn

theorem take_snd (turn : Turn) (cache : Cache) :
    (turn.take cache).2 = Operation.run turn.events cache := by
  simp [take, found, events, Operation.run, Operation.apply]

/-- Turns leave what all that happens in them leaves. -/
theorem takeAll_snd (turns : List Turn) (cache : Cache) :
    (takeAll turns cache).2 = Operation.run (turns.flatMap events) cache := by
  induction turns generalizing cache with
  | nil => rfl
  | cons turn rest inductionHypothesis =>
    show (takeAll rest (turn.take cache).2).2 = _
    rw [inductionHypothesis, take_snd, List.flatMap_cons, Operation.run_append]

theorem events_built {turn : Turn} (built : ∀ event ∈ turn.others, event.2.Built) :
    ∀ event ∈ turn.events, event.2.Built := by
  intro event member
  rcases List.mem_append.mp member with others | last
  · exact built event others
  · rw [List.mem_singleton.mp last]
    exact trivial

/-- What turns report is how many entries there are fewer. -/
theorem takeAll_fst {cache : Cache} (reachable : Reachable cache) (turns : List Turn)
    (built : ∀ turn ∈ turns, ∀ event ∈ turn.others, event.2.Built) :
    (takeAll turns cache).1 = dropped turns cache := by
  induction turns generalizing cache with
  | nil => rfl
  | cons turn rest inductionHypothesis =>
    have builtHere := built turn List.mem_cons_self
    have removes := sweepNames_removes (reachable.run turn.others builtHere).tidy turn.now turn.batch
    have after : Reachable (turn.take cache).2 := by
      rw [take_snd]
      exact reachable.run turn.events (events_built builtHere)
    have others := inductionHypothesis after fun other later =>
      built other (List.mem_cons_of_mem _ later)
    show (turn.take cache).1 + (takeAll rest (turn.take cache).2).1 = _ - _ + _
    unfold take found at others ⊢
    omega

/-- Turns that nobody interrupts, at one time, are batches of one sweep. -/
theorem takeAll_still {turns : List Turn} {now : Nat}
    (still : ∀ turn ∈ turns, turn.others = [] ∧ turn.now = now) (cache : Cache) :
    takeAll turns cache = cache.sweepBatches now (turns.map batch) := by
  induction turns generalizing cache with
  | nil => rfl
  | cons turn rest inductionHypothesis =>
    obtain ⟨alone, onTime⟩ := still turn List.mem_cons_self
    have here : turn.take cache = cache.sweepNames now turn.batch := by
      rw [take, found, alone, onTime]
      rfl
    unfold takeAll
    rw [here, List.map_cons, sweepBatches]
    dsimp only
    rw [inductionHypothesis fun other later => still other (List.mem_cons_of_mem _ later)]

end Turn

/-! ### Interrupted cycles -/

namespace Cycle

variable {cache : Cache} {start : Nat} (cycle : Cycle start cache.names)

theorem turn_built {turn : Turn} (member : turn ∈ cycle.turns) :
    ∀ event ∈ turn.others, event.2.Built :=
  fun event other => cycle.built event (List.mem_append_left _ (List.mem_flatMap.mpr
    ⟨turn, member, other⟩))

theorem events_built : ∀ event ∈ cycle.turns.flatMap Turn.events ++ cycle.afterwards,
    event.2.Built := by
  intro event member
  rcases List.mem_append.mp member with inTurn | after
  · obtain ⟨turn, present, happens⟩ := List.mem_flatMap.mp inTurn
    exact Turn.events_built (cycle.turn_built present) event happens
  · exact cycle.built event (List.mem_append_right _ after)

/-- Where nobody else sweeps the whole cache, nothing in a cycle is a sweep of the whole cache. -/
theorem events_notSweep
    (others : ∀ event ∈ cycle.turns.flatMap Turn.others ++ cycle.afterwards, event.2 ≠ .sweep) :
    ∀ event ∈ cycle.turns.flatMap Turn.events ++ cycle.afterwards, event.2 ≠ .sweep := by
  intro event member
  rcases List.mem_append.mp member with inTurn | after
  · obtain ⟨turn, present, happens⟩ := List.mem_flatMap.mp inTurn
    rcases List.mem_append.mp happens with other | last
    · exact others event (List.mem_append_left _ (List.mem_flatMap.mpr ⟨turn, present, other⟩))
    · rw [List.mem_singleton.mp last]
      exact Operation.noConfusion
  · exact others event (List.mem_append_right _ after)

/-- A cache between the turns of a cycle. -/
theorem reachable_between (reachable : Reachable cache) {earlier later : List Turn}
    (split : cycle.turns = earlier ++ later) : Reachable (Turn.takeAll earlier cache).2 := by
  rw [Turn.takeAll_snd]
  refine reachable.run _ fun event member => ?_
  obtain ⟨turn, present, happens⟩ := List.mem_flatMap.mp member
  have inCycle : turn ∈ cycle.turns := split ▸ List.mem_append_left _ present
  exact Turn.events_built (cycle.turn_built inCycle) event happens

/-- The turns of a cycle go through all names of the start. -/
theorem exists_turn {name : Name} {key : EntryKey} {old : Entry}
    (stood : cache.entryAt? name key = some old) :
    ∃ earlier turn later, cycle.turns = earlier ++ turn :: later ∧
      ∃ other ∈ turn.batch, other ≈ name := by
  obtain ⟨slot, found, _⟩ := Option.bind_eq_some_iff.mp stood
  have listed : slot.owner ∈ (batches cache.names).flatten := by
    rw [flatten_batches]
    exact List.mem_map_of_mem (Shelf.mem_of_slot? found)
  rw [← cycle.divided] at listed
  obtain ⟨batch, isBatch, inside⟩ := List.mem_flatten.mp listed
  obtain ⟨turn, member, rfl⟩ := List.mem_map.mp isBatch
  obtain ⟨earlier, later, split⟩ := List.append_of_mem member
  exact ⟨earlier, turn, later, split, slot.owner, inside, Shelf.owner_of_slot? found⟩

/-- What has expired by the start and stands in a place at the end was installed there after the
turn of its name. -/
theorem installed_after_turn (reachable : Reachable cache) {earlier later : List Turn} {turn : Turn}
    (split : cycle.turns = earlier ++ turn :: later) {name : Name} {key : EntryKey} {entry : Entry}
    (named : ∃ other ∈ turn.batch, other ≈ name)
    (stands : (cycle.run cache).2.entryAt? name key = some entry)
    (expired : entry.isExpired start = true) :
    InstalledDuring name key entry (later.flatMap Turn.events ++ cycle.afterwards)
      (turn.take (Turn.takeAll earlier cache).2).2 := by
  have before := cycle.reachable_between reachable split
  have member : turn ∈ cycle.turns := split ▸ List.mem_append_right _ List.mem_cons_self
  have found : Reachable (turn.found (Turn.takeAll earlier cache).2) :=
    before.run turn.others (cycle.turn_built member)
  have swept : Reachable (turn.take (Turn.takeAll earlier cache).2).2 :=
    found.operation turn.now (.sweepNames turn.batch) trivial
  have rest {event : Nat × Operation}
      (happens : event ∈ later.flatMap Turn.events ++ cycle.afterwards) :
      event ∈ cycle.turns.flatMap Turn.events ++ cycle.afterwards := by
    rw [split, List.flatMap_append, List.flatMap_cons]
    rcases List.mem_append.mp happens with inTurn | after
    · exact List.mem_append_left _ (List.mem_append_right _ (List.mem_append_right _ inTurn))
    · exact List.mem_append_right _ after
  have ends : (cycle.run cache).2.shelf =
      (Operation.run (later.flatMap Turn.events ++ cycle.afterwards)
        (turn.take (Turn.takeAll earlier cache).2).2).shelf := by
    show (Operation.run cycle.afterwards (Turn.takeAll cycle.turns cache).2).shelf = _
    rw [Turn.take_snd, Turn.takeAll_snd, Turn.takeAll_snd, split, List.flatMap_append,
      List.flatMap_cons]
    simp only [Operation.run_append]
  rw [entryAt?, ends] at stands
  refine (swept.run_installs _ (fun event happens => cycle.events_built event (rest happens))
    (fun event happens => entry.isExpired_later expired (cycle.notBefore event (rest happens)))
    stands).resolve_left fun stood => ?_
  -- what its turn has left there was alive at that time
  have onTime : start ≤ turn.now := by
    refine cycle.notBefore (turn.now, .sweepNames turn.batch) (List.mem_append_left _ ?_)
    exact List.mem_flatMap.mpr ⟨turn, member, List.mem_append_right _ (List.mem_singleton_self _)⟩
  have visits := sweepNames_visits found.tidy turn.now turn.batch
  have alive := (visits.entries name key).symm.trans stood
  rw [if_pos named] at alive
  have lasts := (live?_eq_some_iff.mp alive).2
  exact absurd (lasts.symm.trans (entry.isExpired_later expired onTime)) Bool.false_ne_true

end Cycle

/-- A cycle is run on the names of a cache, whatever others do between its turns. Of the entries of
its names a turn drops those that have expired by then; it leaves all other entries and the order of
the names. When the cycle ends, what has expired by its start and yet stands in the place of an
entry of the start was installed there after the turn of its name. The report and the counter have
the number of entries that the turns have dropped, and the report has the number of names at the
start. Without interruption and at one time, the cycle is a sweep, and the names that had something
alive are left in their order. -/
theorem cycle_sweeps {cache : Cache} (reachable : Reachable cache) {start : Nat}
    (cycle : Cycle start cache.names) :
    let report := (cycle.run cache).1
    let left := (cycle.run cache).2
    (∀ earlier turn later, cycle.turns = earlier ++ turn :: later →
      let found := turn.found (Turn.takeAll earlier cache).2
      let swept := (turn.take (Turn.takeAll earlier cache).2).2
      (∀ name key, swept.entryAt? name key =
        if ∃ other ∈ turn.batch, other ≈ name then found.live? turn.now name key
        else found.entryAt? name key) ∧
      swept.names.Sublist found.names ∧ swept.limits = found.limits ∧
      swept.metrics = found.metrics) ∧
    (∀ name key old, cache.entryAt? name key = some old →
      ∃ earlier turn later, cycle.turns = earlier ++ turn :: later ∧
        (∃ other ∈ turn.batch, other ≈ name) ∧
        ∀ entry, left.entryAt? name key = some entry → entry.isExpired start = true →
          InstalledDuring name key entry (later.flatMap Turn.events ++ cycle.afterwards)
            (turn.take (Turn.takeAll earlier cache).2).2) ∧
    report.removed = Turn.dropped cycle.turns cache ∧
    ((∀ event ∈ cycle.turns.flatMap Turn.others ++ cycle.afterwards, event.2 ≠ .sweep) →
      left.metrics.swept = cache.metrics.swept + report.removed) ∧
    report.scanned = cache.size ∧ report.size = left.size ∧
    (∀ now, (∀ turn ∈ cycle.turns, turn.others = [] ∧ turn.now = now) → cycle.afterwards = [] →
      let survivors := cache.shelf.filter fun slot => slot.entries.live now ≠ []
      cycle.run cache = cache.sweep now ∧ report.size = survivors.length ∧
        left.names = survivors.map Slot.owner) := by
  intro report left
  refine ⟨?_, ?_, ?_, ?_, ?_, rfl, ?_⟩
  · intro earlier turn later split found swept
    have member : turn ∈ cycle.turns := split ▸ List.mem_append_right _ List.mem_cons_self
    have isReachable : Reachable found := (cycle.reachable_between reachable split).run turn.others
      (cycle.turn_built member)
    have visits : Visits turn.now turn.batch found swept :=
      sweepNames_visits isReachable.tidy turn.now turn.batch
    have shape : swept = { found with shelf := found.shelf.passed turn.now turn.batch } :=
      sweepNames_snd found turn.now turn.batch
    refine ⟨visits.entries, ?_, visits.limits, by rw [shape]⟩
    rw [shape]
    exact Shelf.passed_owners found.shelf turn.now turn.batch
  · intro name key old stood
    obtain ⟨earlier, turn, later, split, named⟩ := cycle.exists_turn stood
    exact ⟨earlier, turn, later, split, named, fun entry stands expired =>
      cycle.installed_after_turn reachable split named stands expired⟩
  · exact Turn.takeAll_fst reachable cycle.turns fun turn member => cycle.turn_built member
  · intro others
    have kept := Operation.run_swept _ cache (cycle.events_notSweep others)
    rw [Operation.run_append, ← Turn.takeAll_snd] at kept
    exact congrArg (· + report.removed) kept
  · exact List.length_map _
  · intro now still alone survivors
    have same : cycle.run cache = cache.sweep now := by
      unfold Cycle.run
      rw [Turn.takeAll_still still, cycle.divided, alone]
      rfl
    have inOrder : left.names = survivors.map Slot.owner := by
      show (cycle.run cache).2.names = _
      rw [same]
      exact sweep_names cache now
    refine ⟨same, ?_, inOrder⟩
    calc
      report.size = left.names.length := (List.length_map _).symm
      _ = survivors.length := by rw [inOrder, List.length_map]

/-- A cache that has two addresses, one of which does not last long. -/
def twoOwners : Cache :=
  Operation.run
    [(1000, .addRecord (Record.address 1 60) .normal),
      (1000, .addRecord { Record.address 1 300 with name := Name.ofOctets [0x67] } .normal)]
    (Cache.new .inet ⟨0, none, 3600⟩)

theorem twoOwners_names : twoOwners.names = [Name.ofOctets [0x67], Name.ofOctets [0x77]] := by
  decide +kernel

/-- A cycle that starts when one address has expired. Before its only turn another is added, and
after it the first is looked up. -/
def interruptedCycle : Cycle 1100 twoOwners.names where
  turns :=
    [⟨[(1101, .addRecord { Record.address 2 300 with name := Name.ofOctets [0x65] } .normal)], 1102,
      [Name.ofOctets [0x67], Name.ofOctets [0x77]]⟩]
  afterwards := [(1103, .lookup (Name.ofOctets [0x77]) .a .normal)]
  divided := by
    rw [twoOwners_names]
    simp [batches, batchSize]
  built := by simp [Operation.Built]
  notBefore := by simp [Turn.events]

theorem twoOwners_reachable : Reachable twoOwners :=
  (Reachable.new _ _).run _ (by simp [Operation.Built])

/-- The address that has expired is dropped and counted, and the two others stay. -/
theorem interruptedCycle_sweeps :
    Reachable twoOwners ∧
      let report := (interruptedCycle.run twoOwners).1
      let left := (interruptedCycle.run twoOwners).2
      report = ⟨Turn.dropped interruptedCycle.turns twoOwners, twoOwners.size, left.size⟩ ∧
        report = ⟨1, 2, 2⟩ ∧ left.metrics.swept = twoOwners.metrics.swept + 1 ∧
        left.entryAt? (Name.ofOctets [0x77]) (.type .a) = none := by
  refine ⟨twoOwners_reachable, ?_⟩
  obtain ⟨_, _, removed, counted, scanned, size, _⟩ :=
    cycle_sweeps twoOwners_reachable interruptedCycle
  intro report left
  have isReport : report = ⟨1, 2, 2⟩ := by decide +kernel
  refine ⟨?_, isReport, ?_, by decide +kernel⟩
  · rw [← removed, ← scanned, ← size]
  · have known := counted (by simp [interruptedCycle])
    rwa [show (interruptedCycle.run twoOwners).1 = ⟨1, 2, 2⟩ from isReport] at known

end StubResolver.Cache
