/-
This file balances the books of a cache. Every entry that was ever installed is still there, or it
has left in one of two ways: counted, because it had expired or because its name had to make room,
or not counted, because it was replaced, displaced, flushed or cleared, or went along with others of
its name. The counters never say that more has left than has come. This is one inequality between
the counters and the number of entries, and a step can only make the difference greater.

An eviction counts a name and not its entries, so that the inequality needs that no name is held
without entries. A sweep is counted when it is over. Between its batches entries have gone that no
counter knows of yet, and the difference has to be at least as great as their number.

Where nothing is replaced, displaced or flushed and no name makes room, the difference is exactly
what unfinished sweeps have dropped.
-/

import StubResolver.Proofs.Cache.Cycle
import StubResolver.Proofs.Cache.Owners

namespace StubResolver.Cache

/-! ### The number of entries -/

namespace Entries

/-- Without the entry under a key there is one entry fewer. -/
theorem length_erase {entries : Entries} (distinct : entries.Distinct) {key : EntryKey}
    {entry : Entry} (found : entries.get? key = some entry) :
    (entries.erase key).length + 1 = entries.length := by
  induction entries with
  | nil => cases found
  | cons slot rest inductionHypothesis =>
    obtain ⟨unique, others⟩ := List.nodup_cons.mp distinct
    rw [get?_cons] at found
    unfold erase at inductionHypothesis ⊢
    by_cases same : slot.1 = key
    · have apart : rest.filter (fun other => other.1 ≠ key) = rest := by
        refine List.filter_eq_self.mpr fun other member => ?_
        refine decide_eq_true fun equal => unique ?_
        exact same ▸ equal ▸ List.mem_map_of_mem member
      rw [List.filter_cons_of_neg (by simpa using same), apart, List.length_cons]
    · rw [if_neg same] at found
      rw [List.filter_cons_of_pos (by simpa using same), List.length_cons, List.length_cons,
        inductionHypothesis others found]

/-- Where no entry stands under a key, there is nothing to be left out. -/
theorem erase_of_get?_none {entries : Entries} {key : EntryKey}
    (absent : entries.get? key = none) : entries.erase key = entries := by
  induction entries with
  | nil => rfl
  | cons slot rest inductionHypothesis =>
    rw [get?_cons] at absent
    unfold erase at inductionHypothesis ⊢
    by_cases same : slot.1 = key
    · rw [if_pos same] at absent
      cases absent
    · rw [if_neg same] at absent
      rw [List.filter_cons_of_pos (by simpa using same), inductionHypothesis absent]

theorem length_erase_le (entries : Entries) (key : EntryKey) :
    (entries.erase key).length ≤ entries.length := List.length_filter_le _ _

end Entries

namespace Shelf

theorem not_owner_of_slot?_none {shelf : Shelf} {name : Name} (absent : shelf.slot? name = none) :
    ∀ slot ∈ shelf, ¬ slot.owner ≈ name := fun slot member => by
  simpa using List.find?_eq_none.mp absent slot member

/-- Dropping a name is leaving it without entries. -/
theorem eraseName_eq_reshape (shelf : Shelf) (name : Name) :
    shelf.eraseName name = shelf.reshape name fun _ => [] := by
  unfold eraseName reshape
  rw [← List.filterMap_eq_filter]
  refine List.filterMap_congr fun slot _ => ?_
  by_cases same : slot.owner ≈ name
  · rw [if_pos same, Option.guard, decide_eq_true same]
    rfl
  · rw [if_neg same, Option.guard, decide_eq_false same]
    rfl

theorem entryCount_eraseName {shelf : Shelf} (tidy : shelf.Tidy) {name : Name} {slot : Slot}
    (found : shelf.slot? name = some slot) :
    (shelf.eraseName name).entryCount + slot.entries.length = shelf.entryCount := by
  rw [eraseName_eq_reshape]
  exact entryCount_reshape tidy found _

theorem eraseName_of_absent {shelf : Shelf} {name : Name} (absent : shelf.slot? name = none) :
    shelf.eraseName name = shelf := by
  rw [eraseName_eq_reshape]
  exact reshape_of_absent (not_owner_of_slot?_none absent) _

theorem entryCount_eraseName_le {shelf : Shelf} (tidy : shelf.Tidy) (name : Name) :
    (shelf.eraseName name).entryCount ≤ shelf.entryCount := by
  cases found : shelf.slot? name with
  | none => exact Nat.le_of_eq (congrArg entryCount (eraseName_of_absent found))
  | some slot => exact entryCount_eraseName tidy found ▸ Nat.le_add_right _ _

/-- Using a name moves its entries, and no entry is lost. -/
theorem entryCount_promote {shelf : Shelf} (tidy : shelf.Tidy) (name : Name) :
    (shelf.promote name).entryCount = shelf.entryCount := by
  unfold promote
  split
  · rename_i slot found
    rw [← entryCount_eraseName tidy found, entryCount, Nat.add_comm]
  · rfl

/-- Without the entry of a name under a key there is one entry fewer. -/
theorem entryCount_eraseEntry {shelf : Shelf} (tidy : shelf.Tidy) {name : Name} {key : EntryKey}
    {entry : Entry} (found : shelf.entryAt? name key = some entry) :
    (shelf.eraseEntry name key).entryCount + 1 = shelf.entryCount := by
  obtain ⟨slot, isSlot, held⟩ := Option.bind_eq_some_iff.mp found
  have reshaped := entryCount_reshape tidy isSlot fun entries => entries.erase key
  have fewer := Entries.length_erase (tidy.keys slot (mem_of_slot? isSlot)) held
  unfold eraseEntry
  omega

theorem entryCount_eraseEntry_le {shelf : Shelf} (tidy : shelf.Tidy) (name : Name)
    (key : EntryKey) : (shelf.eraseEntry name key).entryCount ≤ shelf.entryCount := by
  unfold eraseEntry
  cases found : shelf.slot? name with
  | none => exact Nat.le_of_eq (congrArg entryCount
      (reshape_of_absent (not_owner_of_slot?_none found) _))
  | some slot =>
    have reshaped := entryCount_reshape tidy found fun entries => entries.erase key
    have fewer := slot.entries.length_erase_le key
    omega

theorem entryCount_append (first second : Shelf) :
    entryCount (first ++ second) = entryCount first + entryCount second := by
  induction first with
  | nil => exact (Nat.zero_add _).symm
  | cons slot rest inductionHypothesis =>
    rw [List.cons_append, entryCount, inductionHypothesis, entryCount, Nat.add_assoc]

/-- Where no name is held without entries, there are at least as many entries as names. -/
theorem length_le_entryCount {shelf : Shelf} (filled : ∀ slot ∈ shelf, slot.entries ≠ []) :
    shelf.length ≤ shelf.entryCount := by
  induction shelf with
  | nil => exact Nat.le_refl _
  | cons slot rest inductionHypothesis =>
    have here := List.length_pos_iff.mpr (filled slot List.mem_cons_self)
    have others := inductionHypothesis fun other later => filled other (List.mem_cons_of_mem _ later)
    rw [List.length_cons, entryCount]
    omega

/-- The names that make room take at least one entry each with them. -/
theorem entryCount_take {shelf : Shelf} (filled : ∀ slot ∈ shelf, slot.entries ≠ [])
    (count : Nat) :
    entryCount (shelf.take count) + (shelf.length - count) ≤ shelf.entryCount := by
  have rest : (shelf.drop count).length ≤ entryCount (shelf.drop count) :=
    length_le_entryCount fun slot member => filled slot (List.mem_of_mem_drop member)
  have whole := entryCount_append (shelf.take count) (shelf.drop count)
  rw [List.take_append_drop] at whole
  rw [List.length_drop] at rest
  omega

theorem entryCount_fit {shelf : Shelf} (filled : ∀ slot ∈ shelf, slot.entries ≠ [])
    (capacity : Nat) :
    (shelf.fit capacity).entryCount + (shelf.length - (shelf.fit capacity).length) ≤
      shelf.entryCount := by
  unfold fit
  split
  · omega
  · have taken := entryCount_take filled capacity
    rw [List.length_take]
    omega

/-- Installing an entry makes at most one entry more, and one fewer for the name that makes room. -/
theorem entryCount_install {shelf : Shelf} (tidy : shelf.Tidy) (capacity : Nat) (name : Name)
    (key : EntryKey) (entry : Entry) :
    (shelf.install capacity name key entry).entryCount + shelf.pushedOut capacity name ≤
      shelf.entryCount + 1 := by
  unfold install pushedOut
  cases found : shelf.slot? name with
  | some slot =>
    have others := entryCount_eraseName tidy found
    have fewer := slot.entries.length_erase_le key
    simp only [entryCount, Entries.put, List.length_cons]
    omega
  | none =>
    have filled : ∀ other ∈ (⟨name, [(key, entry)]⟩ :: shelf : Shelf), other.entries ≠ [] := by
      intro other member
      rcases List.mem_cons.mp member with rfl | later
      · exact List.cons_ne_nil _ _
      · exact tidy.filled other later
    have room := entryCount_fit filled capacity
    unfold fit at room ⊢
    simp only [entryCount, List.length_cons, List.length_nil] at room ⊢
    split at room
    · rename_i unbounded
      rw [if_pos unbounded, if_neg (fun full => full.1 unbounded)]
      simp only [entryCount, List.length_cons, List.length_nil]
      omega
    · rename_i bounded
      rw [if_neg bounded]
      rw [List.length_take, List.length_cons] at room
      split <;> omega

/-- Where there is room for all names, installing an entry in a free place makes one more. -/
theorem entryCount_install_of_free {shelf : Shelf} (tidy : shelf.Tidy) {name : Name}
    {key : EntryKey} (free : shelf.entryAt? name key = none) (entry : Entry) :
    (shelf.install 0 name key entry).entryCount = shelf.entryCount + 1 := by
  unfold install
  cases found : shelf.slot? name with
  | some slot =>
    have none : slot.entries.get? key = none := by
      unfold entryAt? at free
      rwa [found] at free
    have others := entryCount_eraseName tidy found
    simp only [entryCount, Entries.put, List.length_cons, Entries.erase_of_get?_none none]
    omega
  | none =>
    simp only [fit, entryCount, List.length_cons, List.length_nil, if_true]
    omega

theorem pushedOut_unbounded (shelf : Shelf) (name : Name) : shelf.pushedOut 0 name = 0 := by
  unfold pushedOut
  split <;> rfl

end Shelf

/-! ### The books -/

/-- The number of lookups that were counted. -/
def Metrics.lookups (metrics : Metrics) : Nat := metrics.hits + metrics.misses

/-- What was counted as having left: entries that had expired, and names that had to make room. -/
def Metrics.departures (metrics : Metrics) : Nat :=
  metrics.lazyDeletions + metrics.swept + metrics.capacityEvictions

/-- How many entries were installed that are not there and were not counted as having left. -/
def unaccounted (cache : Cache) : Int :=
  cache.metrics.insertions - (cache.entryCount + cache.metrics.departures)

/-- What happened on the way from one cache to another was entered: so many lookups were counted,
and nothing was counted as having left that did not leave. -/
structure Accounts (lookups : Nat) (before after : Cache) : Prop where
  lookups : after.metrics.lookups = before.metrics.lookups + lookups
  unaccounted : before.unaccounted ≤ after.unaccounted

/-- Everything that happened on the way from one cache to another was entered: whatever has left was
counted, and no name had to make room. -/
structure Balances (lookups : Nat) (before after : Cache) : Prop where
  lookups : after.metrics.lookups = before.metrics.lookups + lookups
  evictions : after.metrics.capacityEvictions = before.metrics.capacityEvictions
  unaccounted : after.unaccounted = before.unaccounted

theorem Balances.accounts {lookups : Nat} {before after : Cache}
    (balances : Balances lookups before after) : Accounts lookups before after :=
  ⟨balances.lookups, Int.le_of_eq balances.unaccounted.symm⟩

theorem Accounts.refl (cache : Cache) : Accounts 0 cache cache := ⟨rfl, Int.le_refl _⟩

theorem Balances.refl (cache : Cache) : Balances 0 cache cache := ⟨rfl, rfl, rfl⟩

section

variable {first second : Nat} {before middle after : Cache}

theorem Accounts.trans (one : Accounts first before middle) (two : Accounts second middle after) :
    Accounts (first + second) before after :=
  ⟨by rw [two.lookups, one.lookups, Nat.add_assoc], Int.le_trans one.unaccounted two.unaccounted⟩

theorem Balances.trans (one : Balances first before middle) (two : Balances second middle after) :
    Balances (first + second) before after :=
  ⟨by rw [two.lookups, one.lookups, Nat.add_assoc], two.evictions.trans one.evictions,
    two.unaccounted.trans one.unaccounted⟩

end

variable {cache : Cache}

/-- Entries can go without being counted. -/
theorem accounts_of_entryCount_le {shelf : Shelf} {limits : CacheLimits}
    (fewer : shelf.entryCount ≤ cache.shelf.entryCount) :
    Accounts 0 cache { cache with shelf := shelf, limits := limits } := by
  refine ⟨rfl, ?_⟩
  simp only [unaccounted, entryCount]
  omega

/-! ### Steps -/

theorem dropExpired_balances (tidy : cache.shelf.Tidy) (now : Nat) (name : Name) (key : EntryKey) :
    Balances 0 cache (cache.dropExpired now name key) := by
  unfold dropExpired
  split
  · rename_i entry found
    split
    · refine ⟨rfl, rfl, ?_⟩
      have fewer := Shelf.entryCount_eraseEntry tidy found
      simp only [unaccounted, Metrics.departures, entryCount]
      omega
    · exact .refl cache
  · exact .refl cache

theorem displace_accounts (tidy : cache.shelf.Tidy) (name : Name) (key : EntryKey)
    (credibility : Credibility) : Accounts 0 cache (cache.displace name key credibility) := by
  unfold displace
  split
  · split
    · exact accounts_of_entryCount_le (Shelf.entryCount_eraseEntry_le tidy name key)
    · exact .refl cache
  · exact .refl cache

theorem displace_of_free {name : Name} {key : EntryKey} (free : cache.entryAt? name key = none)
    (credibility : Credibility) : cache.displace name key credibility = cache := by
  unfold displace
  rw [free]

theorem install_accounts (tidy : cache.shelf.Tidy) (name : Name) (key : EntryKey) (entry : Entry) :
    Accounts 0 cache (cache.install name key entry) := by
  refine ⟨rfl, ?_⟩
  have more := Shelf.entryCount_install tidy cache.limits.capacity name key entry
  simp only [install, unaccounted, Metrics.departures, entryCount]
  omega

theorem install_balances (tidy : cache.shelf.Tidy) (unbounded : cache.limits.capacity = 0)
    {name : Name} {key : EntryKey} (free : cache.entryAt? name key = none) (entry : Entry) :
    Balances 0 cache (cache.install name key entry) := by
  have more := Shelf.entryCount_install_of_free tidy free entry
  refine ⟨rfl, ?_, ?_⟩
  · simp only [install, unbounded, Shelf.pushedOut_unbounded, Nat.add_zero]
  · simp only [install, unaccounted, Metrics.departures, entryCount, unbounded, more,
      Shelf.pushedOut_unbounded]
    omega

theorem settle_accounts (tidy : cache.shelf.Tidy) (name : Name) (key : EntryKey)
    (credibility : Credibility) (fresh : Option Entry) :
    Accounts 0 cache (cache.settle name key credibility fresh) := by
  unfold settle
  cases fresh with
  | none => exact displace_accounts tidy name key credibility
  | some entry =>
    dsimp only
    split
    · exact .refl cache
    · exact install_accounts tidy name key entry

theorem settle_balances (tidy : cache.shelf.Tidy) (unbounded : cache.limits.capacity = 0)
    {name : Name} {key : EntryKey} (free : cache.entryAt? name key = none)
    (credibility : Credibility) (fresh : Option Entry) :
    Balances 0 cache (cache.settle name key credibility fresh) := by
  unfold settle
  cases fresh with
  | none =>
    dsimp only
    rw [displace_of_free free]
    exact .refl cache
  | some entry =>
    dsimp only
    split
    · exact .refl cache
    · exact install_balances tidy unbounded free entry

/-- What is added to a place, once what has expired there is gone. -/
theorem dropExpired_settle_accounts (tidy : cache.shelf.Tidy) (now : Nat) (name : Name)
    (key : EntryKey) (credibility : Credibility) (fresh : Option Entry) :
    Accounts 0 cache ((cache.dropExpired now name key).settle name key credibility fresh) :=
  (dropExpired_balances tidy now name key).accounts.trans
    (settle_accounts (dropExpired_settles tidy now name key).tidy name key credibility fresh)

theorem dropExpired_settle_balances (tidy : cache.shelf.Tidy)
    (unbounded : cache.limits.capacity = 0) {now : Nat} {name : Name} {key : EntryKey}
    (free : cache.live? now name key = none) (credibility : Credibility) (fresh : Option Entry) :
    Balances 0 cache ((cache.dropExpired now name key).settle name key credibility fresh) := by
  have dropped := dropExpired_settles tidy now name key
  have nothing := (dropped.there name (Setoid.refl name)).trans free
  exact (dropExpired_balances tidy now name key).trans
    (settle_balances dropped.tidy (dropped.limits ▸ unbounded) nothing credibility fresh)

theorem storeSet_accounts (tidy : cache.shelf.Tidy) (now : Nat) (set : RRset)
    (credibility : Credibility) : Accounts 0 cache (cache.storeSet now set credibility) := by
  rw [storeSet_eq]
  exact dropExpired_settle_accounts tidy now _ _ credibility _

theorem storeSet_balances (tidy : cache.shelf.Tidy) (unbounded : cache.limits.capacity = 0)
    {now : Nat} {set : RRset} (free : cache.live? now set.name (.type set.type) = none)
    (credibility : Credibility) : Balances 0 cache (cache.storeSet now set credibility) := by
  rw [storeSet_eq]
  exact dropExpired_settle_balances tidy unbounded free credibility _

/-- A record that joins an entry changes the entry, and makes none. -/
theorem joinSet_balances (tidy : cache.shelf.Tidy) (name : Name) (key : EntryKey)
    (record : Record) : Balances 0 cache (cache.joinSet name key record) := by
  refine ⟨rfl, rfl, ?_⟩
  rw [joinSet_eq]
  simp only [unaccounted, entryCount]
  cases found : cache.shelf.slot? name with
  | none => rw [Shelf.reshape_of_absent (Shelf.not_owner_of_slot?_none found)]
  | some slot =>
    have reshaped := Shelf.entryCount_reshape tidy found fun entries => entries.map fun slot =>
      if slot.1 = key then (slot.1, slot.2.joined record) else slot
    rw [List.length_map] at reshaped
    omega

theorem addToStanding_accounts (tidy : cache.shelf.Tidy) (now : Nat) (record : Record)
    (credibility : Credibility) : Accounts 0 cache (cache.addToStanding now record credibility) := by
  unfold addToStanding
  split
  · split
    · exact .refl cache
    · split
      · exact (joinSet_balances tidy _ _ _).accounts
      · exact storeSet_accounts tidy now _ _
  · exact storeSet_accounts tidy now _ _

theorem addToStanding_balances (tidy : cache.shelf.Tidy) (unbounded : cache.limits.capacity = 0)
    (now : Nat) {record : Record}
    (free : cache.entryAt? record.name (.type record.setType) = none) (credibility : Credibility) :
    Balances 0 cache (cache.addToStanding now record credibility) := by
  unfold addToStanding
  rw [free]
  refine storeSet_balances tidy unbounded ?_ credibility
  rw [RRset.ofRecord_name, RRset.ofRecord_type, live?, free]
  rfl

theorem apply_addRecord_eq {record : Record} (cacheable : record.setType.isMeta = false) (now : Nat)
    (credibility : Credibility) (cache : Cache) :
    (Change.addRecord record credibility).apply now cache =
      (cache.dropExpired now (kept record).name (.type (kept record).setType)).addToStanding now
        (kept record) credibility := by
  show ((cache.addRecord now record credibility).toOption).getD cache = _
  rw [addRecord_eq cache now record credibility cacheable]
  rfl

theorem addRecord_accounts (tidy : cache.shelf.Tidy) (now : Nat) (record : Record)
    (credibility : Credibility) :
    Accounts 0 cache ((Change.addRecord record credibility).apply now cache) := by
  cases isMeta : record.setType.isMeta with
  | true =>
    rw [refuse_addRecord isMeta]
    exact .refl cache
  | false =>
    rw [apply_addRecord_eq isMeta]
    have dropped := dropExpired_settles tidy now (kept record).name (.type (kept record).setType)
    exact (dropExpired_balances tidy now _ _).accounts.trans
      (addToStanding_accounts dropped.tidy now (kept record) credibility)

theorem addRecord_balances (tidy : cache.shelf.Tidy) (unbounded : cache.limits.capacity = 0)
    {now : Nat} {record : Record}
    (free : cache.live? now (kept record).name (.type (kept record).setType) = none)
    (credibility : Credibility) :
    Balances 0 cache ((Change.addRecord record credibility).apply now cache) := by
  cases isMeta : record.setType.isMeta with
  | true =>
    rw [refuse_addRecord isMeta]
    exact .refl cache
  | false =>
    rw [apply_addRecord_eq isMeta]
    have dropped := dropExpired_settles tidy now (kept record).name (.type (kept record).setType)
    have nothing := (dropped.there _ (Setoid.refl _)).trans free
    exact (dropExpired_balances tidy now _ _).trans
      (addToStanding_balances dropped.tidy (dropped.limits ▸ unbounded) now nothing credibility)

/-- Visiting a name counts what it drops there. -/
theorem visit_balances (tidy : cache.shelf.Tidy) (now : Nat) (name : Name) :
    Balances 0 cache (cache.visit now name).1 := by
  unfold visit
  split
  · rename_i slot found
    refine ⟨rfl, rfl, ?_⟩
    have fewer := Shelf.entryCount_reshape_live tidy now found
    simp only [unaccounted, Metrics.departures, entryCount]
    omega
  · exact .refl cache

theorem searchAncestors_balances (tidy : cache.shelf.Tidy) (now : Nat) (least : Credibility)
    (names : List Name) : Balances 0 cache (cache.searchAncestors now least names).2 := by
  induction names generalizing cache with
  | nil => exact .refl cache
  | cons name rest inductionHypothesis =>
    have visited := visit_balances tidy now name
    unfold searchAncestors
    dsimp only
    split
    · exact visited
    · exact visited.trans (inductionHypothesis (visit_visits tidy now name).tidy)

theorem search_balances (tidy : cache.shelf.Tidy) (now : Nat) (name : Name) (type : RecordType)
    (least : Credibility) : Balances 0 cache (cache.search now name type least).2 := by
  have used : Balances 0 cache { cache with shelf := cache.shelf.promote name } := by
    refine ⟨rfl, rfl, ?_⟩
    simp only [unaccounted, entryCount, Shelf.entryCount_promote tidy]
  have usedTidy : ({ cache with shelf := cache.shelf.promote name } : Cache).shelf.Tidy :=
    tidy.promote name
  have visited := used.trans (visit_balances usedTidy now name)
  unfold search
  dsimp only
  split
  · exact visited
  · exact visited.trans
      (searchAncestors_balances (visit_visits usedTidy now name).tidy now least _)

/-- A lookup is counted once, whether it finds something or not. -/
theorem lookup_balances (tidy : cache.shelf.Tidy) (now : Nat) (name : Name) (type : RecordType)
    (least : Credibility) : Balances 1 cache (cache.lookup now name type least).2 := by
  have counted (searched : Cache) (outcome : Outcome) : Balances 1 searched
      { searched with metrics := searched.metrics.countLookup outcome } := by
    unfold Metrics.countLookup
    split
    · exact ⟨(Nat.add_assoc _ _ _).symm, rfl, rfl⟩
    · exact ⟨Nat.add_right_comm _ _ _, rfl, rfl⟩
  exact (search_balances tidy now name.toAbsolute type least).trans (counted _ _)

theorem setCapacity_accounts (tidy : cache.shelf.Tidy) (capacity : Nat) :
    Accounts 0 cache (cache.setCapacity capacity) := by
  refine ⟨rfl, ?_⟩
  have fewer := Shelf.entryCount_fit tidy.filled capacity
  simp only [setCapacity, unaccounted, Metrics.departures, entryCount]
  omega

/-- Sweeping a name leaves as many entries unaccounted for as it reports. -/
theorem sweepNames_unaccounted (tidy : cache.shelf.Tidy) (now : Nat) (names : List Name) :
    (cache.sweepNames now names).2.unaccounted =
      cache.unaccounted + (cache.sweepNames now names).1 := by
  have removes := sweepNames_removes tidy now names
  have metrics : (cache.sweepNames now names).2.metrics = cache.metrics := by
    rw [sweepNames_snd]
  rw [unaccounted, unaccounted, metrics]
  omega

/-- The number of lookups that a step is. -/
def Change.lookups : Change → Nat
  | lookup _ _ _ => 1
  | _ => 0

/-- No step counts as having left what did not leave, except that a sweep is counted when it is
over. -/
theorem apply_accounts (tidy : cache.shelf.Tidy) (now : Nat) {change : Change}
    (other : ∀ removed, change ≠ .countSweep removed) :
    Accounts change.lookups cache (change.apply now cache) := by
  cases change with
  | addRecord record credibility => exact addRecord_accounts tidy now record credibility
  | storeSet set credibility => exact storeSet_accounts tidy now set credibility
  | storeAbsence name key zoneStart credibility =>
    show Accounts 0 cache (cache.storeAbsence now name key zoneStart credibility)
    rw [storeAbsence_eq]
    exact dropExpired_settle_accounts tidy now name key credibility _
  | lookup name type least => exact (lookup_balances tidy now name type least).accounts
  | sweepName name =>
    have swept := sweepNames_unaccounted tidy now [name]
    refine ⟨?_, ?_⟩
    · show (cache.sweepName now name).2.metrics.lookups = _
      rw [sweepName_eq]
      rfl
    · show cache.unaccounted ≤ (cache.sweepNames now [name]).2.unaccounted
      omega
  | countSweep removed => exact absurd rfl (other removed)
  | flushName name =>
    exact accounts_of_entryCount_le (Shelf.entryCount_eraseName_le tidy name.toAbsolute)
  | flushEntry name key =>
    exact accounts_of_entryCount_le (Shelf.entryCount_eraseEntry_le tidy name.toAbsolute key)
  | clear => exact accounts_of_entryCount_le (Nat.zero_le _)
  | setCapacity capacity => exact setCapacity_accounts tidy capacity
  | setLongestPositive longest => exact accounts_of_entryCount_le (Nat.le_refl _)
  | setLongestNegative longest => exact accounts_of_entryCount_le (Nat.le_refl _)

/-- A step that takes the place of nothing that is alive: a lookup, or an addition to a place where
nothing is. -/
def Change.Spares (now : Nat) (cache : Cache) : Change → Prop
  | addRecord record _ => cache.live? now (kept record).name (.type (kept record).setType) = none
  | storeSet set _ => cache.live? now set.name (.type set.type) = none
  | storeAbsence name key _ _ => cache.live? now name key = none
  | lookup _ _ _ => True
  | _ => False

theorem Change.Spares.keepsLimits {now : Nat} {change : Change} (spares : change.Spares now cache) :
    change.KeepsLimits := by
  cases change <;> first | exact trivial | exact spares

/-- Where there is room for all names, such steps leave nothing unaccounted for. -/
theorem apply_balances (tidy : cache.shelf.Tidy) (unbounded : cache.limits.capacity = 0)
    {now : Nat} {change : Change} (spares : change.Spares now cache) :
    Balances change.lookups cache (change.apply now cache) := by
  cases change with
  | addRecord record credibility => exact addRecord_balances tidy unbounded spares credibility
  | storeSet set credibility => exact storeSet_balances tidy unbounded spares credibility
  | storeAbsence name key zoneStart credibility =>
    show Balances 0 cache (cache.storeAbsence now name key zoneStart credibility)
    rw [storeAbsence_eq]
    exact dropExpired_settle_balances tidy unbounded spares credibility _
  | lookup name type least => exact lookup_balances tidy now name type least
  | _ => exact spares.elim

/-! ### Operations -/

/-- All steps of a list, taken one after the other, spare what is alive. -/
def Change.SpareAll (now : Nat) : List Change → Cache → Prop
  | [], _ => True
  | change :: rest, cache => change.Spares now cache ∧ SpareAll now rest (change.apply now cache)

/-- An operation that takes the place of nothing that is alive: a lookup, a whole sweep, or an
addition to places where nothing is. -/
def Operation.Spares (now : Nat) (cache : Cache) : Operation → Prop
  | .sweep => True
  | operation => Change.SpareAll now (operation.changes now cache) cache

/-- The number of lookups that an operation is. -/
def Operation.lookups : Operation → Nat
  | lookup _ _ _ => 1
  | _ => 0

theorem Operation.Takes.lookups {operation : Operation} {change : Change}
    (takes : operation.Takes change) : change.lookups = operation.lookups := by
  cases takes with
  | ingest message question write asked cacheable written => cases write <;> rfl
  | _ => rfl

theorem applyAll_accounts (tidy : cache.shelf.Tidy) (now : Nat) (changes : List Change)
    (others : ∀ change ∈ changes, change.lookups = 0 ∧ ∀ removed, change ≠ .countSweep removed) :
    Accounts 0 cache (Change.applyAll now changes cache) := by
  induction changes generalizing cache with
  | nil => exact .refl cache
  | cons change rest inductionHypothesis =>
    obtain ⟨noLookup, noCount⟩ := others change List.mem_cons_self
    have first := apply_accounts tidy now noCount
    rw [noLookup] at first
    exact first.trans (inductionHypothesis (apply_steps tidy now change).tidy
      fun other later => others other (List.mem_cons_of_mem _ later))

theorem applyAll_balances (tidy : cache.shelf.Tidy) (unbounded : cache.limits.capacity = 0)
    {now : Nat} {changes : List Change} (spare : Change.SpareAll now changes cache)
    (others : ∀ change ∈ changes, change.lookups = 0) :
    Balances 0 cache (Change.applyAll now changes cache) := by
  induction changes generalizing cache with
  | nil => exact .refl cache
  | cons change rest inductionHypothesis =>
    obtain ⟨spares, restSpare⟩ := spare
    have first := apply_balances tidy unbounded spares
    rw [others change List.mem_cons_self] at first
    have limits := spares.keepsLimits.limits tidy now
    exact first.trans (inductionHypothesis (apply_steps tidy now change).tidy
      (limits ▸ unbounded) restSpare fun other later => others other (List.mem_cons_of_mem _ later))

theorem sweepBatches_removes (tidy : cache.shelf.Tidy) (now : Nat) (batches : List (List Name)) :
    (cache.sweepBatches now batches).1 + (cache.sweepBatches now batches).2.entryCount =
      cache.entryCount := by
  induction batches generalizing cache with
  | nil => exact Nat.zero_add _
  | cons batch rest inductionHypothesis =>
    have first := sweepNames_removes tidy now batch
    have others := inductionHypothesis (sweepNames_visits tidy now batch).tidy
    show (cache.sweepNames now batch).1 + ((cache.sweepNames now batch).2.sweepBatches now rest).1 +
      ((cache.sweepNames now batch).2.sweepBatches now rest).2.entryCount = _
    omega

theorem sweepBatches_metrics (cache : Cache) (now : Nat) (batches : List (List Name)) :
    (cache.sweepBatches now batches).2.metrics = cache.metrics := by
  induction batches generalizing cache with
  | nil => rfl
  | cons batch rest inductionHypothesis =>
    show ((cache.sweepNames now batch).2.sweepBatches now rest).2.metrics = _
    rw [inductionHypothesis, sweepNames_snd]

/-- A sweep that nobody interrupts counts all that it drops. -/
theorem sweep_balances (tidy : cache.shelf.Tidy) (now : Nat) :
    Balances 0 cache (cache.sweep now).2 := by
  have removes := sweepBatches_removes tidy now (batches cache.names)
  have metrics := sweepBatches_metrics cache now (batches cache.names)
  refine ⟨?_, ?_, ?_⟩
  · show (cache.sweepBatches now (batches cache.names)).2.metrics.lookups = _
    rw [metrics]
    rfl
  · show (cache.sweepBatches now (batches cache.names)).2.metrics.capacityEvictions = _
    rw [metrics]
  · simp only [sweep, countSweep, unaccounted, Metrics.departures, entryCount, metrics]
      at removes ⊢
    omega

theorem Operation.apply_accounts (tidy : cache.shelf.Tidy) (now : Nat) (operation : Operation) :
    Accounts operation.lookups cache (operation.apply now cache) := by
  by_cases whole : operation = .sweep
  · rw [whole]
    exact (sweep_balances tidy now).accounts
  · by_cases looks : operation.lookups = 0
    · rw [operation.apply_eq, looks]
      refine applyAll_accounts tidy now _ fun change member => ?_
      have takes := takes_of_mem_changes member
      exact ⟨takes.lookups.trans looks, fun removed counts => whole (counts ▸ takes).isSweep⟩
    · cases operation with
      | lookup name type least => exact (lookup_balances tidy now name type least).accounts
      | _ => exact absurd rfl looks

theorem Operation.apply_balances (tidy : cache.shelf.Tidy) (unbounded : cache.limits.capacity = 0)
    {now : Nat} {operation : Operation} (spares : operation.Spares now cache) :
    Balances operation.lookups cache (operation.apply now cache) := by
  by_cases whole : operation = .sweep
  · rw [whole]
    exact sweep_balances tidy now
  · by_cases looks : operation.lookups = 0
    · have spareAll : Change.SpareAll now (operation.changes now cache) cache := by
        cases operation <;> first | exact spares | exact absurd rfl whole
      rw [operation.apply_eq, looks]
      exact applyAll_balances tidy unbounded spareAll fun change member =>
        (takes_of_mem_changes member).lookups.trans looks
    · cases operation with
      | lookup name type least => exact lookup_balances tidy now name type least
      | _ => exact absurd rfl looks

/-- Such an operation changes no limit. -/
theorem Operation.Spares.keepsLimits {now : Nat} {operation : Operation}
    (spares : operation.Spares now cache) : operation.KeepsLimits := by
  cases operation <;> first | exact trivial | exact spares.1.elim

/-! ### Runs -/

/-- What happens to a cache: an operation, or a part of a sweep that others interrupt. -/
inductive Happening where
  | operation (now : Nat) (operation : Operation)
  /-- A sweep goes through some of its names. -/
  | batch (now : Nat) (names : List Name)
  /-- A sweep is over, and enters what its batches have dropped. -/
  | conclude (removed : Nat)

/-- Whether a lookup is made. -/
def Happening.isLookup : Happening → Bool
  | operation _ (.lookup _ _ _) => true
  | _ => false

/-- A cache with what unfinished sweeps have dropped from it. -/
structure Books where
  cache : Cache
  uncounted : Nat

namespace Books

/-- The books of a new cache. -/
def new (recordClass : RecordClass) (limits : CacheLimits) : Books :=
  ⟨Cache.new recordClass limits, 0⟩

/-- The books after something has happened. Any number of sweeps may be under way; whichever is over
enters no more than what all of them have dropped. -/
def after (books : Books) : Happening → Books
  | .operation now operation => { books with cache := operation.apply now books.cache }
  | .batch now names =>
    let (removed, swept) := books.cache.sweepNames now names
    ⟨swept, books.uncounted + removed⟩
  | .conclude removed =>
    let entered := min removed books.uncounted
    ⟨books.cache.countSweep entered, books.uncounted - entered⟩

/-- The books after all that has happened. -/
def run (happenings : List Happening) (books : Books) : Books := happenings.foldl after books

/-- What happens takes the place of nothing that is alive. -/
def Spared (books : Books) : Happening → Prop
  | .operation now operation => operation.Spares now books.cache
  | _ => True

/-- All that happens, one thing after the other, takes the place of nothing that is alive. -/
def AllSpared : List Happening → Books → Prop
  | [], _ => True
  | happening :: rest, books => books.Spared happening ∧ AllSpared rest (books.after happening)

variable {books : Books}

theorem after_tidy (tidy : books.cache.shelf.Tidy) (happening : Happening) :
    (books.after happening).cache.shelf.Tidy := by
  cases happening with
  | operation now operation => exact operation.apply_tidy tidy now
  | batch now names => exact (sweepNames_visits tidy now names).tidy
  | conclude removed => exact tidy

/-- Lookups are counted one by one. -/
theorem after_lookups (tidy : books.cache.shelf.Tidy) (happening : Happening) :
    (books.after happening).cache.metrics.lookups =
      books.cache.metrics.lookups + if happening.isLookup then 1 else 0 := by
  cases happening with
  | operation now operation =>
    have accounts := operation.apply_accounts tidy now
    refine accounts.lookups.trans (congrArg _ ?_)
    cases operation <;> rfl
  | batch now names =>
    show (books.cache.sweepNames now names).2.metrics.lookups = _
    rw [sweepNames_snd]
    rfl
  | conclude removed => rfl

/-- What unfinished sweeps have dropped is the least that is unaccounted for. -/
theorem after_covered (tidy : books.cache.shelf.Tidy)
    (covered : books.uncounted ≤ books.cache.unaccounted) (happening : Happening) :
    (books.after happening).uncounted ≤ (books.after happening).cache.unaccounted := by
  cases happening with
  | operation now operation =>
    exact Int.le_trans covered (operation.apply_accounts tidy now).unaccounted
  | batch now names =>
    have swept := sweepNames_unaccounted tidy now names
    show ((books.uncounted + (books.cache.sweepNames now names).1 : Nat) : Int) ≤
      (books.cache.sweepNames now names).2.unaccounted
    omega
  | conclude removed =>
    simp only [after, countSweep, unaccounted, Metrics.departures, entryCount] at covered ⊢
    omega

/-- What unfinished sweeps have dropped is all that is unaccounted for, and no name had to make room.
-/
structure Balanced (books : Books) : Prop where
  evictions : books.cache.metrics.capacityEvictions = 0
  unaccounted : books.cache.unaccounted = books.uncounted

/-- It remains so if nothing alive loses its place. -/
theorem Balanced.after (balanced : books.Balanced) (tidy : books.cache.shelf.Tidy)
    (unbounded : books.cache.limits.capacity = 0) {happening : Happening}
    (spared : books.Spared happening) : (books.after happening).Balanced := by
  obtain ⟨evictions, unaccounted⟩ := balanced
  cases happening with
  | operation now operation =>
    have balances := Operation.apply_balances tidy unbounded spared
    exact ⟨balances.evictions.trans evictions, balances.unaccounted.trans unaccounted⟩
  | batch now names =>
    have swept := sweepNames_unaccounted tidy now names
    constructor
    · show (books.cache.sweepNames now names).2.metrics.capacityEvictions = 0
      rw [sweepNames_snd]
      exact evictions
    · show (books.cache.sweepNames now names).2.unaccounted =
        ((books.uncounted + (books.cache.sweepNames now names).1 : Nat) : Int)
      omega
  | conclude removed =>
    refine ⟨evictions, ?_⟩
    simp only [Books.after, countSweep, Cache.unaccounted, Metrics.departures, entryCount]
      at unaccounted ⊢
    omega

theorem after_limits (tidy : books.cache.shelf.Tidy) {happening : Happening}
    (spared : books.Spared happening) :
    (books.after happening).cache.limits = books.cache.limits := by
  cases happening with
  | operation now operation => exact (Operation.Spares.keepsLimits spared).limits tidy now
  | batch now names => exact (sweepNames_visits tidy now names).limits
  | conclude removed => rfl

theorem run_lookups (tidy : books.cache.shelf.Tidy) (happenings : List Happening) :
    (run happenings books).cache.metrics.lookups =
      books.cache.metrics.lookups + happenings.countP Happening.isLookup := by
  induction happenings generalizing books with
  | nil => rfl
  | cons happening rest inductionHypothesis =>
    have others := inductionHypothesis (after_tidy tidy happening)
    have first := after_lookups tidy happening
    rw [List.countP_cons]
    show (run rest (books.after happening)).cache.metrics.lookups = _
    omega

theorem run_covered (tidy : books.cache.shelf.Tidy)
    (covered : books.uncounted ≤ books.cache.unaccounted) (happenings : List Happening) :
    (run happenings books).uncounted ≤ (run happenings books).cache.unaccounted := by
  induction happenings generalizing books with
  | nil => exact covered
  | cons happening rest inductionHypothesis =>
    exact inductionHypothesis (after_tidy tidy happening) (after_covered tidy covered happening)

theorem Balanced.run (balanced : books.Balanced) (tidy : books.cache.shelf.Tidy)
    (unbounded : books.cache.limits.capacity = 0) {happenings : List Happening}
    (spared : AllSpared happenings books) : (run happenings books).Balanced := by
  induction happenings generalizing books with
  | nil => exact balanced
  | cons happening rest inductionHypothesis =>
    obtain ⟨first, others⟩ := spared
    exact inductionHypothesis (balanced.after tidy unbounded first) (after_tidy tidy happening)
      (after_limits tidy first ▸ unbounded) others

theorem new_balanced (recordClass : RecordClass) (limits : CacheLimits) :
    (new recordClass limits).Balanced := ⟨rfl, rfl⟩

end Books

/-- Whatever happens to a new cache, in whatever order and at whatever times, and whether or not
sweeps are interrupted: what is there and what was counted as having left, together with what
unfinished sweeps have dropped, is never more than what was installed, and hits and misses are the
lookups that were made. Where there is room for all names and nothing alive loses its place, all
that was installed is there, was counted as expired, or was dropped by an unfinished sweep. -/
theorem run_accounts (recordClass : RecordClass) (limits : CacheLimits)
    (happenings : List Happening) :
    let books := Books.run happenings (Books.new recordClass limits)
    let metrics := books.cache.metrics
    books.cache.entryCount + metrics.lazyDeletions + metrics.swept + metrics.capacityEvictions +
        books.uncounted ≤ metrics.insertions ∧
      metrics.hits + metrics.misses = happenings.countP Happening.isLookup ∧
      (limits.capacity = 0 → Books.AllSpared happenings (Books.new recordClass limits) →
        metrics.insertions =
          books.cache.entryCount + metrics.lazyDeletions + metrics.swept + books.uncounted) := by
  intro books metrics
  have tidy : (Books.new recordClass limits).cache.shelf.Tidy := Shelf.Tidy.nil
  have balanced := Books.new_balanced recordClass limits
  have lookups := Books.run_lookups tidy happenings
  have covered : (books.uncounted : Int) ≤
      metrics.insertions - (books.cache.entryCount + metrics.departures) :=
    Books.run_covered tidy (Int.le_of_eq balanced.unaccounted.symm) happenings
  unfold Metrics.departures at covered
  refine ⟨by omega, lookups.trans (Nat.zero_add _), fun unbounded spared => ?_⟩
  have last := balanced.run tidy unbounded spared
  have noEvictions : metrics.capacityEvictions = 0 := last.evictions
  have exactly : metrics.insertions - (books.cache.entryCount + metrics.departures) =
      (books.uncounted : Int) := last.unaccounted
  unfold Metrics.departures at exactly
  omega

/-- What happens around a sweep that is interrupted: an address expires and is added again between
two batches, and looked up. -/
def interruptedSweep : List Happening :=
  [.operation 1000 (.addRecord (Record.address 1 60) .normal),
    .operation 1000 (.addRecord { Record.address 1 60 with name := Name.ofOctets [0x67] } .normal),
    .batch 1100 [Name.ofOctets [0x77]],
    .operation 1101 (.addRecord (Record.address 2 300) .normal),
    .operation 1102 (.lookup (Name.ofOctets [0x67]) .a .normal),
    .operation 1103 (.lookup (Name.ofOctets [0x77]) .a .normal),
    .conclude 1]

/-- One entry is there, one was met by a lookup, and one was swept. -/
theorem interruptedSweep_accounts :
    Books.AllSpared interruptedSweep (Books.new .inet ⟨0, none, 3600⟩) ∧
      let books := Books.run interruptedSweep (Books.new .inet ⟨0, none, 3600⟩)
      books.cache.metrics.insertions = books.cache.entryCount + books.cache.metrics.lazyDeletions +
          books.cache.metrics.swept + books.uncounted ∧
        books.cache.metrics = ⟨1, 1, 3, 1, 1, 0⟩ ∧ books.cache.entryCount = 1 ∧
        books.uncounted = 0 := by
  have spared : Books.AllSpared interruptedSweep (Books.new .inet ⟨0, none, 3600⟩) := by
    refine ⟨⟨?_, trivial⟩, ⟨?_, trivial⟩, trivial, ⟨?_, trivial⟩, ⟨trivial, trivial⟩,
      ⟨trivial, trivial⟩, trivial, trivial⟩
    · show live? _ _ _ _ = none
      decide +kernel
    · show live? _ _ _ _ = none
      decide +kernel
    · show live? _ _ _ _ = none
      decide +kernel
  exact ⟨spared, (run_accounts .inet ⟨0, none, 3600⟩ interruptedSweep).2.2 rfl spared,
    by decide +kernel, by decide +kernel, by decide +kernel⟩

end StubResolver.Cache
