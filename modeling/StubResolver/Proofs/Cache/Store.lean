/-
This file says what an addition does to the entries of a cache. The rules for additions are written
out once for sets and once for absences, and a single record brings a rule of its own. Seen through
the entries they come to one thing: what is alive and more credible stays, and everything else makes
way for the new entry, or for nothing when there is nothing to keep.

An addition is about one place, which is a name and a key. Elsewhere nothing changes, except that in
a cache with limited room another name may have to go.
-/

import StubResolver.Cache.Store
import StubResolver.Proofs.Cache.Shelf
import StubResolver.Proofs.RRset

namespace StubResolver

namespace Credibility

/-! ### The order of credibilities -/

theorem not_lt {first second : Credibility} : ¬ first < second ↔ second ≤ first := Nat.not_lt

theorem not_le {first second : Credibility} : ¬ first ≤ second ↔ second < first := Nat.not_le

end Credibility

namespace Cache

/-! ### Reading entries -/

/-- Names that are the same have the same entries. -/
theorem entryAt?_congr (cache : Cache) {name other : Name} (same : name ≈ other) (key : EntryKey) :
    cache.entryAt? name key = cache.entryAt? other key := by
  unfold entryAt?
  rw [Shelf.entryAt?_eq, Shelf.entryAt?_eq, Shelf.entriesOf_congr cache.shelf same]

/-- The entry in a place, unless it has expired. -/
def live? (cache : Cache) (now : Nat) (name : Name) (key : EntryKey) : Option Entry :=
  (cache.entryAt? name key).filter fun entry => !entry.isExpired now

theorem live?_eq_some_iff {cache : Cache} {now : Nat} {name : Name} {key : EntryKey}
    {entry : Entry} :
    cache.live? now name key = some entry ↔
      cache.entryAt? name key = some entry ∧ entry.isExpired now = false := by
  unfold live?
  rw [Option.filter_eq_some_iff, Bool.not_eq_true']

theorem live?_congr (cache : Cache) {now : Nat} {name other : Name} (same : name ≈ other)
    {key : EntryKey} : cache.live? now name key = cache.live? now other key := by
  unfold live?
  rw [entryAt?_congr cache same]

/-! ### What changes in one place -/

/-- The cache that an addition leaves: in its place there is a certain entry or none, and elsewhere
nothing has changed, unless another name had to go. -/
structure Settles (before after : Cache) (name : Name) (key : EntryKey) (result : Option Entry) :
    Prop where
  recordClass : after.recordClass = before.recordClass
  limits : after.limits = before.limits
  tidy : after.shelf.Tidy
  there : ∀ other, name ≈ other → after.entryAt? other key = result
  elsewhere : ∀ other otherKey, ¬ (name ≈ other ∧ key = otherKey) →
    after.entryAt? other otherKey = before.entryAt? other otherKey ∨
      before.limits.capacity ≠ 0 ∧ after.entryAt? other otherKey = none

namespace Settles

variable {before middle after : Cache} {name : Name} {key : EntryKey} {first result : Option Entry}

theorem trans (one : Settles before middle name key first)
    (two : Settles middle after name key result) : Settles before after name key result where
  recordClass := two.recordClass.trans one.recordClass
  limits := two.limits.trans one.limits
  tidy := two.tidy
  there := two.there
  elsewhere := by
    intro other otherKey apart
    rcases two.elsewhere other otherKey apart with same | ⟨bounded, gone⟩
    · rw [same]
      exact one.elsewhere other otherKey apart
    · exact Or.inr ⟨one.limits ▸ bounded, gone⟩

/-- Leaving a cache as it is. -/
theorem refl (tidy : before.shelf.Tidy) (found : before.entryAt? name key = result) :
    Settles before before name key result where
  recordClass := rfl
  limits := rfl
  tidy := tidy
  there := fun _ same => (entryAt?_congr before same key).symm.trans found
  elsewhere := fun _ _ _ => Or.inl rfl

/-- Where there is room for all names, nothing changes elsewhere. -/
theorem elsewhere_eq (settles : Settles before after name key result)
    (unbounded : before.limits.capacity = 0) (other : Name) (otherKey : EntryKey)
    (apart : ¬ (name ≈ other ∧ key = otherKey)) :
    after.entryAt? other otherKey = before.entryAt? other otherKey := by
  rcases settles.elsewhere other otherKey apart with same | ⟨bounded, _⟩
  · exact same
  · exact absurd unbounded bounded

/-- What is alive in a cache that an addition has left. -/
theorem live? (settles : Settles before after name key result)
    (unbounded : before.limits.capacity = 0) {now : Nat} (other : Name) (otherKey : EntryKey) :
    after.live? now other otherKey =
      if name ≈ other ∧ key = otherKey then result.filter fun entry => !entry.isExpired now
      else before.live? now other otherKey := by
  unfold Cache.live?
  split
  · rename_i there
    rw [← there.2, settles.there other there.1]
  · rename_i apart
    rw [settles.elsewhere_eq unbounded other otherKey apart]

end Settles

variable {cache : Cache}

/-- Dropping the entry in a place. -/
theorem eraseEntry_settles (tidy : cache.shelf.Tidy) (name : Name) (key : EntryKey)
    (metrics : Metrics) :
    Settles cache { cache with shelf := cache.shelf.eraseEntry name key, metrics := metrics } name
      key none where
  recordClass := rfl
  limits := rfl
  tidy := tidy.eraseEntry name key
  there := by
    intro other same
    unfold entryAt?
    rw [Shelf.entryAt?_eq, Shelf.entriesOf_eraseEntry tidy, if_pos same, Entries.get?_erase,
      if_pos rfl]
  elsewhere := by
    intro other otherKey apart
    refine Or.inl ?_
    unfold entryAt?
    rw [Shelf.entryAt?_eq, Shelf.entryAt?_eq, Shelf.entriesOf_eraseEntry tidy]
    by_cases same : name ≈ other
    · rw [if_pos same, Entries.get?_erase, if_neg fun equal => apart ⟨same, equal⟩]
    · rw [if_neg same]

/-- Installing an entry. -/
theorem install_settles (tidy : cache.shelf.Tidy) (name : Name) (key : EntryKey) (entry : Entry) :
    Settles cache (cache.install name key entry) name key (some entry) where
  recordClass := rfl
  limits := rfl
  tidy := tidy.install _ _ _ _
  there := by
    intro other same
    unfold entryAt? install
    rw [Shelf.entryAt?_eq]
    rcases Shelf.entriesOf_install cache.shelf cache.limits.capacity name other key entry with
      installed | ⟨differ, _⟩
    · rw [installed, Shelf.entriesOf_installed, if_pos same, Entries.get?_put, if_pos rfl]
    · exact absurd same differ
  elsewhere := by
    intro other otherKey apart
    unfold entryAt? install
    rw [Shelf.entryAt?_eq, Shelf.entryAt?_eq]
    rcases Shelf.entriesOf_install cache.shelf cache.limits.capacity name other key entry with
      installed | ⟨differ, gone⟩
    · refine Or.inl ?_
      rw [installed, Shelf.entriesOf_installed]
      by_cases same : name ≈ other
      · rw [if_pos same, Entries.get?_put, if_neg fun equal => apart ⟨same, equal⟩]
      · rw [if_neg same]
    · by_cases bounded : cache.limits.capacity = 0
      · refine Or.inl ?_
        rw [bounded, Shelf.install_unbounded, Shelf.entriesOf_installed, if_neg differ]
      · refine Or.inr ⟨bounded, ?_⟩
        rw [gone, Entries.get?_nil]

/-! ### The rule of additions -/

/-- Dropping what has expired in a place. -/
theorem dropExpired_settles (tidy : cache.shelf.Tidy) (now : Nat) (name : Name) (key : EntryKey) :
    Settles cache (cache.dropExpired now name key) name key (cache.live? now name key) := by
  unfold dropExpired live?
  cases found : cache.entryAt? name key with
  | none =>
    rw [Option.filter_none]
    exact Settles.refl tidy found
  | some entry =>
    dsimp only
    rw [Option.filter_some]
    split
    · rename_i expired
      rw [expired, if_neg (by decide)]
      exact eraseEntry_settles tidy name key _
    · rename_i alive
      rw [Bool.eq_false_iff.mpr alive, Bool.not_false, if_pos rfl]
      exact Settles.refl tidy found

/-- Dropping what is no more credible. -/
theorem displace_settles (tidy : cache.shelf.Tidy) (name : Name) (key : EntryKey)
    (credibility : Credibility) :
    Settles cache (cache.displace name key credibility) name key
      ((cache.entryAt? name key).filter fun entry => credibility < entry.credibility) := by
  unfold displace
  cases found : cache.entryAt? name key with
  | none =>
    rw [Option.filter_none]
    exact Settles.refl tidy found
  | some entry =>
    dsimp only
    rw [Option.filter_some]
    split
    · rename_i displaced
      rw [decide_eq_false (Credibility.not_lt.mpr displaced), if_neg Bool.false_ne_true]
      exact eraseEntry_settles tidy name key _
    · rename_i outranks
      rw [decide_eq_true (Credibility.not_le.mp outranks), if_pos rfl]
      exact Settles.refl tidy found

/-- The cache in which a new entry, or nothing, takes the place of what is no more credible. -/
def settle (cache : Cache) (name : Name) (key : EntryKey) (credibility : Credibility) :
    (fresh : Option Entry) → Cache
  | none => cache.displace name key credibility
  | some entry =>
    if cache.outranks name key credibility then cache else cache.install name key entry

/-- What stands in a place after an addition to it. -/
def settled (standing fresh : Option Entry) (credibility : Credibility) : Option Entry :=
  (standing.filter fun entry => credibility < entry.credibility).or fresh

theorem settle_settles (tidy : cache.shelf.Tidy) (name : Name) (key : EntryKey)
    (credibility : Credibility) (fresh : Option Entry) :
    Settles cache (cache.settle name key credibility fresh) name key
      (settled (cache.entryAt? name key) fresh credibility) := by
  unfold settle settled
  cases fresh with
  | none =>
    rw [Option.or_none]
    exact displace_settles tidy name key credibility
  | some entry =>
    dsimp only
    unfold outranks
    cases found : cache.entryAt? name key with
    | none =>
      rw [Option.any_none, if_neg Bool.false_ne_true]
      exact install_settles tidy name key entry
    | some standing =>
      rw [Option.any_some, Option.filter_some]
      split
      · exact Settles.refl tidy (found.trans Option.some_or.symm)
      · exact install_settles tidy name key entry

/-- An addition first drops what has expired, which then counts for nothing. -/
theorem dropExpired_settle_settles (tidy : cache.shelf.Tidy) (now : Nat) (name : Name)
    (key : EntryKey) (credibility : Credibility) (fresh : Option Entry) :
    Settles cache ((cache.dropExpired now name key).settle name key credibility fresh) name key
      (settled (cache.live? now name key) fresh credibility) := by
  have dropped := dropExpired_settles tidy now name key
  have added := settle_settles dropped.tidy name key credibility fresh
  rw [dropped.there name (Setoid.refl name)] at added
  exact dropped.trans added

/-! ### Adding sets and absences -/

/-- The entry that a set is kept as, unless its lifetime is zero. -/
def entryOfSet? (limits : CacheLimits) (now : Nat) (set : RRset) (credibility : Credibility) :
    Option Entry :=
  if set.ttl = 0 ∨ limits.longestPositive = some 0 then none
  else some (Entry.ofSet set credibility now limits.longestPositive)

/-- The entry that an absence is kept as, if the zone that attests it is to be kept. -/
def entryOfAbsence? (limits : CacheLimits) (now : Nat) (zoneStart : Option Record)
    (credibility : Credibility) : Option Entry :=
  match zoneStart with
  | none => none
  | some record =>
    if record.ttl = 0 then none
    else some (Entry.ofAbsence (record.data.minimum?.getD record.ttl) credibility now
      limits.longestNegative)

theorem dropExpired_limits (cache : Cache) (now : Nat) (name : Name) (key : EntryKey) :
    (cache.dropExpired now name key).limits = cache.limits := by
  unfold dropExpired
  split
  · split <;> rfl
  · rfl

theorem storeSet_eq (cache : Cache) (now : Nat) (set : RRset) (credibility : Credibility) :
    cache.storeSet now set credibility =
      (cache.dropExpired now set.name (.type set.type)).settle set.name (.type set.type) credibility
        (entryOfSet? cache.limits now set credibility) := by
  unfold storeSet entryOfSet?
  dsimp only
  rw [dropExpired_limits]
  split <;> rfl

theorem storeAbsence_eq (cache : Cache) (now : Nat) (name : Name) (key : EntryKey)
    (zoneStart : Option Record) (credibility : Credibility) :
    cache.storeAbsence now name key zoneStart credibility =
      (cache.dropExpired now name key).settle name key credibility
        (entryOfAbsence? cache.limits now zoneStart credibility) := by
  unfold storeAbsence entryOfAbsence?
  dsimp only
  rw [dropExpired_limits]
  cases zoneStart with
  | none => rfl
  | some record =>
    dsimp only
    split <;> rfl

/-- What adding a set comes to. -/
theorem storeSet_settles (tidy : cache.shelf.Tidy) (now : Nat) (set : RRset)
    (credibility : Credibility) :
    Settles cache (cache.storeSet now set credibility) set.name (.type set.type)
      (settled (cache.live? now set.name (.type set.type))
        (entryOfSet? cache.limits now set credibility) credibility) := by
  rw [storeSet_eq]
  exact dropExpired_settle_settles tidy now _ _ credibility _

/-- What adding an absence comes to. -/
theorem storeAbsence_settles (tidy : cache.shelf.Tidy) (now : Nat) (name : Name) (key : EntryKey)
    (zoneStart : Option Record) (credibility : Credibility) :
    Settles cache (cache.storeAbsence now name key zoneStart credibility) name key
      (settled (cache.live? now name key) (entryOfAbsence? cache.limits now zoneStart credibility)
        credibility) := by
  rw [storeAbsence_eq]
  exact dropExpired_settle_settles tidy now name key credibility _

/-! ### Adding a record -/

/-- An entry whose set a record has joined, if it belongs to the set. -/
def Entry.joined (entry : Entry) (record : Record) : Entry :=
  { entry with
    data := match entry.data with
      | .positive set => .positive (if set.accepts record then set.insert record else set)
      | .negative => .negative }

/-- A record under its absolute name, as a cache keeps it. -/
def kept (record : Record) : Record := { record with name := record.name.toAbsolute }

/-- What stands in the place of a record after the record was added to it: an entry of equal
credibility is joined, and apart from that the rule of additions holds. -/
def recordSettled (limits : CacheLimits) (now : Nat) (standing : Option Entry) (record : Record)
    (credibility : Credibility) : Option Entry :=
  match standing.filter fun entry => entry.credibility = credibility with
  | some entry => some (entry.joined record)
  | none =>
    settled standing (entryOfSet? limits now (RRset.ofRecord record) credibility) credibility

theorem joinSet_eq (cache : Cache) (name : Name) (key : EntryKey) (record : Record) :
    cache.joinSet name key record =
      { cache with
        shelf := cache.shelf.reshape name fun entries => entries.map fun slot =>
          if slot.1 = key then (slot.1, slot.2.joined record) else slot } := rfl

/-- Joining the entry in a place. -/
theorem joinSet_settles (tidy : cache.shelf.Tidy) (name : Name) (key : EntryKey) (record : Record) :
    Settles cache (cache.joinSet name key record) name key
      ((cache.entryAt? name key).map fun entry => entry.joined record) := by
  rw [joinSet_eq]
  refine ⟨rfl, rfl, tidy.reshape name _ fun entries distinct =>
    distinct.map key fun entry => entry.joined record, ?_, ?_⟩
  · intro other same
    rw [entryAt?_congr cache same key]
    unfold entryAt?
    rw [Shelf.entryAt?_eq, Shelf.entryAt?_eq, Shelf.entriesOf_reshape tidy _ _ _ rfl, if_pos same,
      Entries.get?_map _ key key fun entry => entry.joined record, if_pos rfl]
  · intro other otherKey apart
    refine Or.inl ?_
    unfold entryAt?
    rw [Shelf.entryAt?_eq, Shelf.entryAt?_eq, Shelf.entriesOf_reshape tidy _ _ _ rfl]
    by_cases same : name ≈ other
    · rw [if_pos same, Entries.get?_map _ key otherKey fun entry => entry.joined record,
        if_neg fun equal => apart ⟨same, equal⟩]
    · rw [if_neg same]

theorem live?_of_settles {before after : Cache} {name : Name} {key : EntryKey} {now : Nat}
    (settles : Settles before after name key (before.live? now name key)) :
    after.live? now name key = before.live? now name key := by
  unfold live? at settles ⊢
  rw [settles.there name (Setoid.refl name), Option.filter_filter]
  simp only [Bool.and_self]

/-- The cache with a record added, once what has expired in its place is gone. -/
def addToStanding (cache : Cache) (now : Nat) (record : Record) (credibility : Credibility) :
    Cache :=
  match cache.entryAt? record.name (.type record.setType) with
  | some entry =>
    if credibility < entry.credibility then cache
    else if credibility = entry.credibility then
      cache.joinSet record.name (.type record.setType) record
    else cache.storeSet now (RRset.ofRecord record) credibility
  | none => cache.storeSet now (RRset.ofRecord record) credibility

theorem addRecord_eq (cache : Cache) (now : Nat) (record : Record) (credibility : Credibility)
    (cacheable : record.setType.isMeta = false) :
    cache.addRecord now record credibility =
      .ok ((cache.dropExpired now (kept record).name (.type (kept record).setType)).addToStanding
        now (kept record) credibility) := by
  unfold addRecord addToStanding
  rw [cacheable, if_neg Bool.false_ne_true]
  generalize found : (cache.dropExpired now (kept record).name
    (.type (kept record).setType)).entryAt? (kept record).name (.type (kept record).setType) =
      standing
  dsimp only [kept] at found ⊢
  rw [found]
  cases standing with
  | none => rfl
  | some entry =>
    dsimp only
    split
    · rfl
    · split <;> rfl

theorem addToStanding_settles (tidy : cache.shelf.Tidy) (now : Nat) (record : Record)
    (credibility : Credibility)
    (alive : cache.live? now record.name (.type record.setType) =
      cache.entryAt? record.name (.type record.setType)) :
    Settles cache (cache.addToStanding now record credibility) record.name (.type record.setType)
      (recordSettled cache.limits now (cache.entryAt? record.name (.type record.setType)) record
        credibility) := by
  have stored := storeSet_settles tidy now (RRset.ofRecord record) credibility
  rw [RRset.ofRecord_name, RRset.ofRecord_type, alive] at stored
  have joined := joinSet_settles tidy record.name (.type record.setType) record
  unfold addToStanding recordSettled
  cases found : cache.entryAt? record.name (.type record.setType) with
  | none =>
    rw [found] at stored
    exact stored
  | some entry =>
    rw [found] at stored joined
    rw [Option.filter_some]
    dsimp only
    by_cases equal : credibility = entry.credibility
    · rw [decide_eq_true equal.symm, if_pos equal, if_pos rfl,
        if_neg (equal ▸ Nat.lt_irrefl entry.credibility.rank)]
      exact joined
    · rw [decide_eq_false fun same => equal same.symm, if_neg equal, if_neg Bool.false_ne_true]
      dsimp only
      split
      · rename_i outranks
        unfold settled
        rw [Option.filter_some, decide_eq_true outranks, if_pos rfl]
        exact Settles.refl tidy found
      · exact stored

/-- What adding a record comes to, unless its type is never cached. -/
theorem addRecord_settles (tidy : cache.shelf.Tidy) (now : Nat) (record : Record)
    (credibility : Credibility) (cacheable : record.setType.isMeta = false) :
    ∃ after, cache.addRecord now record credibility = .ok after ∧
      Settles cache after (kept record).name (.type (kept record).setType)
        (recordSettled cache.limits now
          (cache.live? now (kept record).name (.type (kept record).setType)) (kept record)
          credibility) := by
  have dropped := dropExpired_settles tidy now (kept record).name (.type (kept record).setType)
  have standing := dropped.there _ (Setoid.refl _)
  have added := addToStanding_settles dropped.tidy now (kept record) credibility
    ((live?_of_settles dropped).trans standing.symm)
  rw [standing, dropExpired_limits] at added
  exact ⟨_, addRecord_eq cache now record credibility cacheable, dropped.trans added⟩

end Cache

end StubResolver
