/-
This file settles that data never makes way for data that is less credible. Whatever is added to a
cache, in whatever way, an entry that is alive and more credible than all that is added is left
exactly as it is. The rule is applied anew in every place where the program adds something, and one
response makes many additions, so it is proved of a single step first.

After a set was added, the credibility in its place is the greater of the two: that of the set, and
that of what was alive there before.
-/

import StubResolver.Proofs.Cache.Operations
import StubResolver.Proofs.Name.Letters

namespace StubResolver

/-- The greater of two credibilities. -/
instance : Max Credibility := maxOfLe

namespace Cache

/-! ### What additions carry -/

/-- The credibilities that an addition carries. An operation that adds nothing has none. -/
def Operation.carried? : Operation → Option (List Credibility)
  | addRecord _ credibility => some [credibility]
  | addSet _ credibility => some [credibility]
  | addAbsence _ _ _ credibility => some [credibility]
  | preload records => some (records.map Prod.snd)
  | ingest message => some [.ofSection .answer message.authoritative]
  | _ => none

/-- The credibility that a step carries, if it adds something. -/
def Change.carried? : Change → Option Credibility
  | addRecord _ credibility => some credibility
  | storeSet _ credibility => some credibility
  | storeAbsence _ _ _ credibility => some credibility
  | _ => none

theorem Change.ofWrite_carried? (write : Write) :
    (Change.ofWrite write).carried? = some write.credibility := by
  cases write <;> rfl

/-- No step of an addition carries more than the addition does. -/
theorem Operation.changes_carried? {operation : Operation} {carried : List Credibility}
    (carries : operation.carried? = some carried) (now : Nat) (cache : Cache) :
    ∀ change ∈ operation.changes now cache, ∃ credibility, change.carried? = some credibility ∧
      ∃ greatest ∈ carried, credibility ≤ greatest := by
  intro change member
  cases operation with
  | addRecord record credibility =>
    cases carries
    rw [List.mem_singleton.mp member]
    exact ⟨credibility, rfl, credibility, List.mem_singleton.mpr rfl, Nat.le_refl _⟩
  | addSet set credibility =>
    cases carries
    rw [Operation.mem_changes_addSet member]
    exact ⟨credibility, rfl, credibility, List.mem_singleton.mpr rfl, Nat.le_refl _⟩
  | addAbsence name key zoneStart credibility =>
    cases carries
    rw [Operation.mem_changes_addAbsence member]
    exact ⟨credibility, rfl, credibility, List.mem_singleton.mpr rfl, Nat.le_refl _⟩
  | preload records =>
    cases carries
    obtain ⟨pair, taken, rfl⟩ := List.mem_map.mp member
    have present := (List.takeWhile_sublist _).subset taken
    exact ⟨pair.2, rfl, pair.2, List.mem_map_of_mem present, Nat.le_refl _⟩
  | ingest message =>
    cases carries
    obtain ⟨_, write, _, rfl, drawn⟩ := Operation.mem_changes_ingest member
    exact ⟨write.credibility, Change.ofWrite_carried? write, _, List.mem_singleton.mpr rfl,
      drawn.credible⟩
  | _ => cases carries

/-! ### One step -/

/-- What is alive and more credible stands after an addition in its place. -/
theorem settled_of_lt {standing : Entry} {credibility : Credibility}
    (outranks : credibility < standing.credibility) (fresh : Option Entry) :
    settled (some standing) fresh credibility = some standing := by
  unfold settled
  rw [Option.filter_some, decide_eq_true outranks, if_pos rfl, Option.some_or]

theorem recordSettled_of_lt {standing : Entry} {credibility : Credibility}
    (outranks : credibility < standing.credibility) (limits : CacheLimits) (now : Nat)
    (record : Record) :
    recordSettled limits now (some standing) record credibility = some standing := by
  have differ : ¬ standing.credibility = credibility := fun same =>
    Nat.lt_irrefl _ (same ▸ outranks)
  unfold recordSettled
  rw [Option.filter_some, decide_eq_false differ, if_neg Bool.false_ne_true]
  exact settled_of_lt outranks _

variable {cache : Cache} {now : Nat} {name : Name} {key : EntryKey} {entry : Entry}

/-- An addition that leaves an entry in its own place leaves it everywhere. -/
theorem Settles.keeps {after : Cache} {place : Name} {placeKey : EntryKey}
    {result : Option Entry} (settles : Settles cache after place placeKey result)
    (unbounded : cache.limits.capacity = 0) (found : cache.entryAt? name key = some entry)
    (stands : place ≈ name → placeKey = key → result = some entry) :
    after.entryAt? name key = some entry := by
  by_cases there : place ≈ name ∧ placeKey = key
  · rw [← there.2, settles.there name there.1]
    exact stands there.1 there.2
  · rw [settles.elsewhere_eq unbounded name key there]
    exact found

/-- What a step that adds something does not touch. -/
theorem Change.keeps_credible (tidy : cache.shelf.Tidy) (unbounded : cache.limits.capacity = 0)
    (alive : cache.live? now name key = some entry) {change : Change} {credibility : Credibility}
    (carries : change.carried? = some credibility) (outranks : credibility < entry.credibility) :
    (change.apply now cache).entryAt? name key = some entry ∧
      (change.apply now cache).limits = cache.limits := by
  have found := (live?_eq_some_iff.mp alive).1
  cases change with
  | addRecord record _ =>
    cases carries
    cases isMeta : record.setType.isMeta with
    | true =>
      rw [refuse_addRecord isMeta]
      exact ⟨found, rfl⟩
    | false =>
      have settles := apply_addRecord_settles tidy now record credibility isMeta
      refine ⟨settles.keeps unbounded found fun same equal => ?_, settles.limits⟩
      rw [live?_congr cache same, equal, alive]
      exact recordSettled_of_lt outranks _ _ _
  | storeSet set _ =>
    cases carries
    have settles := storeSet_settles tidy now set credibility
    refine ⟨settles.keeps unbounded found fun same equal => ?_, settles.limits⟩
    rw [live?_congr cache same, equal, alive]
    exact settled_of_lt outranks _
  | storeAbsence place placeKey zoneStart _ =>
    cases carries
    have settles := storeAbsence_settles tidy now place placeKey zoneStart credibility
    refine ⟨settles.keeps unbounded found fun same equal => ?_, settles.limits⟩
    rw [live?_congr cache same, equal, alive]
    exact settled_of_lt outranks _
  | _ => cases carries

/-- What several steps that add something do not touch. -/
theorem Change.applyAll_keeps_credible (tidy : cache.shelf.Tidy)
    (unbounded : cache.limits.capacity = 0) (alive : cache.live? now name key = some entry)
    (changes : List Change) (outranked : ∀ change ∈ changes, ∃ credibility,
      change.carried? = some credibility ∧ credibility < entry.credibility) :
    (Change.applyAll now changes cache).entryAt? name key = some entry := by
  induction changes generalizing cache with
  | nil => exact (live?_eq_some_iff.mp alive).1
  | cons change rest inductionHypothesis =>
    obtain ⟨credibility, carries, outranks⟩ := outranked change List.mem_cons_self
    obtain ⟨stays, limits⟩ := Change.keeps_credible tidy unbounded alive carries outranks
    refine inductionHypothesis (apply_steps tidy now change).tidy (limits ▸ unbounded) ?_ ?_
    · exact live?_eq_some_iff.mpr ⟨stays, (live?_eq_some_iff.mp alive).2⟩
    · exact fun other later => outranked other (List.mem_cons_of_mem _ later)

/-! ### Adding a set -/

/-- The credibility in the place of a set that is to be kept is the greater of the two. -/
theorem settled_credibility (standing : Option Entry) (fresh : Entry) :
    ∃ entry, settled standing (some fresh) fresh.credibility = some entry ∧
      entry.credibility = match standing with
        | some standing => max fresh.credibility standing.credibility
        | none => fresh.credibility := by
  cases standing with
  | none => exact ⟨fresh, rfl, rfl⟩
  | some standing =>
    unfold settled
    rw [Option.filter_some]
    by_cases outranks : fresh.credibility < standing.credibility
    · rw [decide_eq_true outranks, if_pos rfl]
      exact ⟨standing, rfl, (if_pos (Nat.le_of_lt outranks)).symm⟩
    · rw [decide_eq_false outranks, if_neg Bool.false_ne_true]
      refine ⟨fresh, rfl, ?_⟩
      show fresh.credibility = if fresh.credibility ≤ standing.credibility then _ else _
      split
      · rename_i notGreater
        exact Credibility.rank_injective _ _
          (Nat.le_antisymm notGreater (Credibility.not_lt.mp outranks))
      · rfl

theorem addSet_credibility (tidy : cache.shelf.Tidy) (now : Nat) {set : RRset}
    (credibility : Credibility) (coherent : set.Coherent) (cacheable : set.type.isMeta = false)
    (lasts : set.ttl ≠ 0) (keepsSets : cache.limits.longestPositive ≠ some 0) :
    ∃ entry, ((Operation.addSet set credibility).apply now cache).entryAt? set.name.toAbsolute
        (.type set.type) = some entry ∧
      entry.credibility = match cache.live? now set.name.toAbsolute (.type set.type) with
        | some standing => max credibility standing.credibility
        | none => credibility := by
  have settles := storeSet_settles tidy now set.toAbsolute credibility
  rw [RRset.toAbsolute_name coherent, RRset.toAbsolute_type coherent] at settles
  have fresh : entryOfSet? cache.limits now set.toAbsolute credibility =
      some (Entry.ofSet set.toAbsolute credibility now cache.limits.longestPositive) := by
    unfold entryOfSet?
    rw [RRset.toAbsolute_ttl coherent, if_neg (not_or.mpr ⟨lasts, keepsSets⟩)]
  have applied : (Operation.addSet set credibility).apply now cache =
      cache.storeSet now set.toAbsolute credibility := by
    show ((cache.addSet now set credibility).toOption).getD cache = _
    unfold addSet
    rw [cacheable, if_neg Bool.false_ne_true]
    rfl
  rw [fresh] at settles
  rw [applied, settles.there _ (Setoid.refl _)]
  exact settled_credibility _ _

/-! ### All additions -/

/-- In a reachable cache with room for all names, an addition leaves every entry exactly as it is
that is alive and more credible than all that is added. After a set was added that is to be kept,
the credibility in its place is the greater of the set's and of what was alive there. -/
theorem additions_respect_credibility {cache : Cache} (reachable : Reachable cache)
    (unbounded : cache.limits.capacity = 0) (now : Nat) :
    (∀ operation carried, Operation.carried? operation = some carried →
      ∀ name key entry, cache.live? now name key = some entry →
        (∀ credibility ∈ carried, credibility < entry.credibility) →
        (operation.apply now cache).entryAt? name key = some entry) ∧
    (∀ set credibility, RRset.Coherent set → set.type.isMeta = false → set.ttl ≠ 0 →
      cache.limits.longestPositive ≠ some 0 →
      ∃ entry, ((Operation.addSet set credibility).apply now cache).entryAt? set.name.toAbsolute
          (.type set.type) = some entry ∧
        entry.credibility = match cache.live? now set.name.toAbsolute (.type set.type) with
          | some standing => max credibility standing.credibility
          | none => credibility) := by
  constructor
  · intro operation carried carries name key entry alive outranked
    rw [operation.apply_eq]
    refine Change.applyAll_keeps_credible reachable.tidy unbounded alive _ fun change member => ?_
    obtain ⟨credibility, carriesOne, greatest, present, notGreater⟩ :=
      Operation.changes_carried? carries now cache change member
    exact ⟨credibility, carriesOne, Nat.lt_of_le_of_lt notGreater (outranked greatest present)⟩
  · intro set credibility coherent cacheable lasts keepsSets
    exact addSet_credibility reachable.tidy now credibility coherent cacheable lasts keepsSets

/-- A cache with room for all names that has heard of an address from a server with authority. -/
def authorityCache : Cache :=
  (Change.storeSet (RRset.ofRecord (Record.address 1 3600)) .authAnswer).apply 1000
    (Cache.new .inet ⟨0, none, 3600⟩)

/-- An address from elsewhere leaves it as it is, and data from a zone takes its place. -/
theorem authorityCache_respects_credibility :
    ((Operation.addRecord (Record.address 2 60) .nonAuthAnswer).apply 1000 authorityCache).entryAt?
        (Name.ofOctets [0x77]) (.type .a) =
      some ⟨.positive (RRset.ofRecord (Record.address 1 3600)), .authAnswer, 4600⟩ ∧
    ∃ entry, ((Operation.addSet (RRset.ofRecord (Record.address 1 3600)) .zone).apply 1000
        authorityCache).entryAt? (Name.ofOctets [0x77]) (.type .a) = some entry ∧
      entry.credibility = .zone := by
  have coherent := RRset.ofRecord_coherent (Record.address 1 3600)
  have reachable : Reachable authorityCache :=
    (Reachable.new .inet ⟨0, none, 3600⟩).step 1000 _ coherent
  obtain ⟨keeps, takes⟩ := additions_respect_credibility reachable rfl 1000
  refine ⟨keeps _ [.nonAuthAnswer] rfl _ _ _ (by decide +kernel) (by decide), ?_⟩
  obtain ⟨entry, found, credibility⟩ := takes (RRset.ofRecord (Record.address 1 3600)) .zone
    coherent (by decide +kernel) (by decide +kernel) (by decide +kernel)
  exact ⟨entry, found, credibility.trans (by decide +kernel)⟩

end Cache

end StubResolver
