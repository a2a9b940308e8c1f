/-
This file settles how long a record can be found in a cache after it was added. It should be no
longer than the record's own lifetime. A set that comes as a whole expires with the first of its
records, and so no record of it is found for too long. The exception is a record that joins a set of
equal credibility: the joint set keeps its time of expiry, and if that lies beyond the lifetime of
the record, the record is found for longer than it should be. There is no other exception.

The proof keeps a deadline for the record through all later steps: every entry that holds the record
expires by then.
-/

import StubResolver.Proofs.Cache.Operations
import StubResolver.Proofs.Name.Letters

namespace StubResolver.Cache

/-! ### Adding a record and finding it again -/

/-- Whether a step adds a record: as a record of its own, or as one of a set. Records are kept
under their absolute names. -/
def Change.Adds (change : Change) (record : Record) : Prop :=
  ∃ set credibility, change.brought? = some (set, credibility) ∧ record ∈ set.records

/-- Whether a step adds the same record, with whatever lifetime. -/
def Change.AddsSame (change : Change) (record : Record) : Prop :=
  ∃ member, change.Adds member ∧ member ≈ record

/-- Whether a set holds a record, with whatever lifetime. -/
def holds (set : RRset) (record : Record) : Prop := ∃ member ∈ set.records, member ≈ record

/-- Whether a cache has a record already, alive and in its place. -/
def Has (cache : Cache) (now : Nat) (record : Record) : Prop :=
  ∃ entry set, cache.live? now record.name (.type record.setType) = some entry ∧
    entry.set? = some set ∧ holds set record

/-- The record outlives its lifetime, which began at `now`: after further steps, none of which adds
the same record, a lookup gives out a set that holds it although its lifetime is over. The clock
does not go back. -/
def Outlives (cache : Cache) (now : Nat) (record : Record) : Prop :=
  ∃ (later : List (Nat × Change)) (time : Nat),
    (now :: (later.map Prod.fst ++ [time])).Pairwise (· ≤ ·) ∧
    (∀ step ∈ later, step.2.Coherent ∧ ¬ step.2.AddsSame record) ∧
    now + record.ttl.toNat ≤ time ∧
    ∃ name type least, ∃ set ∈ ((Change.run later cache).lookup time name type least).1.sets,
      holds set record

/-- The record joins a set of equal credibility that expires only after the record's lifetime. -/
def JoinsLonger (cache : Cache) (now : Nat) (change : Change) (record : Record) : Prop :=
  ∃ given standing set, change = .addRecord given standing.credibility ∧ kept given = record ∧
    given.setType.isMeta = false ∧
    cache.live? now record.name (.type record.setType) = some standing ∧
    standing.set? = some set ∧ set.accepts record = true ∧
    now + record.ttl.toNat < standing.expiresAt

/-! ### The deadline -/

/-- Every entry that holds a record expires by a deadline. -/
def HeldUntil (cache : Cache) (record : Record) (deadline : Nat) : Prop :=
  ∀ name key entry set, cache.entryAt? name key = some entry → entry.set? = some set →
    holds set record → entry.expiresAt ≤ deadline

variable {cache : Cache} {record : Record}

/-- A set that comes as a whole expires before any of its records. -/
theorem ofSet_expiresAt_le {set : RRset} {member : Record} (present : member ∈ set.records)
    (credibility : Credibility) (now : Nat) (longest : Option UInt32) :
    (Entry.ofSet set credibility now longest).expiresAt ≤ now + member.ttl.toNat := by
  have shortest := UInt32.le_iff_toNat_le.mp (RRset.ttl_le present)
  cases longest with
  | none => exact Nat.le_trans (Nat.min_le_left _ _) (Nat.add_le_add_left shortest now)
  | some bound =>
    have cut := UInt32.le_iff_toNat_le.mp (Std.min_le_left (a := set.ttl) (b := bound))
    exact Nat.le_trans (Nat.min_le_left _ _) (Nat.add_le_add_left (Nat.le_trans cut shortest) now)

/-- What holds a record after another has joined held it before, or the other is the same. -/
theorem holds_of_joined {standing : Entry} {given : Record} {set : RRset}
    (isSet : (standing.joined given).set? = some set) (inside : holds set record) :
    ∃ before, standing.set? = some before ∧ (holds before record ∨
      before.accepts given = true ∧ given.isSignature = false ∧ given ≈ record) := by
  obtain ⟨before, stood, becomes⟩ := Entry.joined_set? isSet
  obtain ⟨member, present, same⟩ := inside
  refine ⟨before, stood, ?_⟩
  rw [becomes] at present
  split at present
  · rename_i accepted
    rcases RRset.mem_insert_records present with old | ⟨rfl, unsigned⟩
    · exact Or.inl ⟨member, old, same⟩
    · exact Or.inr ⟨accepted, unsigned, same⟩
  · exact Or.inl ⟨member, present, same⟩

/-- A record that is no signature is added by the step that adds it. -/
theorem Change.adds_of_addRecord {given : Record} (unsigned : given.isSignature = false)
    (credibility : Credibility) : (Change.addRecord given credibility).Adds (kept given) := by
  refine ⟨_, credibility, rfl, ?_⟩
  have keptUnsigned : (kept given).isSignature = false := unsigned
  unfold RRset.ofRecord
  rw [RRset.insert_of_unsigned _ keptUnsigned]
  exact List.mem_singleton.mpr rfl

/-- A step that does not add the record leaves the deadline as it is. -/
theorem HeldUntil.step {deadline : Nat} (held : HeldUntil cache record deadline)
    (tidy : cache.shelf.Tidy) (now : Nat) {change : Change}
    (silent : ¬ change.AddsSame record) : HeldUntil (change.apply now cache) record deadline := by
  intro name key entry set found isSet inside
  cases (apply_steps tidy now change).origin name key entry found with
  | stayed before => exact held name key entry set before isSet inside
  | brought other credibility brings owner type same =>
    rw [same] at isSet
    cases isSet
    obtain ⟨member, present, equal⟩ := inside
    exact absurd ⟨member, ⟨set, credibility, brings, present⟩, equal⟩ silent
  | joined given standing adds cacheable owner type alive same =>
    rw [same] at isSet ⊢
    obtain ⟨before, stood, old | ⟨_, unsigned, equal⟩⟩ := holds_of_joined isSet inside
    · exact held name key standing before (live?_eq_some_iff.mp alive).1 stood old
    · rw [adds] at silent
      exact absurd ⟨_, Change.adds_of_addRecord unsigned _, equal⟩ silent
  | absence nothing =>
    rw [Entry.set?_eq_some, nothing] at isSet
    cases isSet

/-- Nor do several. -/
theorem HeldUntil.run {deadline : Nat} (held : HeldUntil cache record deadline)
    (tidy : cache.shelf.Tidy) (later : List (Nat × Change))
    (silent : ∀ step ∈ later, ¬ step.2.AddsSame record) :
    HeldUntil (Change.run later cache) record deadline ∧ (Change.run later cache).shelf.Tidy := by
  induction later generalizing cache with
  | nil => exact ⟨held, tidy⟩
  | cons step rest inductionHypothesis =>
    refine inductionHypothesis (held.step tidy step.1 (silent step List.mem_cons_self))
      (apply_steps tidy step.1 step.2).tidy ?_
    exact fun other member => silent other (List.mem_cons_of_mem _ member)

theorem HeldUntil.applyAll {deadline : Nat} (held : HeldUntil cache record deadline)
    (tidy : cache.shelf.Tidy) (now : Nat) (changes : List Change)
    (silent : ∀ change ∈ changes, ¬ change.AddsSame record) :
    HeldUntil (Change.applyAll now changes cache) record deadline ∧
      (Change.applyAll now changes cache).shelf.Tidy := by
  rw [Change.applyAll_eq_run]
  refine held.run tidy _ fun step member => ?_
  obtain ⟨change, present, rfl⟩ := List.mem_map.mp member
  exact silent change present

/-- From the deadline on, no lookup gives out a set that holds the record. -/
theorem HeldUntil.not_given {deadline : Nat} (held : HeldUntil cache record deadline)
    (tidy : cache.shelf.Tidy) {time : Nat} (past : deadline ≤ time) {name : Name}
    {type : RecordType} {least : Credibility} {set : RRset}
    (given : set ∈ (cache.lookup time name type least).1.sets) : ¬ holds set record := by
  intro inside
  obtain ⟨level, key, entry, alive, _, isSet⟩ := offers_of_mem_lookup tidy given
  obtain ⟨found, notExpired⟩ := live?_eq_some_iff.mp alive
  have expires := held level key entry set found isSet inside
  exact absurd (Nat.le_trans expires past) (of_decide_eq_false notExpired)

/-- The step that adds a record sets the deadline, unless the record joins a set that expires
later. -/
theorem heldUntil_of_adds (reachable : Reachable cache) {now : Nat} {change : Change}
    (adds : change.Adds record) (fresh : ¬ cache.Has now record)
    (notLonger : ¬ JoinsLonger cache now change record) :
    HeldUntil (change.apply now cache) record (now + record.ttl.toNat) := by
  have inPlace := reachable.inPlace
  obtain ⟨addedSet, addedCredibility, brings, present⟩ := adds
  have notHeld (name : Name) (key : EntryKey) (entry : Entry) (set : RRset)
      (alive : cache.live? now name key = some entry) (isSet : entry.set? = some set) :
      ¬ holds set record := by
    intro inside
    obtain ⟨setCoherent, owner, type⟩ :=
      inPlace name key entry set (live?_eq_some_iff.mp alive).1 isSet
    obtain ⟨member, within, same⟩ := inside
    obtain ⟨memberOwner, _, memberType⟩ := setCoherent.record within
    have sameOwner : member.name ≈ record.name := congrArg Record.name same
    have sameType := Record.setType_eq_of_equiv _ _ same
    refine fresh ⟨entry, set, ?_, isSet, member, within, same⟩
    rw [← sameType, memberType, ← type, ← alive]
    exact live?_congr cache (Setoid.trans (Setoid.symm sameOwner) (Setoid.trans memberOwner owner))
  intro name key entry set found isSet inside
  cases (apply_steps reachable.tidy now change).origin name key entry found with
  | stayed before =>
    -- the record was not there alive, so what has stayed and holds it has expired
    by_cases expired : entry.isExpired now = true
    · exact Nat.le_trans (of_decide_eq_true expired) (Nat.le_add_right _ _)
    · have alive := live?_eq_some_iff.mpr ⟨before, Bool.eq_false_iff.mpr expired⟩
      exact absurd inside (notHeld name key entry set alive isSet)
  | brought other credibility otherBrings owner type same =>
    cases brings.symm.trans otherBrings
    rw [same]
    exact ofSet_expiresAt_le present _ _ _
  | joined given standing addsGiven cacheable owner type alive same =>
    rw [same] at isSet ⊢
    obtain ⟨before, stood, old | ⟨accepted, unsigned, equal⟩⟩ := holds_of_joined isSet inside
    · exact absurd old (notHeld name key standing before alive stood)
    · rw [addsGiven] at brings
      cases brings
      rcases RRset.mem_insert_records present with none | ⟨rfl, _⟩
      · cases none
      · refine Nat.le_of_not_lt fun longer => notLonger ?_
        refine ⟨given, standing, before, addsGiven, rfl, cacheable, ?_, stood, accepted, longer⟩
        rw [live?_congr cache owner, ← type]
        exact alive
  | absence nothing =>
    rw [Entry.set?_eq_some, nothing] at isSet
    cases isSet

/-! ### Records that outlive their lifetime -/

/-- A record that joins a set that expires later is found when its lifetime is over. -/
theorem outlives_of_joinsLonger (tidy : cache.shelf.Tidy) {now : Nat} {change : Change}
    (unsigned : record.isSignature = false) (joins : JoinsLonger cache now change record) :
    Outlives (change.apply now cache) now record := by
  obtain ⟨given, standing, set, adds, rfl, cacheable, alive, isSet, accepted, longer⟩ := joins
  have settles := apply_addRecord_settles tidy now given standing.credibility cacheable
  have result : recordSettled cache.limits now
      (cache.live? now (kept given).name (.type (kept given).setType)) (kept given)
      standing.credibility = some (standing.joined (kept given)) := by
    unfold recordSettled
    rw [alive, Option.filter_some, decide_eq_true rfl, if_pos rfl]
  have joinedSet : (standing.joined (kept given)).set? = some (set.insert (kept given)) := by
    rw [Entry.set?_eq_some] at isSet ⊢
    unfold Entry.joined
    rw [isSet]
    dsimp only
    rw [if_pos accepted]
  have stillAlive : ((Change.addRecord given standing.credibility).apply now cache).live?
      (now + (kept given).ttl.toNat) (kept given).name.toAbsolute (.type (kept given).setType) =
        some (standing.joined (kept given)) := by
    refine live?_eq_some_iff.mpr ⟨?_, decide_eq_false (Nat.not_le.mpr longer)⟩
    rw [← result]
    exact settles.there _ (Setoid.refl _)
  have single : (kept given).setType ≠ .any := by
    intro all
    have isMeta : (kept given).setType.isMeta = false := cacheable
    rw [all] at isMeta
    cases isMeta
  have answer := lookup_of_offers settles.tidy single
    ⟨_, stillAlive, Nat.le_refl _, joinedSet⟩
  refine ⟨[], now + (kept given).ttl.toNat, ?_, fun _ none => absurd none List.not_mem_nil,
    Nat.le_refl _, (kept given).name, (kept given).setType,
    (standing.joined (kept given)).credibility, set.insert (kept given), ?_, ?_⟩
  · simp
  · rw [adds, Change.run, List.foldl_nil, answer]
    exact List.mem_singleton.mpr rfl
  · unfold holds
    rw [RRset.insert_of_unsigned set unsigned]
    exact RRset.exists_mem_addUnlessPresent _ _

/-- A step that adds a record, which was not there before, and further steps that do not add it make
the record outlive its lifetime only if it joins a set that expires later. -/
theorem joinsLonger_of_outlives (reachable : Reachable cache) {now : Nat} {change : Change}
    (adds : change.Adds record) (fresh : ¬ cache.Has now record) {rest : List Change}
    (silent : ∀ other ∈ rest, ¬ other.AddsSame record)
    (outlives : Outlives (Change.applyAll now rest (change.apply now cache)) now record) :
    JoinsLonger cache now change record := by
  obtain ⟨later, time, _, silentLater, past, name, type, least, set, given, inside⟩ := outlives
  by_cases joins : JoinsLonger cache now change record
  · exact joins
  · have held := heldUntil_of_adds reachable adds fresh joins
    obtain ⟨heldThen, tidyThen⟩ :=
      held.applyAll (apply_steps reachable.tidy now change).tidy now rest silent
    obtain ⟨heldLater, tidyLater⟩ := heldThen.run tidyThen later
      fun step member => (silentLater step member).2
    exact absurd inside (heldLater.not_given tidyLater past given)

/-- An operation that adds a record does so in one of its steps, and here in the last that adds it.
If the record was not there before this step, it outlives its lifetime only by joining a set of
equal credibility that expires later. When nothing follows on the step, joining such a set is
enough. -/
theorem outlives_iff_joinsLonger {cache : Cache} (reachable : Reachable cache) (now : Nat)
    (operation : Operation) (coherent : operation.Coherent) (before after : List Change)
    (change : Change) (made : operation.changes now cache = before ++ change :: after)
    (record : Record) (adds : change.Adds record)
    (fresh : ¬ (Change.applyAll now before cache).Has now record)
    (last : ∀ other ∈ after, ¬ other.AddsSame record) :
    (Outlives (operation.apply now cache) now record →
      JoinsLonger (Change.applyAll now before cache) now change record) ∧
    (after = [] → (Outlives (operation.apply now cache) now record ↔
      JoinsLonger (Change.applyAll now before cache) now change record)) := by
  have allCoherent := operation.changes_coherent coherent now cache
  rw [made] at allCoherent
  have reached : Reachable (Change.applyAll now before cache) :=
    reachable.applyAll now before fun other member =>
      allCoherent other (List.mem_append_left _ member)
  have applied : operation.apply now cache =
      Change.applyAll now after (change.apply now (Change.applyAll now before cache)) := by
    rw [operation.apply_eq, made, Change.applyAll_append]
    rfl
  have onlyThen : Outlives (operation.apply now cache) now record →
      JoinsLonger (Change.applyAll now before cache) now change record := by
    rw [applied]
    exact joinsLonger_of_outlives reached adds fresh last
  refine ⟨onlyThen, fun nothingAfter => ⟨onlyThen, fun joins => ?_⟩⟩
  obtain ⟨set, credibility, brings, present⟩ := adds
  have changeCoherent := allCoherent change (List.mem_append_right _ List.mem_cons_self)
  have unsigned := (Change.brought_coherent changeCoherent brings).records record present
  rw [applied, nothingAfter]
  exact outlives_of_joinsLonger reached.tidy unsigned joins

/-- Two addresses that come as one set are found for no longer than the shorter of them lasts. -/
theorem not_outlives_in_set :
    ¬ Outlives ((Operation.addSet ((RRset.ofRecord (Record.address 1 3600)).insert
        (Record.address 2 60)) .nonAuthAnswer).apply 1000 (Cache.new .inet ⟨0, none, 3600⟩)) 1000
      (Record.address 1 3600) := by
  have coherent : ((RRset.ofRecord (Record.address 1 3600)).insert
      (Record.address 2 60)).Coherent :=
    (RRset.ofRecord_coherent _).insert (by decide +kernel)
  intro outlives
  have joins := (outlives_iff_joinsLonger (Reachable.new .inet ⟨0, none, 3600⟩) 1000
    (.addSet _ .nonAuthAnswer) coherent [] [] (.storeSet _ .nonAuthAnswer) rfl
    (Record.address 1 3600) ⟨_, .nonAuthAnswer, rfl, by decide +kernel⟩
    (by rintro ⟨_, _, none, _⟩; cases none) (by simp)).1 outlives
  obtain ⟨_, _, _, adds, _⟩ := joins
  cases adds

/-- A cache that has heard of an address that lasts for an hour. -/
def hourCache : Cache :=
  (Change.addRecord (Record.address 1 3600) .nonAuthAnswer).apply 1000
    (Cache.new .inet ⟨0, none, 3600⟩)

/-- Another address, which lasts for a minute and is just as credible, is still found when the
minute is over. -/
theorem address_outlives_minute :
    Reachable hourCache ∧
    (Change.addRecord (Record.address 2 60) .nonAuthAnswer).Adds (Record.address 2 60) ∧
    ¬ hourCache.Has 1000 (Record.address 2 60) ∧
    Outlives ((Operation.addRecord (Record.address 2 60) .nonAuthAnswer).apply 1000 hourCache) 1000
      (Record.address 2 60) := by
  refine ⟨(Reachable.new _ _).step 1000 _ trivial, ?_, ?_, ?_⟩
  · exact ⟨_, .nonAuthAnswer, rfl, by decide +kernel⟩
  · have alive : hourCache.live? 1000 (Record.address 2 60).name (.type .a) =
        some ⟨.positive (RRset.ofRecord (Record.address 1 3600)), .nonAuthAnswer, 4600⟩ := by
      decide +kernel
    rintro ⟨entry, set, found, isSet, member, inside, same⟩
    cases alive.symm.trans found
    cases isSet
    have only : ∀ member ∈ (RRset.ofRecord (Record.address 1 3600)).records,
        ¬ member ≈ Record.address 2 60 := by decide +kernel
    exact only member inside same
  · refine ⟨[], 1060, by simp, by simp, by decide +kernel, (Record.address 2 60).name, .a,
      .nonAuthAnswer, (RRset.ofRecord (Record.address 1 3600)).insert (Record.address 2 60), ?_, ?_⟩
    · decide +kernel
    · exact ⟨Record.address 2 60, by decide +kernel, Setoid.refl _⟩

end StubResolver.Cache
