/-
This file settles when a lookup or a response is successful without data. Signatures are kept with
the set that they cover, and a signature that comes before the records it covers makes a set by
itself. Such a set has no record, but to a cache and to the digest of a response it is a set like
any other. An alias set without records is passed over; an answer without records is not.

What decides is where the signatures come from. A cache has a set without records only if it was
given one, or a signature by itself. And a response leads to such a set exactly if its answer section
has a signature for the type and no record of it.
-/

import StubResolver.Proofs.Cache.Denial
import StubResolver.Proofs.Cache.MetaTypes
import StubResolver.Proofs.Cache.Zone

namespace StubResolver

/-! ### Sets of signatures alone -/

namespace RRset

/-- All that a set has is signatures. -/
def Bare (set : RRset) : Prop := set.records = []

instance (set : RRset) : Decidable set.Bare := inferInstanceAs (Decidable (set.records = []))

theorem addUnlessPresent_ne_nil (records : List Record) (record : Record) :
    addUnlessPresent records record ≠ [] :=
  have ⟨_, present, _⟩ := exists_mem_addUnlessPresent records record
  List.ne_nil_of_mem present

/-- One record is enough for a set not to be bare, and it stays so. -/
@[simp] theorem bare_insert {set : RRset} {record : Record} :
    (set.insert record).Bare ↔ set.Bare ∧ record.isSignature = true := by
  unfold Bare
  cases signed : record.isSignature with
  | true => simp [insert_of_signed set signed]
  | false => simp [insert_of_unsigned set signed, addUnlessPresent_ne_nil]

@[simp] theorem bare_ofRecord {record : Record} :
    (ofRecord record).Bare ↔ record.isSignature = true :=
  bare_insert.trans (and_iff_right rfl)

@[simp] theorem ofRecord_ttl (record : Record) : (ofRecord record).ttl = record.ttl := by
  unfold ofRecord
  cases signed : record.isSignature with
  | true =>
    rw [insert_of_signed _ signed]
    rfl
  | false =>
    rw [insert_of_unsigned _ signed]
    rfl

theorem bare_toAbsolute {set : RRset} (coherent : set.Coherent) :
    set.toAbsolute.Bare ↔ set.Bare := by
  cases absolute : set.name.absolute with
  | true => rw [toAbsolute_of_absolute absolute]
  | false => simp [toAbsolute_of_relative coherent absolute, Bare]

end RRset

namespace Message

/-- A record that is no signature is found in a set that is not bare. -/
theorem groupRecords_hasDataFor {records : List Record} {record : Record}
    (present : record ∈ records) (unsigned : record.isSignature = false) :
    Gathers (fun set => ¬ set.Bare) record (groupRecords records) :=
  groupRecords_gathers present (by simp [unsigned])
    fun _ _ filled bare => filled (RRset.bare_insert.mp bare).1

/-- A set of a section is bare exactly if all records of the section that belong to it are
signatures. -/
theorem bare_iff_of_mem_sets {message : Message} {part : Section} {set : RRset}
    (member : set ∈ message.sets part) :
    set.Bare ↔ ∀ record ∈ message.records part, set.accepts record = true →
      record.isSignature = true := by
  have coherent := message.sets_coherent part set member
  constructor
  · intro bare record present accepted
    refine Bool.of_not_eq_false fun unsigned => ?_
    obtain ⟨other, inside, alsoAccepted, filled⟩ := groupRecords_hasDataFor present unsigned
    -- no two sets of a section accept one record
    obtain ⟨owner, ofClass, type⟩ := (RRset.accepts_iff set record).mp accepted
    obtain ⟨otherOwner, otherClass, otherType⟩ := (RRset.accepts_iff other record).mp alsoAccepted
    have isFirst : set ∈ Cache.setsInClass message part record.recordClass :=
      List.mem_filter.mpr ⟨member, decide_eq_true ofClass.symm⟩
    have isSecond : other ∈ Cache.setsInClass message part record.recordClass :=
      List.mem_filter.mpr ⟨inside, decide_eq_true otherClass.symm⟩
    have same : set = other := Cache.setsInClass_apart isFirst isSecond
      (Setoid.trans (Setoid.symm owner) otherOwner) (type.symm.trans otherType)
    exact filled (same ▸ bare)
  · intro signed
    refine List.eq_nil_iff_forall_not_mem.mpr fun record inside => ?_
    have within : record ∈ set.all := List.mem_append_left _ inside
    have present := (groupRecords_from _ set member).2 record within
    have isSignature := signed record present (coherent.belong record within)
    rw [coherent.records record inside] at isSignature
    cases isSignature

end Message

/-- A response brings a set of signatures alone: the set is written when the response is learned
from. -/
def Message.BringsBare (message : Message) (set : RRset) : Prop :=
  ∃ question credibility, message.question = some question ∧ message.result.isCacheable = true ∧
    .set set credibility ∈ (Cache.digestFor message question).writes ∧ set.Bare

/-- A response that brings signatures alone has a signature in a section. -/
theorem Message.BringsBare.signed {message : Message} {set : RRset}
    (brings : message.BringsBare set) :
    ∃ part, ∃ record ∈ message.records part, record.isSignature = true := by
  obtain ⟨question, credibility, _, _, written, bare⟩ := brings
  obtain ⟨_, part, present⟩ := (Cache.digestFor_drawn message question _ written).drawn set rfl
  have coherent := message.sets_coherent part set present
  obtain ⟨record, inside⟩ := List.exists_mem_of_ne_nil _ coherent.filled
  have within := (groupRecords_from _ set present).2 record inside
  exact ⟨part, record, within,
    (bare_iff_of_mem_sets present).mp bare record within (coherent.belong record inside)⟩

/-- An outcome has data if it is not successful, or with records in each of its sets. -/
def Outcome.HasData (outcome : Outcome) : Prop :=
  ∀ sets, outcome = .successful sets → sets ≠ [] ∧ ∀ set ∈ sets, ¬ set.Bare

namespace Cache

/-! ### Sets of signatures in a cache -/

/-- A cache holds a set of signatures alone. -/
def HoldsBare (cache : Cache) : Prop :=
  ∃ name key entry set, cache.entryAt? name key = some entry ∧ entry.set? = some set ∧ set.Bare

/-- A step brings signatures alone: one signature, or a set of them. -/
def Change.BringsBare : Change → Prop
  | addRecord record _ => record.isSignature = true
  | storeSet set _ => set.Bare
  | _ => False

/-- An operation brings signatures alone. -/
def Operation.BringsBare : Operation → Prop
  | addRecord record _ => record.isSignature = true
  | addSet set _ => set.Bare
  | preload records => ∃ pair ∈ records, pair.1.isSignature = true
  | ingest message => ∃ set, message.BringsBare set
  | _ => False

theorem Operation.Takes.bringsBare {operation : Operation} {change : Change}
    (takes : operation.Takes change) (coherent : operation.Coherent)
    (brings : change.BringsBare) : operation.BringsBare := by
  cases takes with
  | addRecord record credibility => exact brings
  | addSet set credibility cacheable => exact (RRset.bare_toAbsolute coherent).mp brings
  | preload records pair member => exact ⟨pair, member, brings⟩
  | ingest message question write asked cacheable written =>
    cases write with
    | set set credibility => exact ⟨set, question, credibility, asked, cacheable, written, brings⟩
    | absence name key zoneStart credibility => exact brings.elim
  | _ => exact brings.elim

variable {cache : Cache}

/-- A cache that holds signatures alone after a step did so before, or the step has brought them.
-/
theorem apply_holdsBare (reachable : Reachable cache) (now : Nat) {change : Change}
    (holds : (change.apply now cache).HoldsBare) : cache.HoldsBare ∨ change.BringsBare := by
  obtain ⟨name, key, entry, set, found, isSet, bare⟩ := holds
  cases (apply_steps reachable.tidy now change).origin name key entry found with
  | stayed before => exact Or.inl ⟨name, key, entry, set, before, isSet, bare⟩
  | brought other credibility brings owner type same =>
    rw [same] at isSet
    cases isSet
    refine Or.inr ?_
    cases change with
    | addRecord record _ =>
      cases brings
      have signed : (kept record).isSignature = true := RRset.bare_ofRecord.mp bare
      exact signed
    | storeSet _ _ =>
      cases brings
      exact bare
    | _ => cases brings
  | joined record standing adds cacheable owner type alive same =>
    rw [same] at isSet
    obtain ⟨before, stood, becomes⟩ := Entry.joined_set? isSet
    refine Or.inl ⟨name, key, standing, before, (live?_eq_some_iff.mp alive).1, stood, ?_⟩
    rw [becomes] at bare
    split at bare
    · exact (RRset.bare_insert.mp bare).1
    · exact bare
  | absence nothing =>
    rw [Entry.set?_eq_some, nothing] at isSet
    cases isSet

/-- A run from a new cache comes to hold signatures alone only through an operation that brings
some. -/
theorem run_bringsBare (recordClass : RecordClass) (limits : CacheLimits)
    (operations : List (Nat × Operation)) (built : ∀ operation ∈ operations, operation.2.Built)
    (holds : (Operation.run operations (Cache.new recordClass limits)).HoldsBare) :
    ∃ operation ∈ operations, operation.2.BringsBare := by
  have cases := (Reachable.new recordClass limits).run_cases
    (fun now _ reachable => apply_holdsBare reachable now) operations built holds
  rcases cases with ⟨_, _, _, _, none, _⟩ | ⟨operation, member, change, takes, brings⟩
  · cases none
  · exact ⟨operation, member, takes.bringsBare (built operation member).coherent brings⟩

/-! ### What successful lookups give out -/

namespace Level

variable {level : Level} {type : RecordType}

/-- The usable sets that a question asks for. -/
def wanted (level : Level) (type : RecordType) : List RRset :=
  if type = .any then level.sets else (level.set? type).toList

theorem wanted_any (level : Level) : level.wanted .any = level.sets := if_pos rfl

theorem mem_wanted {set : RRset} (inside : set ∈ level.wanted type) :
    ∃ other, level.set? other = some set := by
  unfold wanted at inside
  split at inside
  · exact mem_sets.mp inside
  · exact ⟨type, Option.mem_toList.mp inside⟩

/-- What is known of a type is what a level has to say about the type. -/
theorem exactRules_of_entry (single : type ≠ .any) {entry : Entry}
    (held : level (.type type) = some entry) :
    firstToSpeak (level.exactRules type) = some ((entry.set?.map .single).getD .nxRRset) := by
  simp [firstToSpeak, exactRules, single, answer?, held]

/-- A level answers a question with the sets that are asked for, if there are any. -/
theorem exactRules_answers_iff {sets : List RRset} :
    firstToSpeak (level.exactRules type) = some (.successful sets) ↔
      sets ≠ [] ∧ sets = level.wanted type := by
  unfold wanted
  by_cases all : type = .any
  · subst all
    rw [if_pos rfl]
    constructor
    · intro answered
      have holds := (holdsRecords_of_exactRules answered).1
      rw [exactRules_all_of_holdsRecords holds] at answered
      have same := Outcome.successful.inj (Option.some_inj.mp answered)
      rw [← same]
      exact ⟨mt sets_eq_nil_iff.mp (not_not_intro holds), rfl⟩
    · intro ⟨filled, same⟩
      rw [same] at filled ⊢
      exact exactRules_all_of_holdsRecords (not_not.mp (mt sets_eq_nil_iff.mpr filled))
  · rw [if_neg all]
    cases held : level (.type type) with
    | none =>
      have nothing : level.set? type = none := by simp [set?, held]
      rw [nothing]
      constructor
      · intro answered
        exact absurd held ((holdsRecords_of_exactRules answered).2 all)
      · rintro ⟨filled, rfl⟩
        exact absurd rfl filled
    | some entry =>
      have isHeld : level.set? type = entry.set? := by simp [set?, held]
      rw [exactRules_of_entry all held, isHeld]
      cases entry.set? with
      | none => simp
      | some set =>
        rw [Option.map_some, Option.getD_some, Option.toList_some]
        constructor
        · rintro ⟨⟩
          exact ⟨List.cons_ne_nil set [], rfl⟩
        · rintro ⟨_, rfl⟩
          rfl

end Level

/-- A lookup is successful with the usable sets that are asked for, if there are any. -/
theorem lookup_eq_successful_iff (reachable : Reachable cache) {now : Nat} {name : Name}
    {type : RecordType} {least : Credibility} {sets : List RRset} :
    (cache.lookup now name type least).1 = .successful sets ↔
      sets ≠ [] ∧ sets = (cache.usable? now least name.toAbsolute).wanted type := by
  rw [(lookup_eq reachable.tidy reachable.inPlace now name type least).1,
    decision_verdicts_eq_iff _ _ _ (by simp) (by simp),
    Level.exactRules_answers_iff]

/-- A set that can be used is alive and credible enough. -/
theorem usable?_set?_eq_some {now : Nat} {least : Credibility} {name : Name} {type : RecordType}
    {set : RRset} :
    (cache.usable? now least name).set? type = some set ↔
      cache.Offers now least name (.type type) set := by
  unfold Level.set? usable? Offers
  simp only [Option.bind_eq_some_iff, Option.filter_eq_some_iff, decide_eq_true_eq, and_assoc]

/-- Where no set of signatures alone is held, successful lookups have data. -/
theorem lookup_hasData (reachable : Reachable cache) (filled : ¬ cache.HoldsBare) (now : Nat)
    (name : Name) (type : RecordType) (least : Credibility) :
    (cache.lookup now name type least).1.HasData := by
  intro sets found
  obtain ⟨some, same⟩ := (lookup_eq_successful_iff reachable).mp found
  refine ⟨some, fun set inside bare => ?_⟩
  obtain ⟨other, usable⟩ := Level.mem_wanted (same ▸ inside)
  obtain ⟨entry, alive, _, isSet⟩ := usable?_set?_eq_some.mp usable
  exact filled ⟨_, _, entry, set, (live?_eq_some_iff.mp alive).1, isSet, bare⟩

/-- Some lookup at a time is successful without data in one of its sets. -/
def GivesBare (cache : Cache) (now : Nat) : Prop :=
  ∃ name type least, ¬ (cache.lookup now name type least).1.HasData

/-- Signatures alone are given out exactly if a set of them is alive at an absolute name. -/
theorem givesBare_iff (reachable : Reachable cache) (now : Nat) :
    cache.GivesBare now ↔ ∃ name type entry set, name.absolute = true ∧
      cache.live? now name (.type type) = some entry ∧ entry.set? = some set ∧ set.Bare := by
  constructor
  · rintro ⟨name, type, least, noData⟩
    simp only [Outcome.HasData, not_forall] at noData
    obtain ⟨sets, found, lacks⟩ := noData
    obtain ⟨some, same⟩ := (lookup_eq_successful_iff reachable).mp found
    simp only [not_and, not_forall, not_not] at lacks
    obtain ⟨set, inside, bare⟩ := lacks some
    obtain ⟨other, usable⟩ := Level.mem_wanted (same ▸ inside)
    obtain ⟨entry, alive, _, isSet⟩ := usable?_set?_eq_some.mp usable
    exact ⟨name.toAbsolute, other, entry, set, Name.toAbsolute_absolute _, alive, isSet, bare⟩
  · rintro ⟨name, type, entry, set, absolute, alive, isSet, bare⟩
    rw [← Name.toAbsolute_of_absolute name absolute] at alive
    have inside : set ∈ (cache.usable? now entry.credibility name.toAbsolute).wanted .any := by
      rw [Level.wanted_any, Level.mem_sets]
      exact ⟨type, usable?_set?_eq_some.mpr ⟨entry, alive, Nat.le_refl _, isSet⟩⟩
    have found : (cache.lookup now name .any entry.credibility).1 = .successful _ :=
      (lookup_eq_successful_iff reachable).mpr ⟨List.ne_nil_of_mem inside, rfl⟩
    exact ⟨name, .any, entry.credibility, fun hasData => (hasData _ found).2 set inside bare⟩

/-- A signature that is added where nothing is alive is given out by itself, if it is kept. -/
theorem addRecord_givesBare (reachable : Reachable cache) {now : Nat} (inTime : now < lastSecond)
    (keepsSets : cache.limits.longestPositive ≠ some 0) {record : Record}
    (signed : record.isSignature = true) (lasts : record.ttl ≠ 0)
    (cacheable : record.setType.isMeta = false)
    (nothing : cache.live? now record.name.toAbsolute (.type record.setType) = none)
    (credibility : Credibility) :
    ((Operation.addRecord record credibility).apply now cache).GivesBare now := by
  have after := reachable.operation now (.addRecord record credibility) trivial
  have settles := apply_addRecord_settles reachable.tidy now record credibility cacheable
  have found := settles.there _ (Setoid.refl _)
  have lasting : (RRset.ofRecord (kept record)).ttl ≠ 0 := by
    rw [RRset.ofRecord_ttl]
    exact lasts
  have empty : cache.live? now (kept record).name (.type (kept record).setType) = none := nothing
  rw [empty, recordSettled, Option.filter_none, settled, Option.filter_none, Option.none_or,
    entryOfSet?, if_neg (not_or.mpr ⟨lasting, keepsSets⟩)] at found
  have alive := live?_eq_some_iff.mpr ⟨found, ofSet_alive inTime lasting keepsSets credibility⟩
  exact (givesBare_iff after now).mpr ⟨_, _, _, RRset.ofRecord (kept record), rfl, alive, rfl,
    RRset.bare_ofRecord.mpr signed⟩

end Cache

end StubResolver
