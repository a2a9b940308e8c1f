/-
This file proves that nothing is lost and nothing invented when the records of a section are read as
sets. Every record is found again, once, in one set. What a set holds is the first of its kind in
the section, with the lifetime that it has there. Sets come in the order of their first records, and
records and signatures of a set in the order of the section.

Sections are read from the front, so that everything is proved by adding one more record at the end.
What carries it is that a record finds its set whatever else is there: no two sets accept one
record, and a record that is known already changes nothing.

A record joins a set only after the set was asked whether it accepts the record, and starts one that
accepts it. So the refusal of records that do not belong to a set is never met.
-/

import Mathlib.Data.List.Induction
import StubResolver.Proofs.RRset

namespace StubResolver

/-! ### Sets and records that count for the same -/

/-- A set accepts all or none of the records that count for the same. -/
theorem RRset.accepts_eq_of_equiv (set : RRset) {record other : Record} (same : record ≈ other) :
    set.accepts record = set.accepts other := by
  obtain ⟨name, recordClass, _, _⟩ :=
    Record.mk.inj ((Record.equiv_iff_identity record other).mp same)
  have owner : record.name ≈ other.name := name
  rw [Bool.eq_iff_iff, accepts_iff, accepts_iff, recordClass,
    Record.setType_eq_of_equiv record other same]
  exact and_congr_left' ⟨Setoid.trans (Setoid.symm owner), Setoid.trans owner⟩

theorem Record.isSignature_eq_of_equiv {record other : Record} (same : record ≈ other) :
    record.isSignature = other.isSignature := by
  unfold isSignature
  rw [type_eq_of_equiv record other same]

theorem RRset.ofRecord_accepts (record : Record) : (ofRecord record).accepts record = true :=
  (accepts_iff _ record).mpr (by simp [Setoid.refl])

theorem RRset.addUnlessPresent_of_known {records : List Record} {record other : Record}
    (known : other ∈ records) (same : record ≈ other) :
    addUnlessPresent records record = records :=
  if_pos (List.any_eq_true.mpr ⟨other, known, decide_eq_true same⟩)

theorem RRset.addUnlessPresent_sublist {records given : List Record}
    (sublist : records.Sublist given) (record : Record) :
    (addUnlessPresent records record).Sublist (given ++ [record]) := by
  unfold addUnlessPresent
  split
  · exact sublist.trans (List.sublist_append_left _ _)
  · exact sublist.append (List.Sublist.refl _)

/-- A coherent set does not change when a record is inserted that it has. -/
theorem RRset.Coherent.insert_of_known {set : RRset} (coherent : set.Coherent)
    {record other : Record} (known : other ∈ set.all) (same : record ≈ other) :
    set.insert record = set := by
  cases signed : record.isSignature with
  | true =>
    have isSignature := (coherent.mem_signatures_iff other).mpr
      ⟨known, Record.isSignature_eq_of_equiv same ▸ signed⟩
    rw [insert_of_signed set signed, addUnlessPresent_of_known isSignature same]
  | false =>
    have isRecord := (coherent.mem_records_iff other).mpr
      ⟨known, Record.isSignature_eq_of_equiv same ▸ signed⟩
    rw [insert_of_unsigned set signed, addUnlessPresent_of_known isRecord same]

namespace Message

/-! ### Placing one record -/

theorem groupRecords_snoc (records : List Record) (record : Record) :
    groupRecords (records ++ [record]) = placeRecord record (groupRecords records) := by
  unfold groupRecords
  rw [List.foldl_append]
  rfl

/-- The records that sets accept stay the same, and a set that is new accepts its record. -/
theorem map_accepts_placeRecord (record : Record) (sets : List RRset) :
    (placeRecord record sets).map RRset.accepts = sets.map RRset.accepts ++
      if sets.any fun set => set.accepts record then [] else
        [(RRset.ofRecord record).accepts] := by
  induction sets with
  | nil => rfl
  | cons head rest inductionHypothesis =>
    unfold placeRecord
    by_cases accepted : head.accepts record = true
    · rw [if_pos accepted, List.any_cons, accepted, Bool.true_or, if_pos rfl, List.append_nil,
        List.map_cons, List.map_cons, funext (head.insert_accepts record)]
    · rw [if_neg accepted, List.any_cons, Bool.eq_false_iff.mpr accepted, Bool.false_or,
        List.map_cons, List.map_cons, inductionHypothesis, List.cons_append]

/-- A set among others after a record was placed was there before, or has had the record inserted;
before that it was there or empty. -/
theorem mem_placeRecord_cases {record : Record} {sets : List RRset} {set : RRset}
    (member : set ∈ placeRecord record sets) :
    set ∈ sets ∨ ∃ old : RRset, (old ∈ sets ∨ old.records = [] ∧ old.signatures = []) ∧
      set = old.insert record := by
  induction sets with
  | nil =>
    rw [List.mem_singleton.mp member]
    exact Or.inr ⟨_, Or.inr ⟨rfl, rfl⟩, rfl⟩
  | cons head rest inductionHypothesis =>
    unfold placeRecord at member
    split at member
    · rcases List.mem_cons.mp member with rfl | later
      · exact Or.inr ⟨head, Or.inl List.mem_cons_self, rfl⟩
      · exact Or.inl (List.mem_cons_of_mem _ later)
    · rcases List.mem_cons.mp member with rfl | later
      · exact Or.inl List.mem_cons_self
      · rcases inductionHypothesis later with known | ⟨old, source, inserted⟩
        · exact Or.inl (List.mem_cons_of_mem _ known)
        · exact Or.inr ⟨old, source.imp_left (List.mem_cons_of_mem _), inserted⟩

/-- A record is known to sets if one of them has a record that counts for the same. -/
def IsKnown (record : Record) (sets : List RRset) : Prop :=
  ∃ set ∈ sets, ∃ other ∈ set.all, record ≈ other

/-- Placing a record that is known changes nothing: the set that accepts it is the one that has
it. -/
theorem placeRecord_of_isKnown {record : Record} {sets : List RRset}
    (coherent : ∀ set ∈ sets, set.Coherent)
    (apart : sets.Pairwise fun first second => ¬ first.SamePlace second)
    (known : IsKnown record sets) : placeRecord record sets = sets := by
  induction sets with
  | nil =>
    obtain ⟨_, none, _⟩ := known
    cases none
  | cons head rest inductionHypothesis =>
    obtain ⟨set, member, other, inside, same⟩ := known
    obtain ⟨fromRest, restApart⟩ := List.pairwise_cons.mp apart
    have accepts : set.accepts record = true :=
      (set.accepts_eq_of_equiv same).trans ((coherent set member).belong other inside)
    unfold placeRecord
    split
    · rename_i accepted
      rcases List.mem_cons.mp member with rfl | later
      · rw [(coherent set List.mem_cons_self).insert_of_known inside same]
      · exact absurd (.of_accepts accepted accepts) (fromRest set later)
    · rename_i refused
      rcases List.mem_cons.mp member with rfl | later
      · exact absurd accepts refused
      · rw [inductionHypothesis (fun other present => coherent other (List.mem_cons_of_mem _ present))
          restApart ⟨set, later, other, inside, same⟩]

/-- The records of a section are known to the sets that they are read as. -/
theorem isKnown_iff {records : List Record} {record : Record} :
    IsKnown record (groupRecords records) ↔ ∃ other ∈ records, record ≈ other := by
  constructor
  · rintro ⟨set, member, other, inside, same⟩
    exact ⟨other, (groupRecords_from records set member).2 other inside, same⟩
  · rintro ⟨other, present, same⟩
    obtain ⟨set, member, _, twin, inside, alike⟩ := groupRecords_mem present
    exact ⟨set, member, twin, inside, Setoid.trans same (Setoid.symm alike)⟩

theorem groupRecords_snoc_of_known {records : List Record} {record other : Record}
    (known : other ∈ records) (same : record ≈ other) :
    groupRecords (records ++ [record]) = groupRecords records := by
  rw [groupRecords_snoc]
  exact placeRecord_of_isKnown (groupRecords_coherent records) (groupRecords_apart records)
    (isKnown_iff.mpr ⟨other, known, same⟩)

/-! ### No record is refused -/

/-- Sets with one more record, where every set that takes it in may refuse it. -/
def addRecord (record : Record) : List RRset → Except RRset.Misfit (List RRset)
  | [] => do
    let set ← RRset.add ⟨record.name, record.setType, record.recordClass, [], []⟩ record
    return [set]
  | set :: rest => do
    if set.accepts record then
      return (← set.add record) :: rest
    else
      return set :: (← addRecord record rest)

/-- Records as sets, up to the first that is refused. -/
def addRecords (records : List Record) : Except RRset.Misfit (List RRset) :=
  records.foldlM (fun sets record => addRecord record sets) []

theorem addRecord_eq (record : Record) (sets : List RRset) :
    addRecord record sets = .ok (placeRecord record sets) := by
  induction sets with
  | nil =>
    have accepted : RRset.accepts ⟨record.name, record.setType, record.recordClass, [], []⟩ record =
        true := (RRset.accepts_iff _ record).mpr ⟨Setoid.refl _, rfl, rfl⟩
    unfold addRecord RRset.add
    rw [if_pos accepted]
    rfl
  | cons head rest inductionHypothesis =>
    unfold addRecord placeRecord RRset.add
    by_cases accepted : head.accepts record = true
    · rw [if_pos accepted, if_pos accepted, if_pos accepted]
      rfl
    · rw [if_neg accepted, if_neg accepted, inductionHypothesis]
      rfl

theorem addRecords_eq (records : List Record) :
    addRecords records = .ok (groupRecords records) := by
  have grows (sets : List RRset) :
      records.foldlM (fun sets record => addRecord record sets) sets =
        .ok (records.foldl (fun sets record => placeRecord record sets) sets) := by
    induction records generalizing sets with
    | nil => rfl
    | cons record rest inductionHypothesis =>
      rw [List.foldlM_cons, addRecord_eq]
      exact inductionHypothesis _
  exact grows []

/-! ### What is found again -/

/-- What is in a set is the first in the section that counts for the same. -/
theorem find?_of_mem_groupRecords (records : List Record) {set : RRset} {member : Record}
    (isSet : set ∈ groupRecords records) (inside : member ∈ set.all) :
    records.find? (fun record => record ≈ member) = some member := by
  induction records using List.reverseRecOn generalizing set with
  | nil => cases isSet
  | append_singleton records record inductionHypothesis =>
    have stays (old : RRset) (isOld : old ∈ groupRecords records) (present : member ∈ old.all) :
        (records ++ [record]).find? (fun record => record ≈ member) = some member := by
      rw [List.find?_append, inductionHypothesis isOld present]
      rfl
    by_cases known : ∃ other ∈ records, record ≈ other
    · obtain ⟨other, present, same⟩ := known
      rw [groupRecords_snoc_of_known present same] at isSet
      exact stays set isSet inside
    · rw [groupRecords_snoc] at isSet
      rcases mem_placeRecord_cases isSet with isOld | ⟨old, source, rfl⟩
      · exact stays set isOld inside
      · rcases RRset.mem_insert_all inside with before | rfl
        · rcases source with isOld | ⟨noRecords, noSignatures⟩
          · exact stays old isOld before
          · rw [RRset.all, noRecords, noSignatures] at before
            cases before
        · have unknown : records.find? (fun record => record ≈ member) = none := by
            refine List.find?_eq_none.mpr fun other present same => known ⟨other, present, ?_⟩
            exact Setoid.symm (of_decide_eq_true same)
          rw [List.find?_append, unknown, Option.none_or, List.find?_cons_of_pos]
          exact decide_eq_true (Setoid.refl member)

/-- No two records of the sets count for the same. -/
theorem groupRecords_distinct (records : List Record) :
    ((groupRecords records).flatMap RRset.all).Pairwise fun first second => ¬ first ≈ second := by
  have coherent := groupRecords_coherent records
  refine List.pairwise_flatMap.mpr ⟨fun set member => ?_, ?_⟩
  · refine List.pairwise_append.mpr ⟨(coherent set member).distinct,
      (coherent set member).distinctSignatures, fun record isRecord signature isSignature same => ?_⟩
    have unsigned := (coherent set member).records record isRecord
    rw [Record.isSignature_eq_of_equiv same,
      (coherent set member).signatures signature isSignature] at unsigned
    cases unsigned
  · refine (groupRecords_apart records).imp_of_mem ?_
    intro first second isFirst isSecond differ record inFirst other inSecond same
    have accepted := (coherent first isFirst).belong record inFirst
    have accepts := (coherent second isSecond).belong other inSecond
    rw [← second.accepts_eq_of_equiv same] at accepts
    exact differ (.of_accepts accepted accepts)

/-- Every record of a section is found in the sets once. -/
theorem countP_groupRecords {records : List Record} {record : Record}
    (present : record ∈ records) :
    ((groupRecords records).flatMap RRset.all).countP (fun member => record ≈ member) = 1 := by
  rw [List.countP_eq_length_filter]
  refine Nat.le_antisymm ?_ (List.length_pos_iff.mpr ?_)
  · refine short_of_pairwise ((groupRecords_distinct records).filter _) ?_
    intro first isFirst second isSecond
    have sameFirst : record ≈ first := of_decide_eq_true (List.mem_filter.mp isFirst).2
    have sameSecond : record ≈ second := of_decide_eq_true (List.mem_filter.mp isSecond).2
    exact Setoid.trans (Setoid.symm sameFirst) sameSecond
  · obtain ⟨set, member, other, inside, same⟩ :=
      isKnown_iff.mpr ⟨record, present, Setoid.refl record⟩
    exact List.ne_nil_of_mem (List.mem_filter.mpr
      ⟨List.mem_flatMap.mpr ⟨set, member, inside⟩, decide_eq_true same⟩)

/-! ### Order -/

/-- Some record of the section is the first that belongs to a set. -/
theorem findIdx_lt_of_mem_groupRecords {records : List Record} {set : RRset}
    (member : set ∈ groupRecords records) : records.findIdx set.accepts < records.length := by
  have coherent := groupRecords_coherent records set member
  obtain ⟨record, inside⟩ := List.exists_mem_of_ne_nil _ coherent.filled
  exact List.findIdx_lt_length_of_exists
    ⟨record, (groupRecords_from records set member).2 record inside, coherent.belong record inside⟩

/-- The sets stand in the order of their first records. -/
theorem groupRecords_inOrder (records : List Record) :
    (groupRecords records).Pairwise fun first second =>
      records.findIdx first.accepts < records.findIdx second.accepts := by
  suffices ordered : ((groupRecords records).map RRset.accepts).Pairwise
      fun first second => records.findIdx first < records.findIdx second by
    rwa [List.pairwise_map] at ordered
  induction records using List.reverseRecOn with
  | nil => exact List.Pairwise.nil
  | append_singleton records record inductionHypothesis =>
    have settled (accepts : Record → Bool)
        (member : accepts ∈ (groupRecords records).map RRset.accepts) :
        (records ++ [record]).findIdx accepts = records.findIdx accepts ∧
          records.findIdx accepts < records.length := by
      obtain ⟨set, isSet, rfl⟩ := List.mem_map.mp member
      have bound := findIdx_lt_of_mem_groupRecords isSet
      rw [List.findIdx_append, if_pos bound]
      exact ⟨rfl, bound⟩
    rw [groupRecords_snoc, map_accepts_placeRecord]
    refine List.pairwise_append.mpr ⟨inductionHypothesis.imp_of_mem ?_, ?_, ?_⟩
    · intro first second isFirst isSecond before
      rw [(settled first isFirst).1, (settled second isSecond).1]
      exact before
    · split
      · exact List.Pairwise.nil
      · exact List.pairwise_singleton _ _
    · intro first isFirst second isNew
      split at isNew
      · cases isNew
      · rename_i refused
        rw [List.mem_singleton.mp isNew, (settled first isFirst).1]
        -- the record is the first that belongs to its set, or an old set would accept it
        have new : ∀ other ∈ records, (RRset.ofRecord record).accepts other = false := by
          intro other present
          refine Bool.eq_false_iff.mpr fun belongs => refused ?_
          obtain ⟨set, isSet, accepted, _⟩ := groupRecords_mem present
          have place := RRset.SamePlace.of_accepts accepted belongs
          exact List.any_eq_true.mpr
            ⟨set, isSet, place.accepts (RRset.ofRecord_accepts record)⟩
        rw [List.findIdx_append, List.findIdx_eq_length_of_false new, if_neg (Nat.lt_irrefl _)]
        exact Nat.lt_of_lt_of_le (settled first isFirst).2 (Nat.le_add_left _ _)

/-- The records of a set, and its signatures, stand in the order of the section. -/
theorem groupRecords_sublist (records : List Record) :
    ∀ set ∈ groupRecords records, set.records.Sublist records ∧ set.signatures.Sublist records := by
  induction records using List.reverseRecOn with
  | nil =>
    intro set none
    cases none
  | append_singleton records record inductionHypothesis =>
    have longer : records.Sublist (records ++ [record]) := List.sublist_append_left _ _
    intro set member
    rw [groupRecords_snoc] at member
    rcases mem_placeRecord_cases member with known | ⟨old, source, rfl⟩
    · exact (inductionHypothesis set known).imp (·.trans longer) (·.trans longer)
    · have ordered : old.records.Sublist records ∧ old.signatures.Sublist records := by
        rcases source with known | ⟨noRecords, noSignatures⟩
        · exact inductionHypothesis old known
        · rw [noRecords, noSignatures]
          exact ⟨List.nil_sublist _, List.nil_sublist _⟩
      cases signed : record.isSignature with
      | true =>
        rw [RRset.insert_of_signed old signed]
        exact ⟨ordered.1.trans longer, RRset.addUnlessPresent_sublist ordered.2 record⟩
      | false =>
        rw [RRset.insert_of_unsigned old signed]
        exact ⟨RRset.addUnlessPresent_sublist ordered.1 record, ordered.2.trans longer⟩

end Message

/-! ### Lifetimes -/

/-- What the lifetime of a set is taken from: its records, or its signatures if it has no others. -/
def RRset.timed (set : RRset) : List Record :=
  if set.records = [] then set.signatures else set.records

/-- The lifetime of a set is the shortest of those it is taken from. -/
theorem RRset.Coherent.ttl_least {set : RRset} (coherent : set.Coherent) :
    (∃ record ∈ set.timed, set.ttl = record.ttl) ∧
      ∀ record ∈ set.timed, set.ttl ≤ record.ttl := by
  have filled : set.timed ≠ [] := by
    unfold timed
    split
    · rename_i bare
      have filled := coherent.filled
      rwa [all, bare, List.nil_append] at filled
    · assumption
  have source : set.ttl = shortestTtl set.timed := by
    simp only [ttl_eq, timed, List.isEmpty_iff]
  rw [source]
  exact ⟨exists_shortestTtl_eq filled, fun record => shortestTtl_le⟩

/-! ### The sets of a section -/

/-- What there is to say of the sets that the records of a section are read as. -/
structure Message.Regroups (records : List Record) (sets : List RRset) : Prop where
  /-- Every record of the section is a member of one of the sets, once. -/
  once : ∀ record ∈ records,
    (sets.flatMap RRset.all).countP (fun member => record ≈ member) = 1
  /-- A member of a set is the first record of the section that counts for the same. -/
  first : ∀ set ∈ sets, ∀ member ∈ set.all,
    records.find? (fun record => record ≈ member) = some member
  /-- No two sets are of one owner, class and type. -/
  apart : sets.Pairwise fun first second => ¬ first.SamePlace second
  /-- The sets stand in the order of the first records that belong to them. -/
  inOrder : sets.Pairwise fun first second =>
    records.findIdx first.accepts < records.findIdx second.accepts
  /-- The members of a set belong to it. -/
  belong : ∀ set ∈ sets, ∀ member ∈ set.all, set.accepts member = true
  /-- Its records stand in the order of the section, and none of them is a signature. -/
  data : ∀ set ∈ sets, set.records.Sublist records ∧
    ∀ record ∈ set.records, record.isSignature = false
  /-- So do its signatures, which are those that cover its type. -/
  signatures : ∀ set ∈ sets, set.signatures.Sublist records ∧
    ∀ signature ∈ set.signatures, signature.isSignature = true ∧
      ∀ covered, signature.data.covered? = some covered → covered = set.type
  /-- Its lifetime is the shortest of its records, or of its signatures if it has no others. -/
  lifetime : ∀ set ∈ sets, (∃ record ∈ set.timed, set.ttl = record.ttl) ∧
    ∀ record ∈ set.timed, set.ttl ≤ record.ttl

theorem Message.groupRecords_regroups (records : List Record) :
    Regroups records (groupRecords records) where
  once _ := countP_groupRecords
  first _ isSet _ := find?_of_mem_groupRecords records isSet
  apart := groupRecords_apart records
  inOrder := groupRecords_inOrder records
  belong set isSet := (groupRecords_coherent records set isSet).belong
  data set isSet :=
    ⟨(groupRecords_sublist records set isSet).1, (groupRecords_coherent records set isSet).records⟩
  signatures set isSet := by
    have coherent := groupRecords_coherent records set isSet
    refine ⟨(groupRecords_sublist records set isSet).2, fun signature inside =>
      ⟨coherent.signatures signature inside, fun covered covers => ?_⟩⟩
    have belongs := coherent.belong signature (List.mem_append_right _ inside)
    have type := ((RRset.accepts_iff set signature).mp belongs).2.2
    rwa [Record.setType, covers, Option.getD_some] at type
  lifetime set isSet := (groupRecords_coherent records set isSet).ttl_least

/-- Whatever section of a message is read as sets, no record is refused, and the sets hold the
records of the section, each once and nothing else. -/
theorem Message.sets_regroup (message : Message) (part : Section) :
    addRecords (message.records part) = .ok (message.sets part) ∧
      Regroups (message.records part) (message.sets part) :=
  ⟨addRecords_eq _, groupRecords_regroups _⟩

end StubResolver
