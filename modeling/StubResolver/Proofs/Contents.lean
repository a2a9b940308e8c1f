/-
This file says what remains of sets when the order of records means nothing. The contents of a set
are its place and what it holds, and its lifetime depends on no more than that.

Records that come in another order are read as sets of the same contents, provided that they are in
one form. A set keeps the spelling of the record that started it, and of two records that differ
only in their lifetimes it keeps the first. So what the records have to be free of is capitals and
second lifetimes.
-/

import Mathlib.Data.Multiset.Defs
import Mathlib.Logic.Function.Basic
import StubResolver.Proofs.LetterCase.Messages

namespace StubResolver

namespace RRset

/-! ### The contents of a set -/

/-- What a set comes to when the order of its records and signatures means nothing. -/
structure Content where
  name : Name
  type : RecordType
  recordClass : RecordClass
  records : Multiset Record
  signatures : Multiset Record

/-- The contents of a set. -/
def content (set : RRset) : Content :=
  ⟨set.name, set.type, set.recordClass, set.records, set.signatures⟩

theorem content_eq_iff {first second : RRset} :
    first.content = second.content ↔
      first.name = second.name ∧ first.type = second.type ∧
        first.recordClass = second.recordClass ∧ first.records.Perm second.records ∧
        first.signatures.Perm second.signatures := by
  simp [content]

/-! ### Lists of sets -/

section

variable {sets others : List RRset}

/-- What depends on contents alone selects the same from lists of the same contents. -/
theorem filter_content {keep : RRset → Bool} (respects : keep.FactorsThrough content)
    (same : sets.map content = others.map content) :
    (sets.filter keep).map content = (others.filter keep).map content := by
  obtain ⟨test, rfl⟩ := (Function.factorsThrough_iff keep).mp respects
  rw [← List.filter_map, ← List.filter_map, same]

theorem filter_content_perm {keep : RRset → Bool} (respects : keep.FactorsThrough content)
    (same : (sets.map content).Perm (others.map content)) :
    ((sets.filter keep).map content).Perm ((others.filter keep).map content) := by
  obtain ⟨test, rfl⟩ := (Function.factorsThrough_iff keep).mp respects
  rw [← List.filter_map, ← List.filter_map]
  exact same.filter test

/-- What depends on contents alone makes the same of lists of the same contents. -/
theorem map_eq_of_content {Result : Type} {change : RRset → Result}
    (respects : change.FactorsThrough content) (same : sets.map content = others.map content) :
    sets.map change = others.map change := by
  induction sets generalizing others with
  | nil => rw [List.map_eq_nil_iff.mp same.symm]
  | cons set rest inductionHypothesis =>
    obtain ⟨twin, later, rfl, content, restSame⟩ := List.map_eq_cons_iff.mp same.symm
    rw [List.map_cons, List.map_cons, respects content, inductionHypothesis restSame.symm]

/-- A set has its like in a list of the same contents. -/
theorem exists_of_content_perm (same : (sets.map content).Perm (others.map content)) {set : RRset}
    (member : set ∈ sets) : ∃ other ∈ others, set.content = other.content := by
  obtain ⟨other, present, content⟩ :=
    List.mem_map.mp (same.mem_iff.mp (List.mem_map_of_mem member))
  exact ⟨other, present, content.symm⟩

end

/-! ### Lifetimes -/

/-- The shortest lifetime does not depend on the order of records. -/
theorem shortestTtl_perm {records others : List Record} (reordered : records.Perm others) :
    shortestTtl records = shortestTtl others := by
  have least {records others : List Record} (reordered : records.Perm others)
      (filled : records ≠ []) : shortestTtl others ≤ shortestTtl records := by
    obtain ⟨record, present, same⟩ := exists_shortestTtl_eq filled
    rw [same]
    exact shortestTtl_le (reordered.mem_iff.mp present)
  by_cases bare : records = []
  · rw [bare] at reordered ⊢
    rw [reordered.symm.eq_nil]
  · exact UInt32.le_antisymm
      (least reordered.symm fun none => bare (reordered.trans (none ▸ .nil)).eq_nil)
      (least reordered bare)

/-- Sets of the same contents have one lifetime. -/
theorem ttl_eq_of_content {first second : RRset} (same : first.content = second.content) :
    first.ttl = second.ttl := by
  obtain ⟨_, _, _, records, signatures⟩ := content_eq_iff.mp same
  rw [ttl_eq, ttl_eq, records.isEmpty_eq]
  split
  · exact shortestTtl_perm signatures
  · exact shortestTtl_perm records

end RRset

/-! ### Records in one form -/

/-- Records in lower case, none of which comes with two lifetimes. -/
structure Record.OneForm (records : List Record) : Prop where
  plain : ∀ record ∈ records, record.lowered = record
  oneTtl : ∀ first ∈ records, ∀ second ∈ records, first ≈ second → first.ttl = second.ttl

/-- Records that are the same and have one lifetime differ at most in the case of letters. -/
theorem Record.lowered_eq_of_equiv {first second : Record} (same : first ≈ second)
    (ttl : first.ttl = second.ttl) : first.lowered = second.lowered := by
  obtain ⟨name, recordClass, _, data⟩ := Record.mk.inj ((equiv_iff_identity first second).mp same)
  unfold lowered
  rw [name, recordClass, ttl, data]

theorem Record.lowered_equiv_lowered {first second : Record} :
    first.lowered ≈ second.lowered ↔ first ≈ second := by
  rw [equiv_iff_identity, equiv_iff_identity, identity_lowered, identity_lowered]

/-- Records without second lifetimes are in one form once they are in lower case. -/
theorem Record.oneForm_lowered {records : List Record}
    (oneTtl : ∀ first ∈ records, ∀ second ∈ records, first ≈ second → first.ttl = second.ttl) :
    OneForm (records.map lowered) where
  plain := by
    intro record member
    obtain ⟨original, _, rfl⟩ := List.mem_map.mp member
    simp [lowered]
  oneTtl := by
    intro first isFirst second isSecond same
    obtain ⟨original, present, rfl⟩ := List.mem_map.mp isFirst
    obtain ⟨other, otherPresent, rfl⟩ := List.mem_map.mp isSecond
    exact oneTtl original present other otherPresent (lowered_equiv_lowered.mp same)

namespace Record.OneForm

variable {records others : List Record}

theorem perm (oneForm : OneForm records) (reordered : records.Perm others) : OneForm others where
  plain record member := oneForm.plain record (reordered.mem_iff.mpr member)
  oneTtl first isFirst second isSecond :=
    oneForm.oneTtl first (reordered.mem_iff.mpr isFirst) second (reordered.mem_iff.mpr isSecond)

theorem eq_of_equiv (oneForm : OneForm records) {first second : Record} (isFirst : first ∈ records)
    (isSecond : second ∈ records) (same : first ≈ second) : first = second := by
  rw [← oneForm.plain first isFirst, ← oneForm.plain second isSecond]
  exact lowered_eq_of_equiv same (oneForm.oneTtl first isFirst second isSecond same)

/-! ### Sets of records in one form -/

theorem plainName (oneForm : OneForm records) {set : RRset}
    (member : set ∈ Message.groupRecords records) : set.name.lowered = set.name := by
  obtain ⟨record, present, same⟩ := (Message.groupRecords_from records set member).1
  rw [same]
  exact congrArg Record.name (oneForm.plain record present)

/-- A set holds all the records that belong to it, and no others. -/
theorem mem_all_iff (oneForm : OneForm records) {set : RRset}
    (member : set ∈ Message.groupRecords records) (record : Record) :
    record ∈ set.all ↔ record ∈ records ∧ set.accepts record = true := by
  constructor
  · intro inside
    exact ⟨(Message.groupRecords_from records set member).2 record inside,
      (Message.groupRecords_coherent records set member).belong record inside⟩
  · rintro ⟨present, accepted⟩
    obtain ⟨other, found, accepts, twin, inside, same⟩ := Message.groupRecords_mem present
    obtain rfl : set = other :=
      Message.groupRecords_unique member found (.of_accepts accepted accepts)
    have source := (Message.groupRecords_from records set member).2 twin inside
    rwa [oneForm.eq_of_equiv source present same] at inside

/-- So its contents are settled by its place. -/
theorem content_eq (oneForm : OneForm records) (reordered : records.Perm others)
    {set other : RRset} (member : set ∈ Message.groupRecords records)
    (otherMember : other ∈ Message.groupRecords others) (same : set.SamePlace other) :
    set.content = other.content := by
  have coherent := Message.groupRecords_coherent records set member
  have otherCoherent := Message.groupRecords_coherent others other otherMember
  have otherForm := oneForm.perm reordered
  have all (record : Record) : record ∈ set.all ↔ record ∈ other.all := by
    rw [oneForm.mem_all_iff member, otherForm.mem_all_iff otherMember, reordered.mem_iff,
      same.accepts_eq]
  have distinct {records : List Record}
      (apart : records.Pairwise fun first second => ¬ first ≈ second) : records.Nodup := by
    refine List.Pairwise.imp (fun differ same => differ ?_) apart
    rw [same]
  refine RRset.content_eq_iff.mpr ⟨?_, same.2.2, same.2.1, ?_, ?_⟩
  · rw [← oneForm.plainName member, ← otherForm.plainName otherMember]
    exact same.1
  · refine (List.perm_ext_iff_of_nodup (distinct coherent.distinct)
      (distinct otherCoherent.distinct)).mpr fun record => ?_
    rw [coherent.mem_records_iff, otherCoherent.mem_records_iff, all]
  · refine (List.perm_ext_iff_of_nodup (distinct coherent.distinctSignatures)
      (distinct otherCoherent.distinctSignatures)).mpr fun record => ?_
    rw [coherent.mem_signatures_iff, otherCoherent.mem_signatures_iff, all]

theorem exists_content_eq (oneForm : OneForm records) (reordered : records.Perm others)
    {set : RRset} (member : set ∈ Message.groupRecords records) :
    ∃ other ∈ Message.groupRecords others, other.content = set.content := by
  have coherent := Message.groupRecords_coherent records set member
  obtain ⟨record, inside⟩ := List.exists_mem_of_ne_nil _ coherent.filled
  obtain ⟨present, accepted⟩ := (oneForm.mem_all_iff member record).mp inside
  obtain ⟨other, found, accepts, _⟩ :=
    Message.groupRecords_mem (reordered.mem_iff.mp present)
  exact ⟨other, found, (oneForm.content_eq reordered member found
    (.of_accepts accepted accepts)).symm⟩

/-- Records in another order are read as sets of the same contents. -/
theorem groupRecords_content (oneForm : OneForm records) (reordered : records.Perm others) :
    ((Message.groupRecords records).map RRset.content).Perm
      ((Message.groupRecords others).map RRset.content) := by
  have distinct (records : List Record) :
      ((Message.groupRecords records).map RRset.content).Nodup := by
    refine List.pairwise_map.mpr ((Message.groupRecords_apart records).imp fun apart same => ?_)
    obtain ⟨name, type, recordClass, _⟩ := RRset.content_eq_iff.mp same
    exact apart ⟨name ▸ Setoid.refl _, recordClass, type⟩
  have part {records others : List Record} (oneForm : OneForm records)
      (reordered : records.Perm others) (content : RRset.Content)
      (member : content ∈ (Message.groupRecords records).map RRset.content) :
      content ∈ (Message.groupRecords others).map RRset.content := by
    obtain ⟨set, present, rfl⟩ := List.mem_map.mp member
    obtain ⟨other, found, same⟩ := oneForm.exists_content_eq reordered present
    exact List.mem_map.mpr ⟨other, found, same⟩
  exact (List.perm_ext_iff_of_nodup (distinct _) (distinct _)).mpr fun content =>
    ⟨part oneForm reordered content,
      part (oneForm.perm reordered) reordered.symm content⟩

end Record.OneForm

end StubResolver
