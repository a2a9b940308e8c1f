/-
This file proves that merging sets of records is a union in order. What the first set has stays
where it is, with its lifetimes; then comes what the second has and the first lacks, in the order of
the second. Of records that count for the same, the one that is there first is kept.

Whether a set lacks a record depends on what the record counts for, and not on which of those that
count for the same is asked about. So it makes no difference which of several merges is done first.
That no record is refused is owed to the sets: one that was built holds nothing but records of its
place.
-/

import StubResolver.Proofs.Grouping
import StubResolver.Proofs.Name.Letters

namespace StubResolver

/-! ### What is lacking -/

namespace Record

/-- Those of some records that count for none of the known ones, in their order. -/
def lacking (known records : List Record) : List Record :=
  records.filter fun record => ∀ other ∈ known, ¬ record ≈ other

/-- Known records, and behind them those of others that are lacking. -/
def unite (known records : List Record) : List Record := known ++ lacking known records

section

variable {known records first second : List Record}

theorem mem_lacking_iff {record : Record} :
    record ∈ lacking known records ↔ record ∈ records ∧ ∀ other ∈ known, ¬ record ≈ other := by
  simp [lacking]

theorem lacking_eq_nil (covered : ∀ record ∈ records, ∃ other ∈ known, record ≈ other) :
    lacking known records = [] := by
  refine List.eq_nil_iff_forall_not_mem.mpr fun record member => ?_
  obtain ⟨present, unknown⟩ := mem_lacking_iff.mp member
  obtain ⟨other, isKnown, same⟩ := covered record present
  exact unknown other isKnown same

/-- A record counts for one of two united lists if it counts for one of either. -/
theorem exists_mem_unite_iff {record : Record} :
    (∃ other ∈ unite first second, record ≈ other) ↔
      (∃ other ∈ first, record ≈ other) ∨ ∃ other ∈ second, record ≈ other := by
  constructor
  · rintro ⟨other, member, same⟩
    rcases List.mem_append.mp member with inFirst | lacked
    · exact Or.inl ⟨other, inFirst, same⟩
    · exact Or.inr ⟨other, (mem_lacking_iff.mp lacked).1, same⟩
  · rintro (⟨other, inFirst, same⟩ | ⟨other, inSecond, same⟩)
    · exact ⟨other, List.mem_append_left _ inFirst, same⟩
    · by_cases known : ∃ twin ∈ first, other ≈ twin
      · obtain ⟨twin, inFirst, alike⟩ := known
        exact ⟨twin, List.mem_append_left _ inFirst, Setoid.trans same alike⟩
      · have lacked : other ∈ lacking first second :=
          mem_lacking_iff.mpr ⟨inSecond, fun twin inFirst alike => known ⟨twin, inFirst, alike⟩⟩
        exact ⟨other, List.mem_append_right _ lacked, same⟩

/-- What two united lists lack, the first lacks of what the second lacks. -/
theorem lacking_unite (first second third : List Record) :
    lacking (unite first second) third = lacking first (lacking second third) := by
  have neither (record : Record) : (∀ other ∈ unite first second, ¬ record ≈ other) ↔
      (∀ other ∈ first, ¬ record ≈ other) ∧ ∀ other ∈ second, ¬ record ≈ other := by
    simpa only [not_or, not_exists, not_and] using not_congr exists_mem_unite_iff
  unfold lacking
  rw [List.filter_filter]
  refine List.filter_congr fun record _ => ?_
  rw [← Bool.decide_and, decide_eq_decide]
  exact neither record

theorem unite_assoc (first second third : List Record) :
    unite (unite first second) third = unite first (unite second third) := by
  have behind : lacking first (second ++ lacking second third) =
      lacking first second ++ lacking first (lacking second third) := List.filter_append ..
  calc unite (unite first second) third
      = first ++ lacking first second ++ lacking first (lacking second third) := by
        rw [unite, lacking_unite, unite]
    _ = unite first (unite second third) := by
        rw [List.append_assoc, ← behind, unite, unite]

/-- Uniting with records of which none is lacking changes nothing. -/
theorem unite_of_covered (covered : ∀ record ∈ records, ∃ other ∈ known, record ≈ other) :
    unite known records = known := by
  rw [unite, lacking_eq_nil covered, List.append_nil]

theorem unite_self (records : List Record) : unite records records = records :=
  unite_of_covered fun record member => ⟨record, member, Setoid.refl record⟩

theorem unite_unite_self (first second : List Record) :
    unite (unite first second) second = unite first second :=
  unite_of_covered fun record member =>
    exists_mem_unite_iff.mpr (Or.inr ⟨record, member, Setoid.refl record⟩)

/-- One more record is united with known ones by adding it, unless it is there. -/
theorem addUnlessPresent_eq_unite (known : List Record) (record : Record) :
    RRset.addUnlessPresent known record = unite known [record] := by
  by_cases isKnown : ∃ other ∈ known, record ≈ other
  · obtain ⟨other, member, same⟩ := isKnown
    rw [RRset.addUnlessPresent_of_known member same, unite_of_covered]
    intro only isOnly
    rw [List.mem_singleton.mp isOnly]
    exact ⟨other, member, same⟩
  · have new : ∀ other ∈ known, ¬ record ≈ other := fun other member same =>
      isKnown ⟨other, member, same⟩
    have lacked : lacking known [record] = [record] :=
      List.filter_cons_of_pos (decide_eq_true new)
    rw [RRset.addUnlessPresent_of_new fun other member same => new other member (Setoid.symm same),
      unite, lacked]

/-- Adding records one by one, unless they are there, unites them with the known ones, if no two of
them count for the same. -/
theorem foldl_addUnlessPresent
    (distinct : records.Pairwise fun first second => ¬ first ≈ second) (known : List Record) :
    records.foldl RRset.addUnlessPresent known = unite known records := by
  induction records generalizing known with
  | nil => exact (List.append_nil known).symm
  | cons record rest inductionHypothesis =>
    obtain ⟨apart, restDistinct⟩ := List.pairwise_cons.mp distinct
    have front : unite [record] rest = record :: rest := by
      have all : lacking [record] rest = rest := by
        refine List.filter_eq_self.mpr fun other member => decide_eq_true fun twin isTwin same => ?_
        rw [List.mem_singleton.mp isTwin] at same
        exact apart other member (Setoid.symm same)
      rw [unite, all, List.singleton_append]
    rw [List.foldl_cons, inductionHypothesis restDistinct, addUnlessPresent_eq_unite, unite_assoc,
      front]

end

end Record

namespace RRset

/-! ### Merging -/

/-- A set with what another has and it lacks. -/
def union (set other : RRset) : RRset :=
  { set with
    records := Record.unite set.records other.records
    signatures := Record.unite set.signatures other.signatures }

/-- No record is refused of those that a set accepts. -/
theorem addAll_of_accepts {set : RRset} {records : List Record}
    (accepted : ∀ record ∈ records, set.accepts record = true) :
    set.addAll records = (records.foldl insert set, none) := by
  induction records generalizing set with
  | nil => rfl
  | cons record rest inductionHypothesis =>
    obtain ⟨first, others⟩ := List.forall_mem_cons.mp accepted
    have added : set.add record = .ok (set.insert record) := add_eq_ok_iff.mpr ⟨first, rfl⟩
    rw [addAll, added]
    refine inductionHypothesis fun other member => ?_
    rw [insert_accepts]
    exact others other member

/-- Records and signatures are added apart. -/
theorem foldl_insert (set : RRset) (records : List Record) :
    records.foldl insert set =
      { set with
        records := (records.filter fun record => !record.isSignature).foldl addUnlessPresent
          set.records
        signatures := (records.filter Record.isSignature).foldl addUnlessPresent
          set.signatures } := by
  induction records generalizing set with
  | nil => rfl
  | cons record rest inductionHypothesis =>
    rw [List.foldl_cons, inductionHypothesis]
    cases signed : record.isSignature with
    | true => simp [insert_of_signed set signed, signed]
    | false => simp [insert_of_unsigned set signed, signed]

section

variable {first second third : RRset}

theorem Built.merge (built : first.Built) (other : RRset) : (first.merge other).1.Built :=
  built.addAll other.all

theorem merge_eq (place : first.SamePlace second) (coherent : second.Coherent) :
    first.merge second = (first.union second, none) := by
  have accepted : ∀ record ∈ second.all, first.accepts record = true := fun record member =>
    place.accepts (coherent.belong record member)
  have records : second.all.filter (fun record => !record.isSignature) = second.records := by
    rw [all, List.filter_append, List.filter_eq_self.mpr, List.filter_eq_nil_iff.mpr,
      List.append_nil]
    · exact fun record member => by simp [coherent.signatures record member]
    · exact fun record member => by simp [coherent.records record member]
  have signatures : second.all.filter Record.isSignature = second.signatures := by
    rw [all, List.filter_append, List.filter_eq_self.mpr coherent.signatures,
      List.filter_eq_nil_iff.mpr, List.nil_append]
    exact fun record member => by simp [coherent.records record member]
  rw [merge, addAll_of_accepts accepted, foldl_insert, records, signatures,
    Record.foldl_addUnlessPresent coherent.distinct,
    Record.foldl_addUnlessPresent coherent.distinctSignatures]
  rfl

theorem union_assoc (first second third : RRset) :
    (first.union second).union third = first.union (second.union third) := by
  simp only [union, Record.unite_assoc]

theorem union_self (set : RRset) : set.union set = set := by
  simp only [union, Record.unite_self]

theorem union_union_self (first second : RRset) :
    (first.union second).union second = first.union second := by
  simp only [union, Record.unite_unite_self]

end

/-! ### Sets of single records -/

/-- The set that adding records leads to, unless one of them was refused. -/
def whole : RRset × Option Misfit → Except Misfit RRset
  | (set, none) => .ok set
  | (_, some misfit) => .error misfit

/-- Sets merged from left to right, as long as no record is refused. -/
def mergeAll? : List RRset → Option (Except Misfit RRset)
  | [] => none
  | first :: rest => some (rest.foldlM (fun set other => whole (set.merge other)) first)

theorem all_ofRecord (record : Record) : (ofRecord record).all = [record] := by
  unfold ofRecord
  cases signed : record.isSignature with
  | true => rw [insert_of_signed _ signed]; rfl
  | false => rw [insert_of_unsigned _ signed]; rfl

theorem whole_addAll (set : RRset) (records : List Record) :
    whole (set.addAll records) = records.foldlM add set := by
  induction records generalizing set with
  | nil => rfl
  | cons record rest inductionHypothesis =>
    rw [addAll, List.foldlM_cons]
    cases set.add record with
    | error misfit => rfl
    | ok larger => exact inductionHypothesis larger

/-- The set of a single record is merged by adding the record. -/
theorem whole_merge_ofRecord (set : RRset) (record : Record) :
    whole (set.merge (ofRecord record)) = set.add record := by
  rw [merge, all_ofRecord, whole_addAll, List.foldlM_cons]
  exact bind_pure _

theorem ofRecords?_cons (record : Record) (rest : List Record) :
    ofRecords? (record :: rest) = some (whole ((ofRecord record).addAll rest)) := by
  rw [ofRecords?]
  rcases (ofRecord record).addAll rest with ⟨set, _ | misfit⟩
  · rfl
  · rfl

theorem ofRecords?_eq_mergeAll? (records : List Record) :
    ofRecords? records = mergeAll? (records.map ofRecord) := by
  cases records with
  | nil => rfl
  | cons record rest =>
    rw [ofRecords?_cons, whole_addAll, List.map_cons, mergeAll?, List.foldlM_map]
    simp only [whole_merge_ofRecord]

theorem Built.ofRecords? {records : List Record} {set : RRset}
    (read : RRset.ofRecords? records = some (.ok set)) : set.Built := by
  cases records with
  | nil => cases read
  | cons record rest =>
    rw [ofRecords?_cons] at read
    have built := (Built.ofRecord record).addAll rest
    rcases added : (RRset.ofRecord record).addAll rest with ⟨larger, _ | misfit⟩
    · rw [added] at read built
      cases read
      exact built
    · rw [added] at read
      cases read

end RRset

/-- Records that belong to one set: of one owner, of one class, and of one type or with signatures
that cover it. -/
def Record.Fit (records : List Record) : Prop :=
  ∀ first ∈ records, ∀ second ∈ records, first.name ≈ second.name ∧
    first.recordClass = second.recordClass ∧ first.setType = second.setType

instance (records : List Record) : Decidable (Record.Fit records) :=
  inferInstanceAs (Decidable (∀ first ∈ records, ∀ second ∈ records, _ ∧ _ ∧ _))

namespace RRset

instance (first second : RRset) : Decidable (first.SamePlace second) :=
  inferInstanceAs (Decidable (_ ∧ _ ∧ _))

theorem exists_ofRecords?_eq {records : List Record} (fit : Record.Fit records)
    (filled : records ≠ []) : ∃ set, ofRecords? records = some (.ok set) := by
  cases records with
  | nil => exact absurd rfl filled
  | cons record rest =>
    have accepted : ∀ other ∈ rest, (ofRecord record).accepts other = true := by
      intro other member
      rw [accepts_iff, ofRecord_name, ofRecord_recordClass, ofRecord_type]
      exact fit other (List.mem_cons_of_mem _ member) record List.mem_cons_self
    rw [ofRecords?_cons, addAll_of_accepts accepted]
    exact ⟨_, rfl⟩

/-! ### Merging is a union in order -/

/-- What merging makes of sets. -/
structure Unites (first second third : RRset) : Prop where
  /-- No record is refused. What a set has stays in front, and what it lacks follows. -/
  merged : first.merge second = (first.union second, none)
  /-- A set lacks nothing of what it has. -/
  itself : first.merge first = (first, none)
  /-- Nor does it lack anything of what was merged into it. -/
  again : (first.merge second).1.merge second = first.merge second
  /-- Three sets may be merged from the left or from the right. -/
  assoc : (first.merge second).1.merge third = first.merge (second.merge third).1
  /-- Either way, no record is refused. -/
  unrefused : (second.merge third).2 = none ∧ ((first.merge second).1.merge third).2 = none

/-- Sets of one place are united by merging them, and records that fit are read as the set that
their own sets make when they are merged one after the other. -/
theorem merge_unites {first second third : RRset} (isFirst : first.Built)
    (isSecond : second.Built) (isThird : third.Built) (place : first.SamePlace second)
    (nextPlace : second.SamePlace third) {records : List Record} (fit : Record.Fit records) :
    first.Unites second third ∧ ofRecords? records = mergeAll? (records.map ofRecord) ∧
      (records ≠ [] → ∃ set, ofRecords? records = some (.ok set)) := by
  have merged := merge_eq place isSecond.coherent
  have laterMerged := merge_eq nextPlace isThird.coherent
  have ownPlace : first.SamePlace first := ⟨Setoid.refl _, rfl, rfl⟩
  have unitedPlace : (first.union second).SamePlace second := place
  have thirdPlace : (first.union second).SamePlace third :=
    ⟨Setoid.trans place.1 nextPlace.1, place.2.1.trans nextPlace.2.1,
      place.2.2.trans nextPlace.2.2⟩
  have united : (second.union third).Coherent := by
    have built := isSecond.merge third
    rw [laterMerged] at built
    exact built.coherent
  have behind : first.SamePlace (second.union third) := place
  refine ⟨⟨merged, ?_, ?_, ?_, ?_⟩, ofRecords?_eq_mergeAll? records, exists_ofRecords?_eq fit⟩
  · rw [merge_eq ownPlace isFirst.coherent, union_self]
  · rw [merged, merge_eq unitedPlace isSecond.coherent, union_union_self]
  · rw [merged, laterMerged, merge_eq thirdPlace isThird.coherent, merge_eq behind united,
      union_assoc]
  · rw [merged, laterMerged, merge_eq thirdPlace isThird.coherent]
    exact ⟨rfl, rfl⟩

/-- Two addresses of a name. -/
def firstAddresses : RRset :=
  ⟨Name.ofOctets [0x77], .a, .inet, [.address 1 300, .address 2 300], []⟩

/-- A signature of the addresses of a name. -/
def addressSignature (ttl : UInt32) : Record :=
  ⟨Name.ofOctets [0x77], .inet, ttl, .rrsig .a [1]⟩

/-- One of the two addresses again, of the name in capitals, and another one that is signed. -/
def moreAddresses : RRset :=
  ⟨Name.ofOctets [0x57], .a, .inet,
    [{ Record.address 1 60 with name := Name.ofOctets [0x57] }, .address 3 60],
    [addressSignature 60]⟩

/-- The third address and its signature once more, with one that is new. -/
def lastAddresses : RRset :=
  ⟨Name.ofOctets [0x77], .a, .inet, [.address 3 10, .address 4 10], [addressSignature 10]⟩

theorem addresses_unite :
    (firstAddresses.Built ∧ moreAddresses.Built ∧ lastAddresses.Built ∧
      firstAddresses.SamePlace moreAddresses ∧ moreAddresses.SamePlace lastAddresses ∧
      Record.Fit moreAddresses.all) ∧
    firstAddresses.Unites moreAddresses lastAddresses ∧
    ofRecords? moreAddresses.all = mergeAll? (moreAddresses.all.map ofRecord) ∧
    (firstAddresses.merge moreAddresses).1.merge lastAddresses =
      (⟨Name.ofOctets [0x77], .a, .inet,
        [.address 1 300, .address 2 300, .address 3 60, .address 4 10],
        [addressSignature 60]⟩, none) := by
  have isFirst : firstAddresses.Built :=
    .ofRecords? (show ofRecords? firstAddresses.all = some (.ok firstAddresses) from rfl)
  have isSecond : moreAddresses.Built :=
    .ofRecords? (show ofRecords? moreAddresses.all = some (.ok moreAddresses) from rfl)
  have isThird : lastAddresses.Built :=
    .ofRecords? (show ofRecords? lastAddresses.all = some (.ok lastAddresses) from rfl)
  have place : firstAddresses.SamePlace moreAddresses := by decide
  have nextPlace : moreAddresses.SamePlace lastAddresses := by decide
  have fit : Record.Fit moreAddresses.all := by decide
  obtain ⟨unites, read, _⟩ := merge_unites isFirst isSecond isThird place nextPlace fit
  exact ⟨⟨isFirst, isSecond, isThird, place, nextPlace, fit⟩, unites, read, rfl⟩

end RRset

end StubResolver
