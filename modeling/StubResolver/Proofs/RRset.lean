/-
This file says what holds of every set of records that the program builds. All records and
signatures of a set belong to it, and the signatures are kept apart. Such a set is called coherent.
Sets are only ever started from a record and extended by records that they accept, so all of them
are coherent: those that a message is read as, and those that are made absolute.

The lifetime of a set is that of one of its records, and no record has a shorter one.
-/

import Mathlib.Data.List.Pairwise
import StubResolver.Message

namespace StubResolver

namespace RRset

/-! ### The shortest lifetime -/

/-- The shortest lifetime among some records. -/
def shortestTtl : List Record → UInt32
  | [] => 0
  | first :: rest => rest.foldl (fun least record => min least record.ttl) first.ttl

theorem ttl_eq (set : RRset) :
    set.ttl = shortestTtl (if set.records.isEmpty then set.signatures else set.records) := by
  unfold ttl shortestTtl
  rfl

theorem foldl_min_ttl_le (records : List Record) (least : UInt32) :
    records.foldl (fun least record => min least record.ttl) least ≤ least ∧
      ∀ record ∈ records,
        records.foldl (fun least record => min least record.ttl) least ≤ record.ttl := by
  induction records generalizing least with
  | nil => exact ⟨UInt32.le_refl least, by simp⟩
  | cons record rest inductionHypothesis =>
    obtain ⟨bound, others⟩ := inductionHypothesis (min least record.ttl)
    refine ⟨UInt32.le_trans bound Std.min_le_left, ?_⟩
    intro member present
    rcases List.mem_cons.mp present with rfl | later
    · exact UInt32.le_trans bound Std.min_le_right
    · exact others member later

/-- No record has a shorter lifetime. -/
theorem shortestTtl_le {records : List Record} {record : Record} (member : record ∈ records) :
    shortestTtl records ≤ record.ttl := by
  cases records with
  | nil => cases member
  | cons first rest =>
    obtain ⟨bound, others⟩ := foldl_min_ttl_le rest first.ttl
    rcases List.mem_cons.mp member with rfl | later
    · exact bound
    · exact others record later

theorem foldl_min_ttl_mem (records : List Record) (least : UInt32) :
    records.foldl (fun least record => min least record.ttl) least = least ∨
      ∃ record ∈ records,
        records.foldl (fun least record => min least record.ttl) least = record.ttl := by
  induction records generalizing least with
  | nil => exact Or.inl rfl
  | cons record rest inductionHypothesis =>
    rcases inductionHypothesis (min least record.ttl) with start | ⟨member, present, same⟩
    · rw [List.foldl_cons, start]
      rcases Std.min_eq_or (a := least) (b := record.ttl) with first | second
      · exact Or.inl first
      · exact Or.inr ⟨record, List.mem_cons_self, second⟩
    · exact Or.inr ⟨member, List.mem_cons_of_mem _ present, same⟩

/-- The shortest lifetime is that of a record. -/
theorem exists_shortestTtl_eq {records : List Record} (filled : records ≠ []) :
    ∃ record ∈ records, shortestTtl records = record.ttl := by
  cases records with
  | nil => exact absurd rfl filled
  | cons first rest =>
    rcases foldl_min_ttl_mem rest first.ttl with start | ⟨record, present, same⟩
    · exact ⟨first, List.mem_cons_self, start⟩
    · exact ⟨record, List.mem_cons_of_mem _ present, same⟩

/-- The lifetime of a set is that of one of its records. -/
theorem exists_ttl_eq {set : RRset} (filled : set.all ≠ []) :
    ∃ record ∈ set.all, set.ttl = record.ttl := by
  rw [ttl_eq]
  unfold all at filled ⊢
  cases empty : set.records.isEmpty with
  | true =>
    rw [List.isEmpty_iff.mp empty, List.nil_append] at filled ⊢
    exact exists_shortestTtl_eq filled
  | false =>
    obtain ⟨record, present, same⟩ :=
      exists_shortestTtl_eq (List.isEmpty_eq_false_iff.mp empty)
    exact ⟨record, List.mem_append_left _ present, same⟩

/-- A set does not outlast any of its records. -/
theorem ttl_le {set : RRset} {record : Record} (member : record ∈ set.records) :
    set.ttl ≤ record.ttl := by
  have filled : ¬ set.records.isEmpty = true := fun empty => by
    rw [List.isEmpty_iff.mp empty] at member
    cases member
  rw [ttl_eq, if_neg filled]
  exact shortestTtl_le member

/-! ### Coherent sets -/

theorem accepts_iff (set : RRset) (record : Record) :
    set.accepts record = true ↔
      record.name ≈ set.name ∧ record.recordClass = set.recordClass ∧
        record.setType = set.type := by
  unfold accepts
  exact decide_eq_true_iff

/-- What holds of every set that is built from records: it has some, all of them belong to it, the
signatures are kept apart, and no record is there twice. -/
structure Coherent (set : RRset) : Prop where
  filled : set.all ≠ []
  belong : ∀ record ∈ set.all, set.accepts record = true
  records : ∀ record ∈ set.records, record.isSignature = false
  signatures : ∀ record ∈ set.signatures, record.isSignature = true
  distinct : set.records.Pairwise fun first second => ¬ first ≈ second
  distinctSignatures : set.signatures.Pairwise fun first second => ¬ first ≈ second

/-- Which members of a set are records, and which are signatures, can be told from each. -/
theorem Coherent.mem_records_iff {set : RRset} (coherent : set.Coherent) (record : Record) :
    record ∈ set.records ↔ record ∈ set.all ∧ record.isSignature = false := by
  refine ⟨fun member => ⟨List.mem_append_left _ member, coherent.records record member⟩, ?_⟩
  rintro ⟨member, unsigned⟩
  refine (List.mem_append.mp member).resolve_right fun signature => ?_
  rw [coherent.signatures record signature] at unsigned
  cases unsigned

theorem Coherent.mem_signatures_iff {set : RRset} (coherent : set.Coherent) (record : Record) :
    record ∈ set.signatures ↔ record ∈ set.all ∧ record.isSignature = true := by
  refine ⟨fun member => ⟨List.mem_append_right _ member, coherent.signatures record member⟩, ?_⟩
  rintro ⟨member, signed⟩
  refine (List.mem_append.mp member).resolve_left fun unsigned => ?_
  rw [coherent.records record unsigned] at signed
  cases signed

theorem Coherent.record {set : RRset} (coherent : set.Coherent) {record : Record}
    (member : record ∈ set.records) :
    record.name ≈ set.name ∧ record.recordClass = set.recordClass ∧ record.setType = set.type :=
  (accepts_iff set record).mp (coherent.belong record (List.mem_append_left _ member))

/-! ### Extending a set -/

theorem addUnlessPresent_of_new {records : List Record} {record : Record}
    (new : ∀ other ∈ records, ¬ other ≈ record) :
    addUnlessPresent records record = records ++ [record] := by
  unfold addUnlessPresent
  rw [if_neg]
  intro known
  obtain ⟨other, present, same⟩ := List.any_eq_true.mp known
  exact new other present (Setoid.symm (of_decide_eq_true same))

/-- A list grows by at most the record that is added. -/
theorem mem_addUnlessPresent {records : List Record} {record member : Record}
    (present : member ∈ addUnlessPresent records record) : member ∈ records ∨ member = record := by
  unfold addUnlessPresent at present
  split at present
  · exact Or.inl present
  · simpa using present

/-- A list with a record added has that record, up to its lifetime. -/
theorem exists_mem_addUnlessPresent (records : List Record) (record : Record) :
    ∃ member ∈ addUnlessPresent records record, member ≈ record := by
  unfold addUnlessPresent
  split
  · rename_i known
    obtain ⟨member, present, same⟩ := List.any_eq_true.mp known
    exact ⟨member, present, Setoid.symm (of_decide_eq_true same)⟩
  · exact ⟨record, List.mem_append_right _ List.mem_cons_self, Setoid.refl record⟩

theorem addUnlessPresent_distinct {records : List Record} (record : Record)
    (distinct : records.Pairwise fun first second => ¬ first ≈ second) :
    (addUnlessPresent records record).Pairwise fun first second => ¬ first ≈ second := by
  unfold addUnlessPresent
  split
  · exact distinct
  · rename_i unknown
    refine List.pairwise_append.mpr ⟨distinct, List.pairwise_singleton _ _, ?_⟩
    intro first present second last same
    rw [List.mem_singleton.mp last] at same
    exact unknown (List.any_eq_true.mpr ⟨first, present, decide_eq_true (Setoid.symm same)⟩)

theorem insert_of_unsigned (set : RRset) {record : Record} (unsigned : record.isSignature = false) :
    set.insert record = { set with records := addUnlessPresent set.records record } := by
  unfold insert
  rw [unsigned, if_neg Bool.false_ne_true]

theorem insert_of_signed (set : RRset) {record : Record} (signed : record.isSignature = true) :
    set.insert record = { set with signatures := addUnlessPresent set.signatures record } := by
  unfold insert
  rw [if_pos signed]

@[simp] theorem insert_name (set : RRset) (record : Record) :
    (set.insert record).name = set.name := by
  unfold insert
  split <;> rfl

@[simp] theorem insert_type (set : RRset) (record : Record) :
    (set.insert record).type = set.type := by
  unfold insert
  split <;> rfl

@[simp] theorem insert_recordClass (set : RRset) (record : Record) :
    (set.insert record).recordClass = set.recordClass := by
  unfold insert
  split <;> rfl

theorem insert_accepts (set : RRset) (record other : Record) :
    (set.insert record).accepts other = set.accepts other := by
  unfold accepts
  rw [insert_name, insert_type, insert_recordClass]

theorem mem_insert_records {set : RRset} {record member : Record}
    (present : member ∈ (set.insert record).records) :
    member ∈ set.records ∨ member = record ∧ record.isSignature = false := by
  cases signed : record.isSignature with
  | true =>
    rw [insert_of_signed set signed] at present
    exact Or.inl present
  | false =>
    rw [insert_of_unsigned set signed] at present
    exact (mem_addUnlessPresent present).imp_right fun new => ⟨new, rfl⟩

/-- Whatever is in a set with one more record was in it or is that record. -/
theorem mem_insert_all {set : RRset} {record member : Record}
    (present : member ∈ (set.insert record).all) : member ∈ set.all ∨ member = record := by
  unfold all at present ⊢
  cases signed : record.isSignature with
  | true =>
    rw [insert_of_signed set signed] at present
    rcases List.mem_append.mp present with data | signature
    · exact Or.inl (List.mem_append_left _ data)
    · exact (mem_addUnlessPresent signature).imp_left (List.mem_append_right _)
  | false =>
    rw [insert_of_unsigned set signed] at present
    rcases List.mem_append.mp present with data | signature
    · exact (mem_addUnlessPresent data).imp_left (List.mem_append_left _)
    · exact Or.inl (List.mem_append_right _ signature)

theorem insert_filled (set : RRset) (record : Record) : (set.insert record).all ≠ [] := by
  unfold all
  cases signed : record.isSignature with
  | true =>
    obtain ⟨member, present, _⟩ := exists_mem_addUnlessPresent set.signatures record
    rw [insert_of_signed set signed]
    exact List.append_ne_nil_of_right_ne_nil _ (List.ne_nil_of_mem present)
  | false =>
    obtain ⟨member, present, _⟩ := exists_mem_addUnlessPresent set.records record
    rw [insert_of_unsigned set signed]
    exact List.append_ne_nil_of_left_ne_nil (List.ne_nil_of_mem present) _

/-- A record that is inserted is in the set, up to its lifetime. -/
theorem exists_mem_insert (set : RRset) (record : Record) :
    ∃ member ∈ (set.insert record).all, member ≈ record := by
  unfold all
  cases signed : record.isSignature with
  | true =>
    obtain ⟨member, present, same⟩ := exists_mem_addUnlessPresent set.signatures record
    rw [insert_of_signed set signed]
    exact ⟨member, List.mem_append_right _ present, same⟩
  | false =>
    obtain ⟨member, present, same⟩ := exists_mem_addUnlessPresent set.records record
    rw [insert_of_unsigned set signed]
    exact ⟨member, List.mem_append_left _ present, same⟩

/-- Inserting a record takes none away. -/
theorem mem_insert_of_mem {set : RRset} {member : Record} (present : member ∈ set.all)
    (record : Record) : member ∈ (set.insert record).all := by
  have grows (records : List Record) (present : member ∈ records) :
      member ∈ addUnlessPresent records record := by
    unfold addUnlessPresent
    split
    · exact present
    · exact List.mem_append_left _ present
  unfold all at present ⊢
  cases signed : record.isSignature with
  | true =>
    rw [insert_of_signed set signed]
    exact List.mem_append.mpr ((List.mem_append.mp present).imp_right (grows _))
  | false =>
    rw [insert_of_unsigned set signed]
    exact List.mem_append.mpr ((List.mem_append.mp present).imp_left (grows _))

/-- Extending by a record that belongs to it keeps everything about a set but that it has
records, which it then has. -/
theorem insert_coherent {set : RRset} {record : Record}
    (belong : ∀ other ∈ set.all, set.accepts other = true)
    (records : ∀ other ∈ set.records, other.isSignature = false)
    (signatures : ∀ other ∈ set.signatures, other.isSignature = true)
    (distinct : set.records.Pairwise fun first second => ¬ first ≈ second)
    (distinctSignatures : set.signatures.Pairwise fun first second => ¬ first ≈ second)
    (accepted : set.accepts record = true) : (set.insert record).Coherent := by
  have belongAfter : ∀ other ∈ (set.insert record).all,
      (set.insert record).accepts other = true := by
    intro other present
    rw [insert_accepts]
    rcases mem_insert_all present with old | rfl
    · exact belong other old
    · exact accepted
  cases signed : record.isSignature with
  | true =>
    have filled := insert_filled set record
    rw [insert_of_signed set signed] at belongAfter filled ⊢
    refine ⟨filled, belongAfter, records, ?_, distinct, ?_⟩
    · intro other present
      rcases mem_addUnlessPresent present with old | rfl
      · exact signatures other old
      · exact signed
    · exact addUnlessPresent_distinct record distinctSignatures
  | false =>
    have filled := insert_filled set record
    rw [insert_of_unsigned set signed] at belongAfter filled ⊢
    refine ⟨filled, belongAfter, ?_, signatures, ?_, distinctSignatures⟩
    · intro other present
      rcases mem_addUnlessPresent present with old | rfl
      · exact records other old
      · exact signed
    · exact addUnlessPresent_distinct record distinct

theorem Coherent.insert {set : RRset} (coherent : set.Coherent) {record : Record}
    (accepted : set.accepts record = true) : (set.insert record).Coherent :=
  insert_coherent coherent.belong coherent.records coherent.signatures coherent.distinct
    coherent.distinctSignatures accepted

/-- The set that a record starts is coherent. -/
theorem ofRecord_coherent (record : Record) : (ofRecord record).Coherent :=
  insert_coherent (by simp [all]) (by simp) (by simp) List.Pairwise.nil List.Pairwise.nil
    ((accepts_iff _ record).mpr ⟨Setoid.refl _, rfl, rfl⟩)

@[simp] theorem ofRecord_name (record : Record) : (ofRecord record).name = record.name :=
  insert_name _ record

@[simp] theorem ofRecord_type (record : Record) : (ofRecord record).type = record.setType :=
  insert_type _ record

@[simp] theorem ofRecord_recordClass (record : Record) :
    (ofRecord record).recordClass = record.recordClass := insert_recordClass _ record

/-! ### Sets that can be put together -/

/-- The sets that can be put together: one record is a set, and a record that belongs to a set can
be added to it. -/
inductive Built : RRset → Prop where
  | ofRecord (record : Record) : Built (ofRecord record)
  | add {set larger : RRset} (built : Built set) (record : Record)
      (added : set.add record = .ok larger) : Built larger

theorem add_eq_ok_iff {set larger : RRset} {record : Record} :
    set.add record = .ok larger ↔ set.accepts record = true ∧ set.insert record = larger := by
  unfold add
  split <;> simp_all

theorem Built.coherent {set : RRset} (built : set.Built) : set.Coherent := by
  induction built with
  | ofRecord record => exact ofRecord_coherent record
  | add _ record added inductionHypothesis =>
    obtain ⟨accepted, rfl⟩ := add_eq_ok_iff.mp added
    exact inductionHypothesis.insert accepted

/-- Adding many records puts together a set as well, even if one of them does not belong to it. -/
theorem Built.addAll {set : RRset} (built : set.Built) (records : List Record) :
    (set.addAll records).1.Built := by
  induction records generalizing set with
  | nil => exact built
  | cons record rest inductionHypothesis =>
    rw [RRset.addAll]
    cases added : set.add record with
    | error misfit => exact built
    | ok larger => exact inductionHypothesis (built.add record added)

/-! ### Sets made absolute -/

/-- New records join a set in their order. -/
theorem foldl_insert_of_unsigned (set : RRset) (records : List Record)
    (unsigned : ∀ record ∈ records, record.isSignature = false)
    (distinct : (set.records ++ records).Pairwise fun first second => ¬ first ≈ second) :
    records.foldl insert set = { set with records := set.records ++ records } := by
  induction records generalizing set with
  | nil => rw [List.append_nil]; rfl
  | cons record rest inductionHypothesis =>
    have new : ∀ other ∈ set.records, ¬ other ≈ record := fun other present =>
      (List.pairwise_append.mp distinct).2.2 other present record List.mem_cons_self
    rw [List.foldl_cons, insert_of_unsigned set (unsigned record List.mem_cons_self),
      addUnlessPresent_of_new new, inductionHypothesis]
    · rw [List.append_assoc]; rfl
    · exact fun other later => unsigned other (List.mem_cons_of_mem _ later)
    · rwa [List.append_assoc]

/-- New signatures join a set in their order. -/
theorem foldl_insert_of_signed (set : RRset) (signatures : List Record)
    (signed : ∀ record ∈ signatures, record.isSignature = true)
    (distinct : (set.signatures ++ signatures).Pairwise fun first second => ¬ first ≈ second) :
    signatures.foldl insert set = { set with signatures := set.signatures ++ signatures } := by
  induction signatures generalizing set with
  | nil => rw [List.append_nil]; rfl
  | cons record rest inductionHypothesis =>
    have new : ∀ other ∈ set.signatures, ¬ other ≈ record := fun other present =>
      (List.pairwise_append.mp distinct).2.2 other present record List.mem_cons_self
    rw [List.foldl_cons, insert_of_signed set (signed record List.mem_cons_self),
      addUnlessPresent_of_new new, inductionHypothesis]
    · rw [List.append_assoc]; rfl
    · exact fun other later => signed other (List.mem_cons_of_mem _ later)
    · rwa [List.append_assoc]

end RRset

/-- A record under another name. -/
def Record.renamed (record : Record) (name : Name) : Record := { record with name := name }

/-- Different records of one owner stay different when both are renamed. -/
theorem Record.not_equiv_renamed {first second : Record} (owner : first.name ≈ second.name)
    (name : Name) (differ : ¬ first ≈ second) : ¬ first.renamed name ≈ second.renamed name := by
  intro same
  rw [equiv_iff_identity] at same
  unfold identity renamed at same
  refine differ ((equiv_iff_identity first second).mpr ?_)
  unfold identity
  injection same with _ recordClass _ data
  rw [data, recordClass, (Name.equiv_iff_lowered _ _).mp owner]

namespace RRset

theorem renamed_distinct {records : List Record} {owner : Name}
    (owned : ∀ record ∈ records, record.name ≈ owner) (name : Name)
    (distinct : records.Pairwise fun first second => ¬ first ≈ second) :
    (records.map (Record.renamed · name)).Pairwise fun first second => ¬ first ≈ second := by
  rw [List.pairwise_map]
  refine distinct.imp_of_mem fun {first second} present later differ => ?_
  have same := Setoid.trans (owned first present) (Setoid.symm (owned second later))
  exact Record.not_equiv_renamed same name differ

theorem toAbsolute_of_absolute {set : RRset} (absolute : set.name.absolute = true) :
    set.toAbsolute = set := by
  unfold toAbsolute
  rw [if_pos absolute]

/-- A set that is not absolute has its owner made absolute and all its records renamed. -/
theorem toAbsolute_of_relative {set : RRset} (coherent : set.Coherent)
    (relative : set.name.absolute = false) :
    set.toAbsolute =
      { set with
        name := set.name.toAbsolute
        records := set.records.map (Record.renamed · set.name.toAbsolute)
        signatures := set.signatures.map (Record.renamed · set.name.toAbsolute) } := by
  have owned (record : Record) (member : record ∈ set.all) : record.name ≈ set.name :=
    ((accepts_iff set record).mp (coherent.belong record member)).1
  have built : set.toAbsolute = (set.all.map (Record.renamed · set.name.toAbsolute)).foldl insert
      ⟨set.name.toAbsolute, set.type, set.recordClass, [], []⟩ := by
    unfold toAbsolute
    rw [relative, if_neg Bool.false_ne_true]
    cases records : set.all with
    | nil => exact absurd records coherent.filled
    | cons record rest =>
      have belongs := coherent.belong record (records ▸ List.mem_cons_self)
      obtain ⟨_, recordClass, type⟩ := (accepts_iff set record).mp belongs
      rw [List.map_cons, List.map_cons, List.foldl_cons, ← type, ← recordClass]
      rfl
  have distinct := renamed_distinct (fun record member => owned record
    (List.mem_append_left _ member)) set.name.toAbsolute coherent.distinct
  have distinctSignatures := renamed_distinct (fun record member => owned record
    (List.mem_append_right _ member)) set.name.toAbsolute coherent.distinctSignatures
  rw [built, all, List.map_append, List.foldl_append,
    foldl_insert_of_unsigned ⟨_, _, _, [], []⟩ _ ?_ distinct,
    foldl_insert_of_signed ⟨_, _, _, _, []⟩ _ ?_ distinctSignatures]
  · rfl
  · intro record member
    obtain ⟨original, present, rfl⟩ := List.mem_map.mp member
    exact coherent.signatures original present
  · intro record member
    obtain ⟨original, present, rfl⟩ := List.mem_map.mp member
    exact coherent.records original present

theorem toAbsolute_name {set : RRset} (coherent : set.Coherent) :
    set.toAbsolute.name = set.name.toAbsolute := by
  cases absolute : set.name.absolute with
  | true => rw [toAbsolute_of_absolute absolute, Name.toAbsolute_of_absolute _ absolute]
  | false => rw [toAbsolute_of_relative coherent absolute]

theorem toAbsolute_type {set : RRset} (coherent : set.Coherent) :
    set.toAbsolute.type = set.type := by
  cases absolute : set.name.absolute with
  | true => rw [toAbsolute_of_absolute absolute]
  | false => rw [toAbsolute_of_relative coherent absolute]

theorem shortestTtl_renamed (records : List Record) (name : Name) :
    shortestTtl (records.map (Record.renamed · name)) = shortestTtl records := by
  cases records with
  | nil => rfl
  | cons first rest => exact List.foldl_map

/-- Making a set absolute leaves its lifetime as it is. -/
theorem toAbsolute_ttl {set : RRset} (coherent : set.Coherent) :
    set.toAbsolute.ttl = set.ttl := by
  cases absolute : set.name.absolute with
  | true => rw [toAbsolute_of_absolute absolute]
  | false =>
    rw [toAbsolute_of_relative coherent absolute, ttl_eq, ttl_eq, List.isEmpty_map]
    split
    · exact shortestTtl_renamed _ _
    · exact shortestTtl_renamed _ _

/-- A set made absolute is as coherent as before. -/
theorem Coherent.toAbsolute {set : RRset} (coherent : set.Coherent) :
    set.toAbsolute.Coherent := by
  cases absolute : set.name.absolute with
  | true => rwa [toAbsolute_of_absolute absolute]
  | false =>
    have owned (record : Record) (member : record ∈ set.all) : record.name ≈ set.name :=
      ((accepts_iff set record).mp (coherent.belong record member)).1
    rw [toAbsolute_of_relative coherent absolute]
    refine ⟨?_, ?_, ?_, ?_, ?_, ?_⟩
    · unfold all
      rw [← List.map_append]
      exact fun empty => coherent.filled (List.map_eq_nil_iff.mp empty)
    · intro record member
      unfold all at member
      rw [← List.map_append] at member
      obtain ⟨original, present, rfl⟩ := List.mem_map.mp member
      obtain ⟨_, recordClass, type⟩ :=
        (accepts_iff set original).mp (coherent.belong original present)
      exact (accepts_iff _ _).mpr ⟨Setoid.refl _, recordClass, type⟩
    · intro record member
      obtain ⟨original, present, rfl⟩ := List.mem_map.mp member
      exact coherent.records original present
    · intro record member
      obtain ⟨original, present, rfl⟩ := List.mem_map.mp member
      exact coherent.signatures original present
    · exact renamed_distinct (fun record member => owned record (List.mem_append_left _ member))
        set.name.toAbsolute coherent.distinct
    · exact renamed_distinct (fun record member => owned record (List.mem_append_right _ member))
        set.name.toAbsolute coherent.distinctSignatures

end RRset

/-! ### The sets of a message -/

theorem Message.placeRecord_coherent (record : Record) {sets : List RRset}
    (coherent : ∀ set ∈ sets, set.Coherent) :
    ∀ set ∈ Message.placeRecord record sets, set.Coherent := by
  induction sets with
  | nil =>
    intro set member
    rw [List.mem_singleton.mp member]
    exact RRset.ofRecord_coherent record
  | cons head rest inductionHypothesis =>
    intro set member
    unfold placeRecord at member
    split at member
    · rename_i accepted
      rcases List.mem_cons.mp member with rfl | later
      · exact (coherent head List.mem_cons_self).insert accepted
      · exact coherent set (List.mem_cons_of_mem _ later)
    · rcases List.mem_cons.mp member with rfl | later
      · exact coherent set List.mem_cons_self
      · refine inductionHypothesis (fun other present => ?_) set later
        exact coherent other (List.mem_cons_of_mem _ present)

/-- Whatever records are read as sets, the sets are coherent. -/
theorem Message.groupRecords_coherent (records : List Record) :
    ∀ set ∈ groupRecords records, set.Coherent := by
  have grows (sets : List RRset) (coherent : ∀ set ∈ sets, set.Coherent) :
      ∀ set ∈ records.foldl (fun sets record => placeRecord record sets) sets, set.Coherent := by
    induction records generalizing sets with
    | nil => exact coherent
    | cons record rest inductionHypothesis =>
      exact inductionHypothesis _ (placeRecord_coherent record coherent)
  exact grows [] (by simp)

theorem Message.sets_coherent (message : Message) (part : Section) :
    ∀ set ∈ message.sets part, set.Coherent := groupRecords_coherent _

/-- Sets of the same records: of one owner, one class and one type. -/
def RRset.SamePlace (first second : RRset) : Prop :=
  first.name ≈ second.name ∧ first.recordClass = second.recordClass ∧ first.type = second.type

theorem RRset.SamePlace.symm {first second : RRset} (same : first.SamePlace second) :
    second.SamePlace first := ⟨Setoid.symm same.1, same.2.1.symm, same.2.2.symm⟩

theorem RRset.SamePlace.accepts {first second : RRset} (same : first.SamePlace second)
    {record : Record} (accepted : second.accepts record = true) : first.accepts record = true := by
  rw [accepts_iff] at accepted ⊢
  obtain ⟨owner, ofClass, type⟩ := accepted
  exact ⟨Setoid.trans owner (Setoid.symm same.1), ofClass.trans same.2.1.symm,
    type.trans same.2.2.symm⟩

theorem RRset.SamePlace.accepts_eq {first second : RRset} (same : first.SamePlace second)
    (record : Record) : first.accepts record = second.accepts record :=
  Bool.eq_iff_iff.mpr ⟨same.symm.accepts, same.accepts⟩

/-- Sets that accept one record are of one place. -/
theorem RRset.SamePlace.of_accepts {first second : RRset} {record : Record}
    (accepted : first.accepts record = true) (accepts : second.accepts record = true) :
    first.SamePlace second := by
  rw [accepts_iff] at accepted accepts
  exact ⟨Setoid.trans (Setoid.symm accepted.1) accepts.1, accepted.2.1.symm.trans accepts.2.1,
    accepted.2.2.symm.trans accepts.2.2⟩

/-- A set among others after a record was placed has the place of an old one, or accepts the
record. -/
theorem Message.mem_placeRecord {record : Record} {sets : List RRset} {set : RRset}
    (member : set ∈ placeRecord record sets) :
    (∃ old ∈ sets, set.SamePlace old) ∨ set.accepts record = true := by
  induction sets with
  | nil =>
    rw [List.mem_singleton.mp member]
    refine Or.inr ((RRset.accepts_iff _ _).mpr ?_)
    rw [RRset.ofRecord_name, RRset.ofRecord_recordClass, RRset.ofRecord_type]
    exact ⟨Setoid.refl _, rfl, rfl⟩
  | cons head rest inductionHypothesis =>
    unfold placeRecord at member
    split at member
    · rename_i accepted
      rcases List.mem_cons.mp member with rfl | later
      · rw [RRset.insert_accepts]
        exact Or.inr accepted
      · exact Or.inl ⟨set, List.mem_cons_of_mem _ later, Setoid.refl _, rfl, rfl⟩
    · rcases List.mem_cons.mp member with rfl | later
      · exact Or.inl ⟨set, List.mem_cons_self, Setoid.refl _, rfl, rfl⟩
      · refine (inductionHypothesis later).imp_left fun ⟨old, present, same⟩ => ?_
        exact ⟨old, List.mem_cons_of_mem _ present, same⟩

theorem Message.placeRecord_apart (record : Record) {sets : List RRset}
    (apart : sets.Pairwise fun first second => ¬ first.SamePlace second) :
    (placeRecord record sets).Pairwise fun first second => ¬ first.SamePlace second := by
  induction sets with
  | nil => exact List.pairwise_singleton _ _
  | cons head rest inductionHypothesis =>
    obtain ⟨fromRest, restApart⟩ := List.pairwise_cons.mp apart
    unfold placeRecord
    split
    · refine List.pairwise_cons.mpr ⟨fun set member same => fromRest set member ?_, restApart⟩
      unfold RRset.SamePlace at same
      rw [RRset.insert_name, RRset.insert_recordClass, RRset.insert_type] at same
      exact same
    · rename_i refused
      refine List.pairwise_cons.mpr ⟨fun set member same => ?_, inductionHypothesis restApart⟩
      rcases mem_placeRecord member with ⟨old, present, oldSame⟩ | accepted
      · exact fromRest old present ⟨Setoid.trans same.1 oldSame.1, same.2.1.trans oldSame.2.1,
          same.2.2.trans oldSame.2.2⟩
      · exact refused (same.accepts accepted)

/-- No two of the sets that records are read as are of the same records. -/
theorem Message.groupRecords_apart (records : List Record) :
    (groupRecords records).Pairwise fun first second => ¬ first.SamePlace second := by
  have grows (sets : List RRset)
      (apart : sets.Pairwise fun first second => ¬ first.SamePlace second) :
      (records.foldl (fun sets record => placeRecord record sets) sets).Pairwise
        fun first second => ¬ first.SamePlace second := by
    induction records generalizing sets with
    | nil => exact apart
    | cons record rest inductionHypothesis =>
      exact inductionHypothesis _ (placeRecord_apart record apart)
  exact grows [] List.Pairwise.nil

/-- A list whose elements are all alike, and none of which is like a later one, is short. -/
theorem short_of_pairwise {Element : Type} {alike : Element → Element → Prop}
    {elements : List Element} (apart : elements.Pairwise fun first second => ¬ alike first second)
    (all : ∀ first ∈ elements, ∀ second ∈ elements, alike first second) :
    elements.length ≤ 1 := by
  match elements with
  | [] => exact Nat.zero_le 1
  | [_] => exact Nat.le_refl 1
  | first :: second :: _ =>
    have differ := (List.pairwise_cons.mp apart).1 second List.mem_cons_self
    exact absurd (all first List.mem_cons_self second (by simp)) differ

/-- Of one place there is one set. -/
theorem Message.groupRecords_unique {records : List Record} {first second : RRset}
    (isFirst : first ∈ groupRecords records) (isSecond : second ∈ groupRecords records)
    (same : first.SamePlace second) : first = second := by
  have symmetric : Std.Symm fun first second : RRset => ¬ first.SamePlace second :=
    ⟨fun _ _ apart same => apart same.symm⟩
  exact Decidable.byContradiction fun differ =>
    (groupRecords_apart records).forall isFirst isSecond differ same

/-- A set whose owner and records come from some records. -/
def RRset.From (set : RRset) (records : List Record) : Prop :=
  (∃ record ∈ records, set.name = record.name) ∧ ∀ member ∈ set.all, member ∈ records

theorem Message.placeRecord_from {records : List Record} {record : Record}
    (present : record ∈ records) {sets : List RRset} (source : ∀ set ∈ sets, set.From records) :
    ∀ set ∈ Message.placeRecord record sets, set.From records := by
  induction sets with
  | nil =>
    intro set member
    rw [List.mem_singleton.mp member]
    refine ⟨⟨record, present, RRset.ofRecord_name record⟩, fun other inside => ?_⟩
    rcases RRset.mem_insert_all inside with none | rfl
    · cases none
    · exact present
  | cons head rest inductionHypothesis =>
    intro set member
    unfold placeRecord at member
    split at member
    · rcases List.mem_cons.mp member with rfl | later
      · obtain ⟨owner, members⟩ := source head List.mem_cons_self
        refine ⟨by rw [RRset.insert_name]; exact owner, fun other inside => ?_⟩
        rcases RRset.mem_insert_all inside with old | rfl
        · exact members other old
        · exact present
      · exact source set (List.mem_cons_of_mem _ later)
    · rcases List.mem_cons.mp member with rfl | later
      · exact source set List.mem_cons_self
      · refine inductionHypothesis (fun other inside => ?_) set later
        exact source other (List.mem_cons_of_mem _ inside)

/-- The sets that records are read as hold nothing else. -/
theorem Message.groupRecords_from (records : List Record) :
    ∀ set ∈ groupRecords records, set.From records := by
  have grows (rest : List Record) (part : ∀ record ∈ rest, record ∈ records)
      (sets : List RRset) (source : ∀ set ∈ sets, set.From records) :
      ∀ set ∈ rest.foldl (fun sets record => placeRecord record sets) sets,
        set.From records := by
    induction rest generalizing sets with
    | nil => exact source
    | cons record rest inductionHypothesis =>
      refine inductionHypothesis (fun other later => part other (List.mem_cons_of_mem _ later)) _ ?_
      exact placeRecord_from (part record List.mem_cons_self) source
  exact grows records (fun _ present => present) [] (by simp)

/-! ### What becomes of a record -/

/-- One of several sets is where a record belongs, and has a property. -/
def Message.Gathers (holds : RRset → Prop) (record : Record) (sets : List RRset) : Prop :=
  ∃ set ∈ sets, set.accepts record = true ∧ holds set

section

variable {holds : RRset → Prop} {record : Record} {sets : List RRset}

/-- A property that a record brings with it is that of its set once it has been placed. -/
theorem Message.placeRecord_gathers (brought : ∀ set : RRset, holds (set.insert record))
    (sets : List RRset) : Gathers holds record (placeRecord record sets) := by
  induction sets with
  | nil =>
    refine ⟨_, List.mem_singleton.mpr rfl, ?_, brought _⟩
    exact (RRset.accepts_iff _ _).mpr (by simp [Setoid.refl])
  | cons head rest inductionHypothesis =>
    unfold placeRecord
    split
    · rename_i accepted
      exact ⟨head.insert record, List.mem_cons_self, by rwa [RRset.insert_accepts], brought head⟩
    · obtain ⟨set, inside, found⟩ := inductionHypothesis
      exact ⟨set, List.mem_cons_of_mem _ inside, found⟩

/-- A property that sets do not lose by growing is kept when another record is placed. -/
theorem Message.Gathers.placeRecord
    (kept : ∀ (set : RRset) (new : Record), holds set → holds (set.insert new))
    (gathers : Gathers holds record sets) (new : Record) :
    Gathers holds record (Message.placeRecord new sets) := by
  induction sets with
  | nil =>
    obtain ⟨_, none, _⟩ := gathers
    cases none
  | cons head rest inductionHypothesis =>
    obtain ⟨set, member, accepted, has⟩ := gathers
    unfold Message.placeRecord
    rcases List.mem_cons.mp member with rfl | later
    · split
      · exact ⟨set.insert new, List.mem_cons_self, by rwa [RRset.insert_accepts], kept set new has⟩
      · exact ⟨set, List.mem_cons_self, accepted, has⟩
    · split
      · exact ⟨set, List.mem_cons_of_mem _ later, accepted, has⟩
      · obtain ⟨other, inside, found⟩ := inductionHypothesis ⟨set, later, accepted, has⟩
        exact ⟨other, List.mem_cons_of_mem _ inside, found⟩

/-- So every record is found in the set where it belongs. -/
theorem Message.groupRecords_gathers {records : List Record} (present : record ∈ records)
    (brought : ∀ set : RRset, holds (set.insert record))
    (kept : ∀ (set : RRset) (new : Record), holds set → holds (set.insert new)) :
    Gathers holds record (groupRecords records) := by
  have grows (left : List Record) (sets : List RRset)
      (there : record ∈ left ∨ Gathers holds record sets) :
      Gathers holds record (left.foldl (fun sets record => placeRecord record sets) sets) := by
    induction left generalizing sets with
    | nil => exact there.resolve_left List.not_mem_nil
    | cons first rest inductionHypothesis =>
      rw [List.foldl_cons]
      rcases there with member | before
      · rcases List.mem_cons.mp member with rfl | later
        · exact inductionHypothesis _ (Or.inr (placeRecord_gathers brought sets))
        · exact inductionHypothesis _ (Or.inl later)
      · exact inductionHypothesis _ (Or.inr (before.placeRecord kept first))
  exact grows records [] (Or.inl present)

/-- Every record is, up to its lifetime, in the set where it belongs. -/
theorem Message.groupRecords_mem {records : List Record} {record : Record}
    (present : record ∈ records) :
    Gathers (fun set => ∃ member ∈ set.all, member ≈ record) record (groupRecords records) :=
  groupRecords_gathers present (fun set => set.exists_mem_insert record)
    fun _ new ⟨member, inside, same⟩ => ⟨member, RRset.mem_insert_of_mem inside new, same⟩

end

end StubResolver
