/-
This file settles when a cache holds records of a meta type. Adding a record or a set refuses such
types, but learning from a response does not: what answers a question for all types is kept, of
whatever type it is. So a cache that is only added to never holds a meta type, and one that learns
from responses does from the first response on that has a set of a meta type, with a lifetime, among
the sets that answer. Nothing else of a response can be of a meta type: aliases, servers and
addresses have types of their own.

That every response of this kind leaves such a set behind takes a cache with room for all names,
since another name may be pushed out otherwise. It also takes that no absence is in the way. None
is: absences are recorded of what was asked for, and a question for all types has none recorded.
-/

import Mathlib.Data.List.Pairwise
import StubResolver.Proofs.Cache.Footprint
import StubResolver.Proofs.Cache.Upkeep

namespace StubResolver

/-- A response brings a set of a meta type: the set is among those that answer its question, and it
has a lifetime. -/
def Message.BringsMeta (message : Message) (set : RRset) : Prop :=
  ∃ question, message.question = some question ∧ message.result.isCacheable = true ∧
    set ∈ (Cache.trailThrough message question).finals ∧ set.type.isMeta = true ∧ set.ttl ≠ 0

namespace Cache

/-- A cache holds records of a meta type. -/
def HoldsMeta (cache : Cache) : Prop :=
  ∃ name type entry set, type.isMeta = true ∧
    cache.entryAt? name (.type type) = some entry ∧ entry.data = .positive set

/-- Records and sets are added, or a response is learned from. Its question is one that a resolver
asks: for a type that is no meta type, or for all types. -/
def Operation.Fills : Operation → Prop
  | addRecord _ _ | preload _ => True
  | addSet set _ => set.Coherent
  | ingest message => ∀ question, message.question = some question →
      question.type.isMeta = true → question.type = .any
  | _ => False

theorem Operation.Fills.coherent {operation : Operation} (fills : operation.Fills) :
    operation.Coherent := by
  cases operation with
  | addSet set credibility => exact fills
  | _ => exact trivial

/-! ### Steps that fill a cache -/

/-- Something is added, and no meta type is said to be missing. -/
def Change.Fills : Change → Prop
  | addRecord _ _ | storeSet _ _ => True
  | storeAbsence _ key _ _ => ∀ type : RecordType, key = .type type → type.isMeta = false
  | _ => False

/-- Filling a cache leaves its limits alone. -/
theorem Change.Fills.keepsLimits {change : Change} (fills : change.Fills) : change.KeepsLimits := by
  cases change with
  | addRecord | storeSet | storeAbsence => exact trivial
  | _ => exact fills.elim

/-- A step brings a set of a meta type, with a lifetime. -/
def Change.BringsMeta (change : Change) (set : RRset) : Prop :=
  ∃ credibility, change = .storeSet set credibility ∧ set.type.isMeta = true ∧ set.ttl ≠ 0

/-- An entry under a meta type was there before a step, or the step has brought it. -/
theorem Change.Fills.meta_cases {cache : Cache} (tidy : cache.shelf.Tidy) (now : Nat)
    {change : Change} (fills : change.Fills) {name : Name} {type : RecordType} {entry : Entry}
    (isMeta : type.isMeta = true)
    (found : (change.apply now cache).entryAt? name (.type type) = some entry) :
    cache.entryAt? name (.type type) = some entry ∨
      ∃ set, change.BringsMeta set ∧ entry.data = .positive set := by
  cases change with
  | addRecord record credibility =>
    cases refused : record.setType.isMeta with
    | true =>
      rw [refuse_addRecord refused] at found
      exact Or.inl found
    | false =>
      have settles := apply_addRecord_settles tidy now record credibility refused
      rcases settles.entry_cases found with stayed | ⟨_, same, _⟩
      · exact Or.inl stayed
      · rw [← EntryKey.type.inj same] at isMeta
        exact absurd (refused.symm.trans isMeta) Bool.false_ne_true
  | storeSet set credibility =>
    have settles := storeSet_settles tidy now set credibility
    rcases settles.entry_cases found with stayed | ⟨owner, same, added⟩
    · exact Or.inl stayed
    · cases same
      rcases settled_cases added with stands | new
      · rw [live?_congr cache owner] at stands
        exact Or.inl (live?_eq_some_iff.mp stands).1
      · refine Or.inr ⟨set, ⟨credibility, rfl, isMeta, fun zero => ?_⟩, ?_⟩
        · rw [entryOfSet?, if_pos (Or.inl zero)] at new
          cases new
        · rw [entryOfSet?_eq_some new]
          rfl
  | storeAbsence denied key zoneStart credibility =>
    have settles := storeAbsence_settles tidy now denied key zoneStart credibility
    rcases settles.entry_cases found with stayed | ⟨_, same, _⟩
    · exact Or.inl stayed
    · exact absurd ((fills type same).symm.trans isMeta) Bool.false_ne_true
  | _ => exact fills.elim

/-- So it is with several steps. -/
theorem Change.applyAll_meta_cases (now : Nat) (changes : List Change) {cache : Cache}
    (tidy : cache.shelf.Tidy) (fills : ∀ change ∈ changes, change.Fills) {name : Name}
    {type : RecordType} {entry : Entry} (isMeta : type.isMeta = true)
    (found : (applyAll now changes cache).entryAt? name (.type type) = some entry) :
    cache.entryAt? name (.type type) = some entry ∨
      ∃ change ∈ changes, ∃ set, change.BringsMeta set ∧ entry.data = .positive set := by
  induction changes generalizing cache with
  | nil => exact Or.inl found
  | cons change rest inductionHypothesis =>
    have first := fills change List.mem_cons_self
    rcases inductionHypothesis (apply_steps tidy now change).tidy
      (fun other later => fills other (List.mem_cons_of_mem _ later)) found with before | later
    · rcases first.meta_cases tidy now isMeta before with stayed | brought
      · exact Or.inl stayed
      · exact Or.inr ⟨change, List.mem_cons_self, brought⟩
    · obtain ⟨other, member, brought⟩ := later
      exact Or.inr ⟨other, List.mem_cons_of_mem _ member, brought⟩

/-! ### What a response writes -/

/-- An alias that was made use of is of no meta type. -/
theorem Trail.Walks.used_not_isMeta {trail : Trail} {answers : List RRset} {type : RecordType}
    {start : Name} {links : List Link} {stuck : Option RRset}
    (walks : trail.Walks answers type start links stuck) {set : RRset} (used : set ∈ trail.used) :
    set.type.isMeta = false := by
  obtain ⟨crossed, _, _, isAlias⟩ := walks.used_standsFor used
  rcases isAliasFor_iff.mp isAlias with ⟨isCname, _⟩ | ⟨isDname, _⟩
  · rw [isCname]
    decide
  · rw [isDname]
    decide

/-- A set of a meta type that is kept of a response is one that answers. -/
theorem mem_finals_of_isMeta {message : Message} {question : Question} {set : RRset}
    {credibility : Credibility}
    (written : Write.set set credibility ∈ (digestFor message question).writes)
    (isMeta : set.type.isMeta = true) : set ∈ (trailThrough message question).finals := by
  have notMeta {type : RecordType} (same : set.type = type) (known : type.isMeta = false) :
      set ∈ (trailThrough message question).finals := by
    rw [same, known] at isMeta
    cases isMeta
  obtain ⟨links, stuck, walks⟩ := trailOf_walks question
    (setsInClass message .answer question.recordClass)
  cases digestFor_stems message question _ written with
  | answer set part =>
    rcases List.mem_append.mp part with used | final
    · exact notMeta rfl (walks.used_not_isMeta used)
    · exact final
  | servers set chosen => exact notMeta (covering?_eq_some chosen).2.1 (by decide)
  | address set naming host present addresses points named same =>
    rcases addresses with isA | isAaaa
    · exact notMeta isA (by decide)
    · exact notMeta isAaaa (by decide)

/-- That all types are missing is not recorded at the end of a trail. -/
theorem endWithAbsence_key {message : Message} {type : RecordType} {trail : Trail}
    {zone : Option RRset} {name : Name} {key : EntryKey} {zoneStart : Option Record}
    {credibility : Credibility}
    (written : Write.absence name key zoneStart credibility ∈
      (endWithAbsence message type trail zone).writes) : key ≠ .type .any := by
  simp only [endWithAbsence] at written
  generalize (if message.result = .nxDomain then EntryKey.name else .type type) = missing at written
  by_cases all : missing = .type .any
  · rw [if_pos all] at written
    cases written
  · rw [if_neg all, List.mem_singleton] at written
    cases written
    exact all

theorem endingOf_absence_key {message : Message} {type : RecordType} {trail : Trail}
    {authority : List RRset} {name : Name} {key : EntryKey} {zoneStart : Option Record}
    {credibility : Credibility}
    (written : Write.absence name key zoneStart credibility ∈
      (endingOf message type trail authority).writes) : key ≠ .type .any := by
  unfold endingOf at written
  dsimp only at written
  split at written
  · unfold endWithAnswer at written
    dsimp only at written
    split at written
    · split at written <;> simp at written
    · simp at written
  · split at written
    · split at written
      · simp [endWithServers] at written
      · exact endWithAbsence_key written
    · exact endWithAbsence_key written

/-- What is recorded as missing is the name, or the type that was asked for, but never all types. -/
theorem absence_key {message : Message} {question : Question} {name : Name} {key : EntryKey}
    {zoneStart : Option Record} {credibility : Credibility}
    (written : Write.absence name key zoneStart credibility ∈
      (digestFor message question).writes) :
    (key = .name ∨ key = .type question.type) ∧ key ≠ .type .any := by
  have about : key = .name ∨ key = .type question.type := by
    cases digestFor_stems message question _ written with
    | absence _ _ _ about => exact about
  refine ⟨about, ?_⟩
  rcases List.mem_append.mp written with early | address
  · rcases List.mem_append.mp early with answer | ending
    · obtain ⟨_, _, other⟩ := List.mem_map.mp answer
      cases other
    · exact endingOf_absence_key ending
  · obtain ⟨_, _, other⟩ := List.mem_map.mp address
    cases other

/-- What a response writes denies no meta type, since that would be the one it was asked for, and a
set of a meta type that it writes is one that it brings. -/
theorem ofWrite_fills {message : Message} (fills : (Operation.ingest message).Fills)
    {question : Question} (asked : message.question = some question)
    (cacheable : message.result.isCacheable = true) {write : Write}
    (written : write ∈ (digestFor message question).writes) :
    (Change.ofWrite write).Fills ∧
      ∀ set, (Change.ofWrite write).BringsMeta set → message.BringsMeta set := by
  cases write with
  | set set credibility =>
    refine ⟨trivial, fun brought brings => ?_⟩
    obtain ⟨_, same, isMeta, lasts⟩ := brings
    cases same
    exact ⟨question, asked, cacheable, mem_finals_of_isMeta written isMeta, isMeta, lasts⟩
  | absence name key zoneStart credibility =>
    refine ⟨fun type same => ?_, fun brought brings => nomatch brings.choose_spec.1⟩
    obtain ⟨about, notAll⟩ := absence_key written
    rcases about with rfl | rfl
    · cases same
    · cases same
      refine Bool.eq_false_iff.mpr fun isMeta => notAll ?_
      rw [fills question asked isMeta]

/-- The steps that an operation takes which fills a cache. Only learning from a response brings a
set of a meta type, and it is the response that brings it. -/
theorem Operation.Fills.changes {operation : Operation} (fills : operation.Fills) (now : Nat)
    (cache : Cache) : ∀ change ∈ operation.changes now cache, change.Fills ∧
      ∀ set, change.BringsMeta set →
        ∃ message, operation = .ingest message ∧ message.BringsMeta set := by
  intro change member
  cases operation with
  | addRecord record credibility =>
    rw [List.mem_singleton.mp member]
    exact ⟨trivial, fun set brings => nomatch brings.choose_spec.1⟩
  | preload records =>
    obtain ⟨pair, _, rfl⟩ := List.mem_map.mp member
    exact ⟨trivial, fun set brings => nomatch brings.choose_spec.1⟩
  | addSet set credibility =>
    refine ⟨mem_changes_addSet member ▸ trivial, fun brought brings => ?_⟩
    unfold Operation.changes at member
    dsimp only at member
    split at member
    · cases member
    · rename_i cacheable
      obtain ⟨_, rfl, isMeta, _⟩ := brings
      cases List.mem_singleton.mp member
      rw [RRset.toAbsolute_type fills] at isMeta
      exact absurd isMeta cacheable
  | ingest message =>
    unfold Operation.changes at member
    dsimp only at member
    cases said : digest? message with
    | none =>
      rw [said] at member
      cases member
    | some digest =>
      rw [said] at member
      obtain ⟨write, written, rfl⟩ := List.mem_map.mp member
      obtain ⟨question, asked, cacheable, rfl⟩ := digest?_eq_some said
      obtain ⟨fillsToo, brought⟩ := ofWrite_fills fills asked cacheable written
      exact ⟨fillsToo, fun set brings => ⟨message, rfl, brought set brings⟩⟩
  | _ => exact fills.elim

/-- A run that fills a cache leads to a reachable cache with the same limits. -/
theorem Operation.run_fills (operations : List (Nat × Operation)) {cache : Cache}
    (reachable : Reachable cache) (fills : ∀ operation ∈ operations, operation.2.Fills) :
    Reachable (run operations cache) ∧ (run operations cache).limits = cache.limits := by
  induction operations generalizing cache with
  | nil => exact ⟨reachable, rfl⟩
  | cons operation rest inductionHypothesis =>
    have first := fills operation List.mem_cons_self
    have limits : (operation.2.apply operation.1 cache).limits = cache.limits := by
      rw [operation.2.apply_eq]
      exact Change.applyAll_limits (fun change member =>
        (first.changes operation.1 cache change member).1.keepsLimits) reachable.tidy operation.1
    rw [← limits]
    exact inductionHypothesis (reachable.operation operation.1 operation.2 first.coherent)
      fun other later => fills other (List.mem_cons_of_mem _ later)

/-- An entry under a meta type that is found after a run was there before, or a response of the run
has brought it. -/
theorem Operation.run_meta_cases (operations : List (Nat × Operation)) {cache : Cache}
    (reachable : Reachable cache) (fills : ∀ operation ∈ operations, operation.2.Fills)
    {name : Name} {type : RecordType} {entry : Entry} (isMeta : type.isMeta = true)
    (found : (run operations cache).entryAt? name (.type type) = some entry) :
    cache.entryAt? name (.type type) = some entry ∨
      ∃ now message set, (now, .ingest message) ∈ operations ∧ message.BringsMeta set ∧
        entry.data = .positive set := by
  induction operations generalizing cache with
  | nil => exact Or.inl found
  | cons operation rest inductionHypothesis =>
    have fillsFirst := fills operation List.mem_cons_self
    have first := fillsFirst.changes operation.1 cache
    rcases inductionHypothesis (reachable.operation operation.1 operation.2 fillsFirst.coherent)
      (fun other later => fills other (List.mem_cons_of_mem _ later)) found with before | later
    · rw [operation.2.apply_eq] at before
      rcases Change.applyAll_meta_cases operation.1 _ reachable.tidy (fun change member =>
        (first change member).1) isMeta before with stayed | ⟨change, member, set, brings, data⟩
      · exact Or.inl stayed
      · obtain ⟨message, ingests, brought⟩ := (first change member).2 set brings
        exact Or.inr ⟨operation.1, message, set, ingests ▸ List.mem_cons_self, brought, data⟩
    · obtain ⟨now, message, set, member, brought⟩ := later
      exact Or.inr ⟨now, message, set, List.mem_cons_of_mem _ member, brought⟩

/-! ### Responses that bring a meta type -/

/-- Writes that last leave an entry in a place that one of them is about. -/
theorem writeAll_fills {cache : Cache} (tidy : cache.shelf.Tidy)
    (unbounded : cache.limits.capacity = 0) (keepsSets : cache.limits.longestPositive ≠ some 0)
    (now : Nat) (writes : List Write) {name : Name} {key : EntryKey}
    (lasting : ∀ write ∈ writes, write.owner ≈ name → write.key = key →
      ∃ set credibility, write = .set set credibility ∧ set.ttl ≠ 0)
    (filled : (∃ entry, cache.entryAt? name key = some entry) ∨
      ∃ write ∈ writes, write.owner ≈ name ∧ write.key = key) :
    ∃ entry, (cache.writeAll now writes).entryAt? name key = some entry := by
  induction writes generalizing cache with
  | nil => exact filled.resolve_right fun ⟨_, member, _⟩ => nomatch member
  | cons write rest inductionHypothesis =>
    have later := fun other member => lasting other (List.mem_cons_of_mem _ member)
    by_cases there : write.owner ≈ name ∧ write.key = key
    · obtain ⟨set, credibility, rfl, lasts⟩ :=
        lasting write List.mem_cons_self there.1 there.2
      have settles := storeSet_settles tidy now set credibility
      refine inductionHypothesis settles.tidy (settles.limits ▸ unbounded)
        (settles.limits ▸ keepsSets) later (Or.inl ?_)
      obtain ⟨owner, rfl⟩ := there
      have found := settles.there name owner
      rw [entryOfSet?, if_neg (not_or.mpr ⟨lasts, keepsSets⟩)] at found
      cases stands : settled (cache.live? now set.name (.type set.type))
        (some (Entry.ofSet set credibility now cache.limits.longestPositive)) credibility with
      | some entry => exact ⟨entry, found.trans stands⟩
      | none => simp [settled] at stands
    · obtain ⟨result, settles⟩ := write_settles tidy now write
      refine inductionHypothesis settles.tidy (settles.limits ▸ unbounded)
        (settles.limits ▸ keepsSets) later ?_
      rcases filled with ⟨entry, before⟩ | ⟨other, member, about⟩
      · refine Or.inl ⟨entry, ?_⟩
        rw [settles.elsewhere_eq unbounded name key there]
        exact before
      · rcases List.mem_cons.mp member with rfl | inRest
        · exact absurd about there
        · exact Or.inr ⟨other, inRest, about⟩

/-- Whatever a response writes where a set of a meta type stands that it brings is that set. -/
theorem write_of_bringsMeta {message : Message} (fills : (Operation.ingest message).Fills)
    {set : RRset} {question : Question} (asked : message.question = some question)
    (final : set ∈ (trailThrough message question).finals) (isMeta : set.type.isMeta = true)
    {write : Write} (written : write ∈ (digestFor message question).writes)
    (owner : write.owner ≈ set.name) (key : write.key = .type set.type) :
    ∃ credibility, write = .set set credibility := by
  have within := trailOf_within question (setsInClass message .answer question.recordClass)
  cases write with
  | set other credibility =>
    have sameType : other.type = set.type := EntryKey.type.inj key
    have otherFinal := mem_finals_of_isMeta written (sameType ▸ isMeta)
    have same : other = set := setsInClass_apart (within.finals other otherFinal).1
      (within.finals set final).1 owner sameType
    exact ⟨credibility, same ▸ rfl⟩
  | absence name missing zoneStart credibility =>
    obtain ⟨about, notAll⟩ := absence_key written
    have same : missing = .type set.type := key
    subst same
    rcases about with none | isType
    · cases none
    · rw [EntryKey.type.inj isType] at isMeta notAll
      exact absurd (congrArg EntryKey.type (fills question asked isMeta)) notAll

/-- After learning from a response that brings a set of a meta type, something stands in its
place. -/
theorem ingest_fills {cache : Cache} (tidy : cache.shelf.Tidy)
    (unbounded : cache.limits.capacity = 0) (keepsSets : cache.limits.longestPositive ≠ some 0)
    (now : Nat) {message : Message} (fills : (Operation.ingest message).Fills) {set : RRset}
    (brings : message.BringsMeta set) :
    ∃ entry, ((Operation.ingest message).apply now cache).entryAt? set.name (.type set.type) =
      some entry := by
  obtain ⟨question, asked, cacheable, final, isMeta, lasts⟩ := brings
  have said : digest? message = some (digestFor message question) := by
    unfold digest?
    rw [asked]
    exact if_pos cacheable
  have applied : (Operation.ingest message).apply now cache =
      cache.writeAll now (digestFor message question).writes := by
    show (cache.ingestResponse now message).2 = _
    unfold ingestResponse
    rw [said]
  rw [applied]
  refine writeAll_fills tidy unbounded keepsSets now _ (fun write written owner key => ?_)
    (Or.inr ⟨.set set (.ofSection .answer message.authoritative), ?_, Setoid.refl _, rfl⟩)
  · obtain ⟨credibility, same⟩ := write_of_bringsMeta fills asked final isMeta written owner key
    exact ⟨set, credibility, same, lasts⟩
  · have part : set ∈ (trailThrough message question).used ++
        (trailThrough message question).finals := List.mem_append_right _ final
    exact List.mem_append_left _ (List.mem_append_left _ (List.mem_map_of_mem part))

/-! ### Runs -/

/-- A response that brings a set of a meta type answers a question for all types. -/
theorem any_of_bringsMeta {message : Message} (fills : (Operation.ingest message).Fills)
    {set : RRset} (brings : message.BringsMeta set) :
    ∃ question, message.question = some question ∧ question.type = .any := by
  obtain ⟨question, asked, _, final, isMeta, _⟩ := brings
  have within := trailOf_within question (setsInClass message .answer question.recordClass)
  obtain ⟨_, all | same⟩ := of_decide_eq_true (within.finals set final).2
  · exact ⟨question, asked, all⟩
  · exact ⟨question, asked, fills question asked (same ▸ isMeta)⟩

/-- No entry of a new cache is under a meta type, so that of a run was brought by one of its
responses. -/
theorem run_new_meta_cases (recordClass : RecordClass) (limits : CacheLimits)
    (operations : List (Nat × Operation)) (fills : ∀ operation ∈ operations, operation.2.Fills)
    {name : Name} {type : RecordType} {entry : Entry} (isMeta : type.isMeta = true)
    (found : (Operation.run operations (Cache.new recordClass limits)).entryAt? name (.type type) =
      some entry) :
    ∃ now message set, (now, .ingest message) ∈ operations ∧ message.BringsMeta set ∧
      entry.data = .positive set :=
  (Operation.run_meta_cases operations (Reachable.new recordClass limits) fills isMeta
    found).resolve_left nofun

/-- Directly after a response that brings a set of a meta type, the cache holds such records. -/
theorem run_holdsMeta_of_bringsMeta (recordClass : RecordClass) {limits : CacheLimits}
    (unbounded : limits.capacity = 0) (keepsSets : limits.longestPositive ≠ some 0)
    (earlier : List (Nat × Operation)) {now : Nat} {message : Message}
    (fills : ∀ operation ∈ earlier ++ [(now, .ingest message)], operation.2.Fills) {set : RRset}
    (brings : message.BringsMeta set) :
    (Operation.run (earlier ++ [(now, .ingest message)])
      (Cache.new recordClass limits)).HoldsMeta := by
  obtain ⟨reachable, kept⟩ := Operation.run_fills earlier (Reachable.new recordClass limits)
    fun operation inside => fills operation (List.mem_append_left _ inside)
  have last : (Operation.ingest message).Fills :=
    fills (now, .ingest message) (List.mem_append_right _ List.mem_cons_self)
  obtain ⟨entry, found⟩ := ingest_fills reachable.tidy (kept ▸ unbounded) (kept ▸ keepsSets) now
    last brings
  rw [← Operation.run_concat] at found
  have isMeta : set.type.isMeta = true := brings.choose_spec.2.2.2.1
  -- What stands there is no absence, since a response of the run has brought it.
  obtain ⟨_, _, held, _, _, data⟩ := run_new_meta_cases recordClass limits _ fills isMeta found
  exact ⟨set.name, set.type, entry, held, isMeta, found, data⟩

/-- A cache that is added to and learns from responses comes to hold records of a meta type only
through a response that brings some, and such a response answers a question for all types. Where
there is room for all names and sets are kept at all, no gate stops such a response: at some time
the cache holds records of a meta type exactly if there is one. -/
theorem metas_brought_by_responses (recordClass : RecordClass) (limits : CacheLimits)
    (operations : List (Nat × Operation)) (fills : ∀ operation ∈ operations, operation.2.Fills) :
    ((Operation.run operations (Cache.new recordClass limits)).HoldsMeta →
      ∃ now message set, (now, .ingest message) ∈ operations ∧ message.BringsMeta set) ∧
    (∀ now message set, (now, .ingest message) ∈ operations → message.BringsMeta set →
      ∃ question, message.question = some question ∧ question.type = .any) ∧
    (limits.capacity = 0 → limits.longestPositive ≠ some 0 →
      ((∃ part, part <+: operations ∧
          (Operation.run part (Cache.new recordClass limits)).HoldsMeta) ↔
        ∃ now message set, (now, .ingest message) ∈ operations ∧ message.BringsMeta set)) := by
  have brought (part : List (Nat × Operation)) (isPart : part <+: operations)
      (holds : (Operation.run part (Cache.new recordClass limits)).HoldsMeta) :
      ∃ now message set, (now, .ingest message) ∈ part ∧ message.BringsMeta set := by
    obtain ⟨name, type, entry, set, isMeta, found, _⟩ := holds
    obtain ⟨now, message, brought, member, brings, _⟩ := run_new_meta_cases recordClass limits part
      (fun operation member => fills operation (isPart.subset member)) isMeta found
    exact ⟨now, message, brought, member, brings⟩
  refine ⟨brought operations List.prefix_rfl,
    fun now message set member brings => any_of_bringsMeta (fills _ member) brings,
    fun unbounded keepsSets => ⟨?_, ?_⟩⟩
  · rintro ⟨part, isPart, holds⟩
    obtain ⟨now, message, set, member, brings⟩ := brought part isPart holds
    exact ⟨now, message, set, isPart.subset member, brings⟩
  · rintro ⟨now, message, set, member, brings⟩
    obtain ⟨earlier, later, whole⟩ := List.append_of_mem member
    have isPart : earlier ++ [(now, .ingest message)] <+: operations :=
      ⟨later, by rw [whole, List.append_assoc, List.singleton_append]⟩
    exact ⟨_, isPart, run_holdsMeta_of_bringsMeta recordClass unbounded keepsSets earlier
      (fun operation inside => fills operation (isPart.subset inside)) brings⟩

/-- A record that pretends to be a transfer of the zone `w.`. -/
def transferRecord : Record :=
  { Record.address 1 300 with data := .other ⟨252⟩ [] }

/-- A signature of such a record. -/
def transferSignature : Record :=
  { Record.address 1 300 with data := .rrsig ⟨252⟩ [] }

/-- A response to a question for all types at `w.`: an address, and a signature for a transfer,
where the two make sets of their own. -/
def allTypesResponse : Message :=
  { Message.responseTo (Message.query ⟨Name.ofOctets [0x77], .any, .inet⟩) with
    answers := [Record.address 1 300, transferSignature] }

/-- The record is offered in every way there is, and then a response brings its signature. -/
def transferOffers : List (Nat × Operation) :=
  [(1000, .addRecord transferRecord .zone), (1000, .addSet (RRset.ofRecord transferRecord) .zone),
    (1000, .preload [(transferSignature, .zone), (Record.address 2 300, .zone)]),
    (1001, .ingest allTypesResponse)]

/-- The gate holds until the response comes. -/
theorem transferOffers_holdsMeta :
    ¬ (Operation.run (transferOffers.take 3) (Cache.new .inet ⟨0, none, 3600⟩)).HoldsMeta ∧
      ∃ part, part <+: transferOffers ∧
        (Operation.run part (Cache.new .inet ⟨0, none, 3600⟩)).HoldsMeta := by
  have fills : ∀ operation ∈ transferOffers, operation.2.Fills := by
    intro operation member
    simp only [transferOffers, List.mem_cons, List.not_mem_nil, or_false] at member
    rcases member with rfl | rfl | rfl | rfl
    · exact trivial
    · exact RRset.ofRecord_coherent _
    · exact trivial
    · rintro question ⟨⟩ _
      rfl
  have brings : allTypesResponse.BringsMeta (RRset.ofRecord transferSignature) :=
    ⟨_, rfl, by decide, by decide +kernel, by decide +kernel, by decide +kernel⟩
  constructor
  · intro holds
    obtain ⟨now, message, set, member, _⟩ := (metas_brought_by_responses .inet ⟨0, none, 3600⟩
      (transferOffers.take 3) fun operation member => fills operation
        (List.mem_of_mem_take member)).1 holds
    simp [transferOffers] at member
  · obtain ⟨_, _, exactly⟩ := metas_brought_by_responses .inet ⟨0, none, 3600⟩ transferOffers fills
    exact (exactly rfl (by decide)).mpr
      ⟨1001, allTypesResponse, _, by simp [transferOffers], brings⟩

/-- A response to a question for all types that has a record of a meta type as its only answer. -/
def transferResponse : Message :=
  { Message.responseTo (Message.query ⟨Name.ofOctets [0x77], .any, .inet⟩) with
    answers := [transferRecord] }

/-- What is refused when it is added, as a record or as a set, is kept when a response has it: it
stands in the cache as records of its type, and is found there. -/
theorem holdsMeta_of_transferResponse :
    let empty := Cache.new .inet ⟨0, none, 3600⟩
    let learned := (Operation.ingest transferResponse).apply 1000 empty
    RecordType.isMeta ⟨252⟩ = true ∧
      empty.addRecord 1000 transferRecord .nonAuthAnswer = .error (refuseMeta ⟨252⟩) ∧
      empty.addSet 1000 (RRset.ofRecord transferRecord) .nonAuthAnswer =
        .error (refuseMeta ⟨252⟩) ∧
      learned.entryAt? (Name.ofOctets [0x77]) (.type ⟨252⟩) =
        some ⟨.positive (RRset.ofRecord transferRecord), .nonAuthAnswer, 1300⟩ ∧
      (learned.lookup 1000 (Name.ofOctets [0x77]) ⟨252⟩ .nonAuthAnswer).1 =
        .single (RRset.ofRecord transferRecord) :=
  ⟨by decide, rfl, rfl, by decide +kernel, by decide +kernel⟩

end Cache

end StubResolver
