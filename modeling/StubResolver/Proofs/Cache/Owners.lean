/-
This file settles which names a cache holds. A lookup takes every name as absolute, and so do all
additions from outside; what stands at an absolute name is found there. Learning from a response
keeps sets under the owners that they have in the response. Most of them are absolute even so, since
they were matched with a name that is: the names along the trail, and the hosts that records name.
Two kinds are matched by lying above a name, and that is blind to whether an owner is absolute: the
redirections made use of, and the servers of the zone. Where the owner of such a set is relative,
the cache holds it at a name that no lookup visits.

So no name of a cache is relative as long as no response brings such a set. That every response of
this kind leaves its set behind takes a cache with room for all names.
-/

import StubResolver.Proofs.Cache.MetaTypes

namespace StubResolver

/-- A response brings a set with a relative owner: the set is written when the response is learned
from, and it has a lifetime. -/
def Message.BringsRelative (message : Message) (set : RRset) : Prop :=
  ∃ question credibility, message.question = some question ∧ message.result.isCacheable = true ∧
    .set set credibility ∈ (Cache.digestFor message question).writes ∧
      set.name.absolute = false ∧ set.ttl ≠ 0

namespace Cache

/-- A cache holds something at a relative name. -/
def HoldsRelative (cache : Cache) : Prop := ∃ name ∈ cache.names, name.absolute = false

variable {cache : Cache}

/-- A name that is held has an entry, since no slot is empty. -/
theorem holdsRelative_iff (tidy : cache.shelf.Tidy) :
    cache.HoldsRelative ↔
      ∃ name key entry, name.absolute = false ∧ cache.entryAt? name key = some entry := by
  constructor
  · rintro ⟨name, held, relative⟩
    obtain ⟨slot, member, rfl⟩ := List.mem_map.mp held
    obtain ⟨⟨key, entry⟩, inside⟩ := List.exists_mem_of_ne_nil _ (tidy.filled slot member)
    exact ⟨slot.owner, key, entry, relative, tidy.entryAt?_owner member inside⟩
  · rintro ⟨name, key, entry, relative, found⟩
    obtain ⟨slot, at?, _⟩ := Option.bind_eq_some_iff.mp found
    refine ⟨slot.owner, List.mem_map_of_mem (Shelf.mem_of_slot? at?), ?_⟩
    rw [Name.absolute_of_equiv (Shelf.owner_of_slot? at?)]
    exact relative

/-! ### Steps that bring a relative name -/

/-- A step brings a relative name: an absence there, or a set that has a lifetime. -/
def Change.BringsRelative : Change → Prop
  | storeSet set _ => set.name.absolute = false ∧ set.ttl ≠ 0
  | storeAbsence name _ _ _ => name.absolute = false
  | _ => False

theorem Shrinks.holdsRelative {before after : Cache} (shrinks : Shrinks before after)
    (tidy : before.shelf.Tidy) (holds : after.HoldsRelative) : before.HoldsRelative := by
  obtain ⟨name, key, entry, relative, found⟩ := (holdsRelative_iff shrinks.tidy).mp holds
  rcases shrinks.entries name key with same | gone
  · exact (holdsRelative_iff tidy).mpr ⟨name, key, entry, relative, same ▸ found⟩
  · rw [gone] at found
    cases found

/-- What an addition leaves at relative names was there before, or the addition is at a relative
name and has put an entry there. -/
theorem Settles.holdsRelative {before after : Cache} {now : Nat} {name : Name} {key : EntryKey}
    {fresh : Option Entry} {credibility : Credibility} (tidy : before.shelf.Tidy)
    (settles : Settles before after name key
      (settled (before.live? now name key) fresh credibility))
    (holds : after.HoldsRelative) :
    before.HoldsRelative ∨ name.absolute = false ∧ fresh ≠ none := by
  obtain ⟨other, otherKey, entry, relative, found⟩ := (holdsRelative_iff settles.tidy).mp holds
  rcases settles.entry_cases found with stayed | ⟨same, rfl, added⟩
  · exact Or.inl ((holdsRelative_iff tidy).mpr ⟨other, otherKey, entry, relative, stayed⟩)
  · have owner : name.absolute = false := (Name.absolute_of_equiv same).trans relative
    rcases settled_cases added with stands | new
    · exact Or.inl ((holdsRelative_iff tidy).mpr
        ⟨name, key, entry, owner, (live?_eq_some_iff.mp stands).1⟩)
    · refine Or.inr ⟨owner, ?_⟩
      rw [new]
      exact nofun

/-- A record that is added is kept at an absolute name. -/
theorem addRecord_holdsRelative (tidy : cache.shelf.Tidy) (now : Nat) (record : Record)
    (credibility : Credibility)
    (holds : ((Change.addRecord record credibility).apply now cache).HoldsRelative) :
    cache.HoldsRelative := by
  cases refused : record.setType.isMeta with
  | true =>
    rw [refuse_addRecord refused] at holds
    exact holds
  | false =>
    have settles := apply_addRecord_settles tidy now record credibility refused
    obtain ⟨name, key, entry, relative, found⟩ := (holdsRelative_iff settles.tidy).mp holds
    rcases settles.entry_cases found with stayed | ⟨same, _⟩
    · exact (holdsRelative_iff tidy).mpr ⟨name, key, entry, relative, stayed⟩
    · exact absurd ((Name.absolute_of_equiv same).trans relative) (by simp [kept])

/-- A cache that holds something at a relative name after a step did so before, or the step has
brought it. -/
theorem apply_holdsRelative (reachable : Reachable cache) (now : Nat) {change : Change}
    (holds : (change.apply now cache).HoldsRelative) :
    cache.HoldsRelative ∨ change.BringsRelative := by
  have tidy := reachable.tidy
  cases change with
  | addRecord record credibility =>
    exact Or.inl (addRecord_holdsRelative tidy now record credibility holds)
  | storeSet set credibility =>
    refine ((storeSet_settles tidy now set credibility).holdsRelative tidy holds).imp_right ?_
    rintro ⟨relative, fresh⟩
    exact ⟨relative, fun zero => fresh (if_pos (Or.inl zero))⟩
  | storeAbsence name key zoneStart credibility =>
    exact ((storeAbsence_settles tidy now name key zoneStart credibility).holdsRelative tidy
      holds).imp_right And.left
  | lookup name type least =>
    exact Or.inl ((lookup_spec tidy now name type least).1.shrinks.holdsRelative tidy holds)
  | sweepName name => exact Or.inl ((sweepName_fades tidy now name).shrinks.holdsRelative tidy holds)
  | flushName name => exact Or.inl ((flushName_shrinks tidy name).holdsRelative tidy holds)
  | flushEntry name key => exact Or.inl ((flushEntry_shrinks tidy name key).holdsRelative tidy holds)
  | clear => exact Or.inl (clear_shrinks.holdsRelative tidy holds)
  | setCapacity capacity =>
    exact Or.inl ((setCapacity_shrinks tidy capacity).holdsRelative tidy holds)
  | _ => exact Or.inl holds

/-! ### Which owners a response can have kept as they are -/

theorem absolute_of_aliasDestination? {set : RRset} {name next : Name}
    (leads : aliasDestination? set name = some next) : next.absolute = true := by
  unfold aliasDestination? at leads
  split at leads
  · cases leads
  · split at leads
    · split at leads
      · cases leads
        rfl
      · cases leads
    · cases leads
      rfl

/-- All names along a chain of aliases are absolute if the first is. -/
theorem absolute_of_crosses {answers : List RRset} {type : RecordType} {start last : Name}
    {links : List Link} (absolute : start.absolute = true)
    (chain : Chain (Crosses answers type) start links last) :
    (∀ link ∈ links, link.crossed.absolute = true) ∧ last.absolute = true := by
  induction links generalizing start with
  | nil => exact ⟨nofun, (Name.absolute_of_equiv chain).symm.trans absolute⟩
  | cons link rest inductionHypothesis =>
    obtain ⟨starts, next, crosses, others⟩ := chain
    obtain ⟨restAbsolute, lastAbsolute⟩ :=
      inductionHypothesis (absolute_of_aliasDestination? crosses.leads) others
    refine ⟨fun other member => ?_, lastAbsolute⟩
    rcases List.mem_cons.mp member with rfl | later
    · exact (Name.absolute_of_equiv starts).symm.trans absolute
    · exact restAbsolute other later

/-- A trail passes through absolute names only. -/
theorem trailThrough_names_absolute (message : Message) (question : Question) :
    ∀ name ∈ (trailThrough message question).names, name.absolute = true := by
  obtain ⟨links, stuck, walks⟩ := trailOf_walks question
    (setsInClass message .answer question.recordClass)
  obtain ⟨crossed, last⟩ := absolute_of_crosses rfl walks.chain
  intro name passed
  rcases List.mem_append.mp passed with early | final
  · rw [walks.aliases] at early
    obtain ⟨link, member, rfl⟩ := List.mem_map.mp early
    exact crossed link member
  · rw [List.mem_singleton.mp final]
    exact last

/-- A set that is kept under its owner because a name lies below the owner: a redirection that was
made use of, or the servers of the zone. -/
def KeptFromAbove (message : Message) (question : Question) (set : RRset) : Prop :=
  set.type = .dname ∧ set ∈ (trailThrough message question).used ∨
    set.type = .ns ∧
      serversAt? message question.recordClass (trailThrough message question).current = some set

/-- What is written at a relative name is a set, and is kept because a name lies below the owner. -/
theorem keptFromAbove_of_relative {message : Message} {question : Question} {write : Write}
    (written : write ∈ (digestFor message question).writes)
    (relative : write.owner.absolute = false) :
    ∃ set credibility, write = .set set credibility ∧ KeptFromAbove message question set := by
  have passed := trailThrough_names_absolute message question
  have never {name : Name} (absolute : name.absolute = true) (same : name ≈ write.owner) {P : Prop} :
      P := by
    rw [Name.absolute_of_equiv same, relative] at absolute
    cases absolute
  have current : (trailThrough message question).current.absolute = true :=
    passed _ (List.mem_append_right _ (List.mem_singleton.mpr rfl))
  obtain ⟨links, stuck, walks⟩ := trailOf_walks question
    (setsInClass message .answer question.recordClass)
  cases digestFor_stems message question _ written with
  | answer set part =>
    refine ⟨set, _, rfl, ?_⟩
    rcases List.mem_append.mp part with used | final
    · obtain ⟨crossed, inside, _, isAlias⟩ := walks.used_standsFor used
      rcases isAliasFor_iff.mp isAlias with ⟨_, same⟩ | ⟨isDname, _⟩
      · exact never (passed crossed inside) (Setoid.symm same)
      · exact Or.inl ⟨isDname, used⟩
    · exact never current (Setoid.symm (of_decide_eq_true (walks.within.finals set final).2).1)
  | servers set chosen => exact ⟨set, _, rfl, Or.inr ⟨(covering?_eq_some chosen).2.1, chosen⟩⟩
  | absence key zoneStart incomplete about => exact never current (Setoid.refl _)
  | address set naming host present addresses points named same =>
    obtain ⟨record, _, isHost⟩ := List.mem_filterMap.mp named
    obtain ⟨target, _, rfl⟩ := Option.map_eq_some_iff.mp isHost
    exact never (Name.toAbsolute_absolute target) same

/-- Two such sets of one name and type are the same set. -/
theorem KeptFromAbove.eq {message : Message} {question : Question} {first second : RRset}
    (isFirst : KeptFromAbove message question first)
    (isSecond : KeptFromAbove message question second) (owner : first.name ≈ second.name)
    (type : first.type = second.type) : first = second := by
  have differ : ¬ RecordType.dname = .ns := by decide
  have within := trailOf_within question (setsInClass message .answer question.recordClass)
  rcases isFirst with ⟨firstDname, firstUsed⟩ | ⟨firstNs, firstChosen⟩ <;>
    rcases isSecond with ⟨secondDname, secondUsed⟩ | ⟨secondNs, secondChosen⟩
  · exact setsInClass_apart (within.used _ firstUsed) (within.used _ secondUsed) owner type
  · exact absurd (firstDname.symm.trans (type.trans secondNs)) differ
  · exact absurd (secondDname.symm.trans (type.symm.trans firstNs)) differ
  · exact Option.some_inj.mp (firstChosen.symm.trans secondChosen)

/-- A relative name comes only with a redirection that was made use of, or with the servers of the
zone. -/
theorem keptFromAbove_of_bringsRelative {message : Message} {set : RRset}
    (brings : message.BringsRelative set) :
    ∃ question, message.question = some question ∧ KeptFromAbove message question set := by
  obtain ⟨question, credibility, asked, _, written, relative, _⟩ := brings
  obtain ⟨_, _, same, kept⟩ := keptFromAbove_of_relative written relative
  cases same
  exact ⟨question, asked, kept⟩

/-- Among the steps of operations, only those of a response bring a relative name, and it is the
response that brings it. -/
theorem Operation.Takes.bringsRelative {operation : Operation} {change : Change}
    (takes : operation.Takes change) (coherent : operation.Coherent)
    (brings : change.BringsRelative) :
    ∃ message set, operation = .ingest message ∧ message.BringsRelative set := by
  cases takes with
  | addSet set credibility cacheable =>
    have owner := brings.1
    rw [RRset.toAbsolute_name coherent] at owner
    cases owner
  | addAbsence name key zoneStart credibility single => cases brings
  | ingest message question write asked cacheable written =>
    cases write with
    | set set credibility =>
      exact ⟨message, set, rfl, question, credibility, asked, cacheable, written, brings⟩
    | absence name key zoneStart credibility =>
      obtain ⟨_, _, other, _⟩ := keptFromAbove_of_relative written brings
      cases other
  | _ => exact brings.elim

/-- A run from a new cache comes to hold a relative name only through a response that brings one. -/
theorem run_bringsRelative (recordClass : RecordClass) (limits : CacheLimits)
    (operations : List (Nat × Operation)) (built : ∀ operation ∈ operations, operation.2.Built)
    (holds : (Operation.run operations (Cache.new recordClass limits)).HoldsRelative) :
    ∃ now message set, (now, .ingest message) ∈ operations ∧ message.BringsRelative set := by
  have cases := (Reachable.new recordClass limits).run_cases
    (fun now _ reachable => apply_holdsRelative reachable now) operations built holds
  rcases cases with ⟨_, none, _⟩ | ⟨⟨now, operation⟩, member, change, takes, brings⟩
  · cases none
  · obtain ⟨message, set, rfl, brought⟩ := takes.bringsRelative (built _ member).coherent brings
    exact ⟨now, message, set, member, brought⟩

/-! ### Responses that bring a relative name -/

/-- What learning from a response comes to that can be learned from. -/
theorem ingest_apply {message : Message} {question : Question}
    (asked : message.question = some question) (cacheable : message.result.isCacheable = true)
    (now : Nat) (cache : Cache) :
    (Operation.ingest message).apply now cache =
      cache.writeAll now (digestFor message question).writes := by
  have said : digest? message = some (digestFor message question) := by
    simp [digest?, asked, cacheable]
  show (cache.ingestResponse now message).2 = _
  rw [ingestResponse, said]

/-- After learning from a response that brings a relative name, the cache holds it: whatever else is
written in the place of the set is that set, and it lasts. -/
theorem ingest_holdsRelative (reachable : Reachable cache) (unbounded : cache.limits.capacity = 0)
    (keepsSets : cache.limits.longestPositive ≠ some 0) (now : Nat) {message : Message}
    {set : RRset} (brings : message.BringsRelative set) :
    ((Operation.ingest message).apply now cache).HoldsRelative := by
  have after := reachable.operation now (.ingest message) trivial
  obtain ⟨question, asked, kept⟩ := keptFromAbove_of_bringsRelative brings
  obtain ⟨_, credibility, askedToo, cacheable, written, relative, lasts⟩ := brings
  obtain rfl := Option.some_inj.mp (asked.symm.trans askedToo)
  have lasting : ∀ write ∈ (digestFor message question).writes, write.owner ≈ set.name →
      write.key = .type set.type →
        ∃ other credibility, write = .set other credibility ∧ other.ttl ≠ 0 := by
    intro write inside owner key
    obtain ⟨other, otherCredibility, rfl, otherKept⟩ :=
      keptFromAbove_of_relative inside ((Name.absolute_of_equiv owner).trans relative)
    have same : other = set := otherKept.eq kept owner (EntryKey.type.inj key)
    exact ⟨other, otherCredibility, rfl, same ▸ lasts⟩
  rw [ingest_apply asked cacheable] at after ⊢
  obtain ⟨entry, found⟩ := writeAll_fills reachable.tidy unbounded keepsSets now _ lasting
    (Or.inr ⟨.set set credibility, written, Setoid.refl set.name, rfl⟩)
  exact (holdsRelative_iff after.tidy).mpr ⟨set.name, _, entry, relative, found⟩

/-! ### What lookups find -/

/-- Lookups visit absolute names only, so what they give out has an absolute owner. -/
theorem absolute_of_mem_lookup (reachable : Reachable cache) {now : Nat} {name : Name}
    {type : RecordType} {least : Credibility} {set : RRset}
    (given : set ∈ (cache.lookup now name type least).1.sets) : set.name.absolute = true := by
  have offered {level : Name} {key : EntryKey} (absolute : level.absolute = true)
      (offers : cache.Offers now least level key set) : set.name.absolute = true := by
    obtain ⟨entry, alive, _, isSet⟩ := offers
    obtain ⟨_, owner, _⟩ :=
      reachable.inPlace level key entry set (live?_eq_some_iff.mp alive).1 isSet
    exact (Name.absolute_of_equiv owner).trans absolute
  have above {level : Name} (member : level ∈ ancestorsOf name.toAbsolute) :
      level.absolute = true := by
    obtain ⟨count, _, rfl⟩ := List.mem_map.mp member
    exact Name.toAbsolute_absolute _
  have supported := (lookup_spec reachable.tidy now name type least).2
  cases outcome : (cache.lookup now name type least).1 with
  | successful sets =>
    rw [outcome] at given supported
    obtain ⟨key, offers, _⟩ := supported set given
    exact offered (Name.toAbsolute_absolute name) offers
  | cname only =>
    rw [outcome] at given supported
    exact offered (Name.toAbsolute_absolute name) (List.mem_singleton.mp given ▸ supported)
  | dname only =>
    rw [outcome] at given supported
    obtain ⟨level, member, offers⟩ := supported
    exact offered (above member) (List.mem_singleton.mp given ▸ offers)
  | delegation only =>
    rw [outcome] at given supported
    obtain ⟨level, member, offers⟩ := supported
    refine offered ?_ (List.mem_singleton.mp given ▸ offers)
    rcases List.mem_cons.mp member with rfl | higher
    · exact Name.toAbsolute_absolute name
    · exact above higher
  | _ =>
    rw [outcome] at given
    cases given

/-- What stands at a relative name is found by no lookup, nor is anything like it. -/
theorem not_equiv_of_mem_lookup (reachable : Reachable cache) {name : Name} {key : EntryKey}
    {entry : Entry} {set : RRset} (found : cache.entryAt? name key = some entry)
    (isSet : entry.set? = some set) (relative : name.absolute = false) {now : Nat} {other : Name}
    {type : RecordType} {least : Credibility} {given : RRset}
    (inside : given ∈ (cache.lookup now other type least).1.sets) : ¬ given ≈ set := by
  intro same
  have owner : set.name ≈ name := (reachable.inPlace name key entry set found isSet).2.1
  have owners : given.name ≈ set.name := congrArg RRset.name same
  have absolute := absolute_of_mem_lookup reachable inside
  rw [Name.absolute_of_equiv owners, Name.absolute_of_equiv owner, relative] at absolute
  cases absolute

/-- What is alive at a name is the answer to a question for the name if and only if the name is
absolute. -/
theorem lookup_eq_single_iff (reachable : Reachable cache) {now : Nat} {name : Name}
    {type : RecordType} (single : type ≠ .any) {entry : Entry} {set : RRset}
    (alive : cache.live? now name (.type type) = some entry) (isSet : entry.set? = some set)
    {least : Credibility} (credible : least ≤ entry.credibility) :
    (cache.lookup now name type least).1 = .single set ↔ name.absolute = true := by
  constructor
  · intro answered
    have given : set ∈ (cache.lookup now name type least).1.sets := by
      rw [answered]
      exact List.mem_singleton.mpr rfl
    have owner := (reachable.inPlace _ _ _ _ (live?_eq_some_iff.mp alive).1 isSet).2.1
    exact (Name.absolute_of_equiv owner).symm.trans (absolute_of_mem_lookup reachable given)
  · intro absolute
    refine lookup_of_offers reachable.tidy single ⟨entry, ?_, credible, isSet⟩
    rw [Name.toAbsolute_of_absolute name absolute]
    exact alive

/-! ### Runs -/

/-- Whatever is done to a cache that is new at first, all its names are absolute as long as no
response that it learns from brings a set with a relative owner, and such a set is a redirection
made use of, or has the servers of the zone. Where there is room for all names, sets are kept at
all, and no limit is changed, every such response leads to a relative name: at some time the cache
holds one exactly if there is such a response. A set that is alive is the answer to a question for
its name and type exactly if the name is absolute; if it is not, no lookup gives it out at all. -/
theorem relatives_brought_unfound (recordClass : RecordClass) (limits : CacheLimits)
    (operations : List (Nat × Operation)) (built : ∀ operation ∈ operations, operation.2.Built) :
    let cache := Operation.run operations (Cache.new recordClass limits)
    (cache.HoldsRelative →
      ∃ now message set, (now, .ingest message) ∈ operations ∧ message.BringsRelative set) ∧
    (∀ message set, message.BringsRelative set →
      ∃ question, message.question = some question ∧ KeptFromAbove message question set) ∧
    (limits.capacity = 0 → limits.longestPositive ≠ some 0 →
      (∀ operation ∈ operations, operation.2.KeepsLimits) →
      ((∃ part, part <+: operations ∧
          (Operation.run part (Cache.new recordClass limits)).HoldsRelative) ↔
        ∃ now message set, (now, .ingest message) ∈ operations ∧ message.BringsRelative set)) ∧
    (∀ now name type entry set, cache.live? now name (.type type) = some entry →
      entry.data = .positive set → type ≠ .any → ∀ least ≤ entry.credibility,
        ((cache.lookup now name type least).1 = .single set ↔ name.absolute = true) ∧
        (name.absolute = false → ∀ later other otherType least,
          ∀ given ∈ (cache.lookup later other otherType least).1.sets, ¬ given ≈ set)) := by
  intro cache
  have reachable : Reachable cache := (Reachable.new recordClass limits).run operations built
  refine ⟨run_bringsRelative recordClass limits operations built, ?_, ?_, ?_⟩
  · exact fun _ _ brings => keptFromAbove_of_bringsRelative brings
  · intro unbounded keepsSets keeps
    constructor
    · rintro ⟨part, isPart, holds⟩
      obtain ⟨now, message, set, member, brings⟩ := run_bringsRelative recordClass limits part
        (fun operation inside => built operation (isPart.subset inside)) holds
      exact ⟨now, message, set, isPart.subset member, brings⟩
    · rintro ⟨now, message, set, member, brings⟩
      obtain ⟨earlier, later, rfl⟩ := List.append_of_mem member
      have isPart : earlier ++ [(now, .ingest message)] <+: earlier ++ (now, .ingest message) :: later :=
        ⟨later, by rw [List.append_assoc, List.singleton_append]⟩
      have builtEarlier : ∀ operation ∈ earlier, operation.2.Built := fun operation inside =>
        built operation (List.mem_append_left _ inside)
      have kept := Operation.run_limits earlier (Reachable.new recordClass limits) builtEarlier
        fun operation inside => keeps operation (List.mem_append_left _ inside)
      refine ⟨_, isPart, ?_⟩
      rw [Operation.run_concat]
      exact ingest_holdsRelative ((Reachable.new recordClass limits).run earlier builtEarlier)
        (kept ▸ unbounded) (kept ▸ keepsSets) now brings
  · intro now name type entry set alive data single least credible
    have isSet := Entry.set?_eq_some.mpr data
    refine ⟨lookup_eq_single_iff reachable single alive isSet credible, ?_⟩
    intro relative later other otherType least given inside
    exact not_equiv_of_mem_lookup reachable (live?_eq_some_iff.mp alive).1 isSet relative inside

/-- The servers of the zone `w`, whose owner is left relative. -/
def relativeServers : Record :=
  ⟨{ Name.ofOctets [0x77] with absolute := false }, .inet, 300, .ns (Name.ofOctets [0x67])⟩

/-- A response that refers a question for addresses of `w.` to these servers. -/
def relativeReferral : Message :=
  { Message.responseTo (Message.query ⟨Name.ofOctets [0x77], .a, .inet⟩) with
    authority := [relativeServers] }

/-- An address is added under the same labels, and then the referral comes. -/
def referredRun : List (Nat × Operation) :=
  [(1000, .addRecord (Record.address 1 300) .normal), (1001, .ingest relativeReferral)]

/-- All names are absolute until the referral comes. Then there is one that is not, and the address
is still found. -/
theorem referredRun_holdsRelative :
    ¬ (Operation.run (referredRun.take 1) (Cache.new .inet ⟨0, none, 3600⟩)).HoldsRelative ∧
      (∃ part, part <+: referredRun ∧
        (Operation.run part (Cache.new .inet ⟨0, none, 3600⟩)).HoldsRelative) ∧
      ((Operation.run referredRun (Cache.new .inet ⟨0, none, 3600⟩)).lookup 1001
        (Name.ofOctets [0x77]) .a .normal).1 = .single (RRset.ofRecord (Record.address 1 300)) := by
  have built : ∀ operation ∈ referredRun, operation.2.Built := by
    simp [referredRun, Operation.Built]
  obtain ⟨_, _, exactly, found⟩ := relatives_brought_unfound .inet ⟨0, none, 3600⟩ referredRun built
  refine ⟨fun holds => ?_, ?_, ?_⟩
  · obtain ⟨_, _, _, member, _⟩ := (relatives_brought_unfound .inet ⟨0, none, 3600⟩
      (referredRun.take 1) fun operation member => built operation (List.mem_of_mem_take member)).1
      holds
    simp [referredRun] at member
  · refine (exactly rfl (by decide) (by simp [referredRun, Operation.KeepsLimits])).mpr
      ⟨1001, relativeReferral, RRset.ofRecord relativeServers, by simp [referredRun], _,
        .ofSection .authority false, rfl, by decide, ?_, rfl, by decide⟩
    decide +kernel
  · have alive : (Operation.run referredRun (Cache.new .inet ⟨0, none, 3600⟩)).live? 1001
        (Name.ofOctets [0x77]) (.type .a) =
        some ⟨.positive (RRset.ofRecord (Record.address 1 300)), .normal, 1300⟩ := by
      decide +kernel
    exact (found 1001 _ .a _ _ alive rfl (by decide) .normal (Nat.le_refl _)).1.mpr rfl

/-- The servers that the referral brings stand in the cache under the owner they came with. They
are alive and as credible as is asked for, but the lookup of that very name and type finds
nothing. -/
theorem holdsRelative_of_relativeReferral :
    let learned := (Operation.ingest relativeReferral).apply 1000 (Cache.new .inet ⟨0, none, 3600⟩)
    learned.HoldsRelative ∧
      learned.live? 1000 relativeServers.name (.type .ns) =
        some ⟨.positive (RRset.ofRecord relativeServers), .nonAuthAnswer, 1300⟩ ∧
      (learned.lookup 1000 relativeServers.name .ns .nonAuthAnswer).1 = .unknown :=
  ⟨⟨relativeServers.name, by decide +kernel, rfl⟩, by decide +kernel, by decide +kernel⟩

end Cache

end StubResolver
