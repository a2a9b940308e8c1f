/-
This file follows a cache whose responses all come from one source: a fixed assignment of sets to
names and types, such as the zones of the Internet at one moment, without redirections of subtrees.
What can be used in such a cache, at the usual credibility, is either a set of the source or the
fact that there is nothing. A response teaches the sets that its answer section was made use of for,
and it can deny no more than one type at one name, the end of its trail, and only when it has no
answer. Addresses that come along are not credible enough to be used at all.

What is learned is not forgotten at the same second. A set displaces only what is no more credible,
and there the source has the same set again.
-/

import StubResolver.Proofs.Cache.Levels

namespace StubResolver

/-! ### Sources of sets -/

/-- An assignment of sets to names and types: absolute names, lifetimes that are not zero, no
redirections of subtrees, and no other set where there is an alias. -/
structure Zone where
  set? : Name → RecordType → Option RRset
  same : ∀ {name other : Name} (type : RecordType), name ≈ other → set? name type = set? other type
  absolute : ∀ {name type set}, set? name type = some set → set.Absolute
  lasting : ∀ {name type set}, set? name type = some set → ∀ record ∈ set.all, record.ttl ≠ 0
  noRedirection : ∀ name, set? name .dname = none
  alone : ∀ {name type standsFor set}, set? name .cname = some standsFor →
    set? name type = some set → type = .cname

namespace Zone

variable (zone : Zone)

/-- A set is the one that the source has at its owner for its type. -/
def Holds (set : RRset) : Prop := zone.set? set.name set.type = some set

instance (set : RRset) : Decidable (zone.Holds set) :=
  inferInstanceAs (Decidable (zone.set? set.name set.type = some set))

/-- The answer and the authority section of a message are made of sets of the source. The additional
section may hold anything. -/
def Serves (message : Message) : Prop :=
  ∀ part, part = .answer ∨ part = .authority → ∀ set ∈ message.sets part, zone.Holds set

variable {zone}

theorem Holds.at {set : RRset} (held : zone.Holds set) {name : Name} (owner : set.name ≈ name) :
    zone.set? name set.type = some set := (zone.same set.type owner).symm.trans held

/-- Two sets of the source of one type at one name are one. -/
theorem Holds.unique {first second : RRset} (held : zone.Holds first) (other : zone.Holds second)
    (owner : first.name ≈ second.name) (type : first.type = second.type) : first = second := by
  have found := held.at owner
  rw [type, other] at found
  exact (Option.some_inj.mp found).symm

/-- The source that has some sets and no others. -/
def ofSets (sets : List RRset) (absolute : ∀ set ∈ sets, set.Absolute)
    (lasting : ∀ set ∈ sets, ∀ record ∈ set.all, record.ttl ≠ 0)
    (noRedirection : ∀ set ∈ sets, set.type ≠ .dname)
    (alone : ∀ standsFor ∈ sets, ∀ set ∈ sets, standsFor.type = .cname →
      standsFor.name ≈ set.name → set.type = .cname) : Zone where
  set? name type := sets.find? fun set => set.name ≈ name ∧ set.type = type
  same := by
    intro name other type same
    refine congrArg (sets.find? ·) (funext fun set => decide_eq_decide.mpr (and_congr_left' ?_))
    exact ⟨fun owner => Setoid.trans owner same, fun owner => Setoid.trans owner (Setoid.symm same)⟩
  absolute := fun found => absolute _ (List.mem_of_find?_eq_some found)
  lasting := fun found => lasting _ (List.mem_of_find?_eq_some found)
  noRedirection := by
    intro name
    rw [List.find?_eq_none]
    intro set member isDname
    exact noRedirection set member (of_decide_eq_true isDname).2
  alone := by
    intro name type standsFor set foundAlias found
    have wanted := List.find?_some found
    have wantedAlias := List.find?_some foundAlias
    obtain ⟨owner, isCname⟩ := of_decide_eq_true wantedAlias
    obtain ⟨sameOwner, isType⟩ := of_decide_eq_true wanted
    rw [← isType]
    exact alone standsFor (List.mem_of_find?_eq_some foundAlias) set
      (List.mem_of_find?_eq_some found) isCname (Setoid.trans owner (Setoid.symm sameOwner))

theorem Holds.ttl_ne_zero {set : RRset} (held : zone.Holds set) (coherent : set.Coherent) :
    set.ttl ≠ 0 := by
  obtain ⟨record, member, same⟩ := RRset.exists_ttl_eq coherent.filled
  rw [same]
  exact zone.lasting held record member

theorem Serves.inClass {message : Message} (served : zone.Serves message) {part : Section}
    (matters : part = .answer ∨ part = .authority) {recordClass : RecordClass} {set : RRset}
    (member : set ∈ Cache.setsInClass message part recordClass) :
    zone.Holds set ∧ set.Coherent :=
  have present := (Cache.mem_setsInClass member).2
  ⟨served part matters set present, message.sets_coherent part set present⟩

end Zone

namespace Cache

/-! ### What can be used after a write -/

variable {now : Nat} {least credibility : Credibility} {before after cache : Cache} {name : Name}
  {key : EntryKey}

theorem usable?_congr (cache : Cache) {other : Name} (same : name ≈ other) :
    cache.usable? now least name = cache.usable? now least other := by
  funext key
  unfold usable?
  rw [live?_congr cache same]

/-- What can be used where an addition was made: what stood there, if it outranks the addition, or
else what was added. -/
theorem usable?_of_settled (least : Credibility) {fresh : Option Entry}
    (unbounded : before.limits.capacity = 0)
    (settles : Settles before after name key
      (settled (before.live? now name key) fresh credibility)) :
    (∃ standing, before.live? now name key = some standing ∧ credibility < standing.credibility ∧
        after.usable? now least name key = before.usable? now least name key) ∨
      (∀ standing, before.live? now name key = some standing →
          ¬ credibility < standing.credibility) ∧
        after.usable? now least name key =
          (fresh.filter fun entry => !entry.isExpired now).filter fun entry =>
            least ≤ entry.credibility := by
  have there : after.live? now name key =
      (settled (before.live? now name key) fresh credibility).filter fun entry =>
        !entry.isExpired now := by
    rw [settles.live? unbounded, if_pos ⟨Setoid.refl name, rfl⟩]
  unfold usable? settled at *
  cases stands : before.live? now name key with
  | none =>
    rw [stands, Option.filter_none, Option.none_or] at there
    rw [there]
    exact Or.inr ⟨nofun, rfl⟩
  | some standing =>
    rw [stands, Option.filter_some] at there
    by_cases outranks : credibility < standing.credibility
    · have alive := (live?_eq_some_iff.mp stands).2
      rw [decide_eq_true outranks, if_pos rfl, Option.some_or, Option.filter_some, alive,
        Bool.not_false, if_pos rfl] at there
      rw [there]
      exact Or.inl ⟨standing, rfl, outranks, rfl⟩
    · rw [decide_eq_false outranks, if_neg Bool.false_ne_true, Option.none_or] at there
      rw [there]
      refine Or.inr ⟨fun other same => ?_, rfl⟩
      cases same
      exact outranks

theorem usable?_elsewhere {result : Option Entry} (unbounded : before.limits.capacity = 0)
    (settles : Settles before after name key result) {other : Name} {otherKey : EntryKey}
    (apart : ¬ (name ≈ other ∧ key = otherKey)) :
    after.usable? now least other otherKey = before.usable? now least other otherKey := by
  unfold usable?
  rw [settles.live? unbounded, if_neg apart]

/-- A write of no use to those who ask with a greater credibility changes nothing for them. -/
theorem usable?_of_settled_weak {fresh : Option Entry} (unbounded : before.limits.capacity = 0)
    (weak : credibility < least) (carried : ∀ entry ∈ fresh, entry.credibility = credibility)
    (settles : Settles before after name key
      (settled (before.live? now name key) fresh credibility)) :
    after.usable? now least = before.usable? now least := by
  funext other otherKey
  by_cases there : name ≈ other ∧ key = otherKey
  · obtain ⟨same, rfl⟩ := there
    rw [← usable?_congr after same, ← usable?_congr before same]
    rcases usable?_of_settled least unbounded settles with ⟨_, _, _, unchanged⟩ | ⟨no, new⟩
    · exact unchanged
    · have nothing : before.usable? now least name key = none := by
        refine Option.filter_eq_none_iff.mpr fun standing stands => ?_
        have notAbove := Credibility.not_lt.mp (no standing stands)
        rw [decide_eq_true_eq]
        exact Credibility.not_le.mpr (Nat.lt_of_le_of_lt notAbove weak)
      have nothingNew : ((fresh.filter fun entry => !entry.isExpired now).filter fun entry =>
          least ≤ entry.credibility) = none := by
        refine Option.filter_eq_none_iff.mpr fun entry isFresh => ?_
        have isCarried := carried entry (Option.filter_eq_some_iff.mp isFresh).1
        rw [decide_eq_true_eq, isCarried]
        exact Credibility.not_le.mpr weak
      rw [new, nothing, nothingNew]
  · exact usable?_elsewhere unbounded settles there

/-! ### Caches that are consistent with a source -/

/-- A cache with room for all names, which keeps sets, and in which whatever can be used with the
usual credibility agrees with the source. It says that there is nothing only where `deniable` allows
it. -/
structure Consistent (zone : Zone) (now : Nat) (deniable : Name → RecordType → Prop)
    (cache : Cache) : Prop where
  reachable : Reachable cache
  unbounded : cache.limits.capacity = 0
  keepsSets : cache.limits.longestPositive ≠ some 0
  agrees : ∀ name type entry, cache.usable? now .normal name (.type type) = some entry →
    (∃ set, entry.set? = some set ∧ zone.set? name type = some set) ∨
      entry.set? = none ∧ deniable name type

/-- A consistent cache that denies no type anywhere. -/
abbrev Clean (zone : Zone) (now : Nat) (cache : Cache) : Prop :=
  Consistent zone now (fun _ _ => False) cache

/-- A cache that is empty, and has room for all that it will learn. -/
structure Fresh (cache : Cache) : Prop where
  reachable : Reachable cache
  empty : cache.shelf = []
  unbounded : cache.limits.capacity = 0
  keepsSets : cache.limits.longestPositive ≠ some 0

/-- Nothing disagrees with a source in a cache that is empty. -/
theorem Fresh.clean (fresh : cache.Fresh) (zone : Zone) (now : Nat) : Clean zone now cache where
  reachable := fresh.reachable
  unbounded := fresh.unbounded
  keepsSets := fresh.keepsSets
  agrees := by
    intro name type entry found
    unfold usable? live? entryAt? at found
    rw [fresh.empty] at found
    cases found

/-- Something can be used for a type at a name. -/
def Knows (cache : Cache) (now : Nat) (name : Name) (type : RecordType) : Prop :=
  (cache.usable? now .normal name (.type type)).isSome

/-- A cache that has come to know more. Only where `deniable` allows it, something may have been
forgotten. -/
structure Learns (zone : Zone) (now : Nat) (deniable : Name → RecordType → Prop)
    (before after : Cache) : Prop where
  consistent : Consistent zone now deniable after
  keeps : ∀ name type, ¬ deniable name type → before.Knows now name type → after.Knows now name type

variable {zone : Zone} {deniable : Name → RecordType → Prop}

theorem Learns.trans {middle : Cache} (one : Learns zone now deniable before middle)
    (two : Learns zone now deniable middle after) : Learns zone now deniable before after :=
  ⟨two.consistent, fun name type certain known => two.keeps name type certain
    (one.keeps name type certain known)⟩

theorem Learns.refl (consistent : Consistent zone now deniable cache) :
    Learns zone now deniable cache cache :=
  ⟨consistent, fun _ _ _ known => known⟩

theorem Consistent.mono {weaker : Name → RecordType → Prop}
    (consistent : Consistent zone now deniable cache)
    (allows : ∀ name type, deniable name type → weaker name type) :
    Consistent zone now weaker cache where
  reachable := consistent.reachable
  unbounded := consistent.unbounded
  keepsSets := consistent.keepsSets
  agrees := fun name type entry found =>
    (consistent.agrees name type entry found).imp_right (And.imp_right (allows name type))

/-- A cache in which the same can be used agrees with the source as well. -/
theorem Consistent.of_usable (consistent : Consistent zone now deniable before)
    (reachable : Reachable after) (limits : after.limits = before.limits)
    (usable : after.usable? now .normal = before.usable? now .normal) :
    Learns zone now deniable before after := by
  refine ⟨⟨reachable, limits ▸ consistent.unbounded, limits ▸ consistent.keepsSets, ?_⟩, ?_⟩
  · rw [usable]
    exact consistent.agrees
  · unfold Knows
    rw [usable]
    exact fun _ _ _ known => known

/-! ### What one write does -/

/-- A lifetime that is not zero ends later, unless the clock has come to its end. -/
theorem lt_expiryAfter (inTime : now < lastSecond) {lifetime : UInt32} (lasts : lifetime ≠ 0) :
    now < expiryAfter now lifetime := by
  have notZero : lifetime.toNat ≠ 0 := fun zero => lasts (UInt32.toNat_inj.mp zero)
  unfold expiryAfter
  omega

/-- The shorter of two lifetimes is one of them. -/
theorem min_ne_zero {first second : UInt32} (firstLasts : first ≠ 0) (secondLasts : second ≠ 0) :
    min first second ≠ 0 := by
  rcases Std.min_eq_or (a := first) (b := second) with same | same
  · rwa [same]
  · rwa [same]

/-- A set whose lifetime is not zero has not expired when it is added, unless the clock has come to
its end. -/
theorem ofSet_alive {set : RRset} (inTime : now < lastSecond) (lasts : set.ttl ≠ 0)
    {longest : Option UInt32} (keeps : longest ≠ some 0) (credibility : Credibility) :
    (Entry.ofSet set credibility now longest).isExpired now = false := by
  refine decide_eq_false (Nat.not_le.mpr (lt_expiryAfter inTime ?_))
  cases longest with
  | none => exact lasts
  | some bound => exact min_ne_zero lasts fun zero => keeps (congrArg some zero)

/-- Nor has an absence that may be remembered. -/
theorem ofAbsence_alive {lifetime longest : UInt32} (inTime : now < lastSecond)
    (lasts : lifetime ≠ 0) (keeps : longest ≠ 0) (credibility : Credibility) :
    (Entry.ofAbsence lifetime credibility now longest).isExpired now = false :=
  decide_eq_false (Nat.not_le.mpr (lt_expiryAfter inTime (min_ne_zero lasts keeps)))

namespace Consistent

/-- A write leaves a cache consistent, if what it leaves in its place was there before, or agrees
with the source. -/
theorem settles (consistent : Consistent zone now deniable before) (reachable : Reachable after)
    {result : Option Entry} (settles : Settles before after name key result)
    (agrees : ∀ other type entry, name ≈ other → key = .type type →
      after.usable? now .normal other (.type type) = some entry →
      before.usable? now .normal other (.type type) = some entry ∨
        (∃ set, entry.set? = some set ∧ zone.set? other type = some set) ∨
        entry.set? = none ∧ deniable other type)
    (keeps : ∀ other type, name ≈ other → key = .type type → ¬ deniable other type →
      before.Knows now other type → after.Knows now other type) :
    Learns zone now deniable before after := by
  have elsewhere (other : Name) (type : RecordType) (apart : ¬ (name ≈ other ∧ key = .type type)) :
      after.usable? now .normal other (.type type) =
        before.usable? now .normal other (.type type) :=
    usable?_elsewhere consistent.unbounded settles apart
  refine ⟨⟨reachable, settles.limits ▸ consistent.unbounded, settles.limits ▸ consistent.keepsSets,
    fun other type entry found => ?_⟩, fun other type certain known => ?_⟩
  · by_cases there : name ≈ other ∧ key = .type type
    · rcases agrees other type entry there.1 there.2 found with old | new
      · exact consistent.agrees other type entry old
      · exact new
    · rw [elsewhere other type there] at found
      exact consistent.agrees other type entry found
  · by_cases there : name ≈ other ∧ key = .type type
    · exact keeps other type there.1 there.2 certain known
    · unfold Knows
      rw [elsewhere other type there]
      exact known

/-- Where a set of the source was added, it can be used, or else what could be used before. -/
theorem usable?_storeSet (consistent : Consistent zone now deniable before)
    (inTime : now < lastSecond) {set : RRset} (held : zone.Holds set) (coherent : set.Coherent)
    (credible : .normal ≤ credibility) :
    let found := (before.storeSet now set credibility).usable? now .normal set.name (.type set.type)
    (∃ standing, found = some standing ∧
        before.usable? now .normal set.name (.type set.type) = some standing) ∨
      found = some (Entry.ofSet set credibility now before.limits.longestPositive) := by
  intro found
  have settles := storeSet_settles consistent.reachable.tidy now set credibility
  have fresh : entryOfSet? before.limits now set credibility =
      some (Entry.ofSet set credibility now before.limits.longestPositive) :=
    if_neg (not_or.mpr ⟨held.ttl_ne_zero coherent, consistent.keepsSets⟩)
  have alive :=
    ofSet_alive inTime (held.ttl_ne_zero coherent) consistent.keepsSets credibility
  have isCredible : .normal ≤
      (Entry.ofSet set credibility now before.limits.longestPositive).credibility := credible
  rw [fresh] at settles
  rcases usable?_of_settled .normal consistent.unbounded settles with
    ⟨standing, stands, outranks, unchanged⟩ | ⟨_, new⟩
  · have standsCredibly : .normal ≤ standing.credibility :=
      Nat.le_trans credible (Nat.le_of_lt outranks)
    have usable : before.usable? now .normal set.name (.type set.type) = some standing := by
      rw [usable?, stands, Option.filter_some, decide_eq_true standsCredibly, if_pos rfl]
    exact Or.inl ⟨standing, unchanged.trans usable, usable⟩
  · rw [Option.filter_some, alive, Bool.not_false, if_pos rfl, Option.filter_some,
      decide_eq_true isCredible, if_pos rfl] at new
    exact Or.inr new

/-- A set of the source is learned. -/
theorem storeSet (consistent : Consistent zone now deniable before) (inTime : now < lastSecond)
    {set : RRset} (held : zone.Holds set) (coherent : set.Coherent)
    (credible : .normal ≤ credibility) :
    Learns zone now deniable before (before.storeSet now set credibility) ∧
      (before.storeSet now set credibility).Knows now set.name set.type := by
  have settles := storeSet_settles consistent.reachable.tidy now set credibility
  have reachable := consistent.reachable.step now (.storeSet set credibility) coherent
  have there := consistent.usable?_storeSet inTime held coherent credible
  have known : (before.storeSet now set credibility).Knows now set.name set.type := by
    unfold Knows
    rcases there with ⟨standing, found, _⟩ | found <;> rw [found] <;> rfl
  refine ⟨consistent.settles reachable settles ?_ ?_, known⟩
  · intro other type entry same isType usable
    cases EntryKey.type.inj isType
    rw [← usable?_congr _ same] at usable
    rcases there with ⟨standing, found, old⟩ | found
    · rw [← usable?_congr _ same, old, ← found]
      exact Or.inl usable
    · cases usable.symm.trans found
      exact Or.inr (Or.inl ⟨set, rfl, held.at same⟩)
  · intro other type same isType _ _
    cases EntryKey.type.inj isType
    unfold Knows
    rw [← usable?_congr _ same]
    exact known

/-- What is not credible enough to be used changes nothing. -/
theorem storeAddress (consistent : Consistent zone now deniable before) {set : RRset}
    (coherent : set.Coherent) (weak : credibility < .normal) :
    Learns zone now deniable before (before.storeSet now set credibility) := by
  have settles := storeSet_settles consistent.reachable.tidy now set credibility
  refine consistent.of_usable (consistent.reachable.step now (.storeSet set credibility) coherent)
    settles.limits (usable?_of_settled_weak consistent.unbounded weak ?_ settles)
  intro entry isFresh
  rw [entryOfSet?_eq_some isFresh]
  rfl

/-- An absence is learned where `deniable` allows it. -/
theorem storeAbsence (consistent : Consistent zone now deniable before) (name : Name)
    (key : EntryKey) (zoneStart : Option Record) (credibility : Credibility)
    (allowed : ∀ type other, key = .type type → name ≈ other → deniable other type) :
    Learns zone now deniable before
      (before.storeAbsence now name key zoneStart credibility) := by
  have settles := storeAbsence_settles consistent.reachable.tidy now name key zoneStart credibility
  have reachable :=
    consistent.reachable.step now (.storeAbsence name key zoneStart credibility) trivial
  have there := usable?_of_settled .normal consistent.unbounded settles
  refine consistent.settles reachable settles ?_ ?_
  · intro other type entry same isType found
    rw [← usable?_congr _ same, ← isType] at found
    rcases there with ⟨_, _, _, unchanged⟩ | ⟨_, new⟩
    · rw [← usable?_congr before same, ← isType, ← unchanged]
      exact Or.inl found
    · have isNew := found.symm.trans new
      have isFresh := (Option.filter_eq_some_iff.mp (Option.filter_eq_some_iff.mp isNew.symm).1).1
      refine Or.inr (Or.inr ⟨?_, allowed type other isType same⟩)
      unfold Entry.set?
      rw [entryOfAbsence?_eq_some isFresh]
  · exact fun other type same isType certain _ => absurd (allowed type other isType same) certain

end Consistent

/-! ### What a response teaches -/

/-- The one place where a response may deny a type: the end of a trail without an answer. -/
def Trail.Deniable (trail : Trail) (question : Question) (name : Name) (type : RecordType) : Prop :=
  trail.finals = [] ∧ trail.current ≈ name ∧ type = question.type

theorem normal_le_ofSection (authoritative : Bool) :
    .normal ≤ Credibility.ofSection .answer authoritative ∧
      .normal ≤ Credibility.ofSection .authority authoritative := by
  cases authoritative <;> decide

variable {message : Message} {question : Question} {trail : Trail}

/-- Whatever is kept of a response agrees with the source, and what is credible enough is learned.
-/
theorem Write.Stems.learns {write : Write} (stems : write.Stems message question trail)
    (within : trail.Within (setsInClass message .answer question.recordClass) question.type)
    (served : zone.Serves message) (inTime : now < lastSecond)
    (consistent : Consistent zone now (trail.Deniable question) before) :
    Learns zone now (trail.Deniable question) before (before.write now write) ∧
      ∀ set ∈ write.set?, .normal ≤ write.credibility →
        (before.write now write).Knows now set.name set.type := by
  obtain ⟨answerCredible, authorityCredible⟩ := normal_le_ofSection message.authoritative
  cases stems with
  | answer set part =>
    have present : set ∈ setsInClass message .answer question.recordClass := by
      rcases List.mem_append.mp part with used | final
      · exact within.used set used
      · exact (within.finals set final).1
    obtain ⟨held, coherent⟩ := served.inClass (Or.inl rfl) present
    obtain ⟨learns, known⟩ := consistent.storeSet inTime held coherent answerCredible
    refine ⟨learns, fun other isSet _ => ?_⟩
    cases isSet
    exact known
  | servers set chosen =>
    obtain ⟨held, coherent⟩ := served.inClass (Or.inr rfl) (covering?_eq_some chosen).1
    obtain ⟨learns, known⟩ := consistent.storeSet inTime held coherent authorityCredible
    refine ⟨learns, fun other isSet _ => ?_⟩
    cases isSet
    exact known
  | absence key zoneStart incomplete about =>
    refine ⟨consistent.storeAbsence _ key zoneStart _ fun type other isType same => ?_, nofun⟩
    rcases about with isName | asked
    · cases isType.symm.trans isName
    · exact ⟨incomplete, same, EntryKey.type.inj (isType.symm.trans asked)⟩
  | address set naming host present addresses points named same =>
    have coherent := message.sets_coherent .additional set (mem_setsInClass present).2
    have weak : Credibility.ofSection .additional message.authoritative < .normal := by
      cases message.authoritative <;> decide
    refine ⟨consistent.storeAddress coherent weak, fun other isSet credible => ?_⟩
    exact absurd credible (Credibility.not_le.mpr weak)

/-- What several writes teach, each kept for a reason. -/
theorem writeAll_learns (writes : List Write)
    (stems : ∀ write ∈ writes, write.Stems message question trail)
    (within : trail.Within (setsInClass message .answer question.recordClass) question.type)
    (served : zone.Serves message) (inTime : now < lastSecond)
    (consistent : Consistent zone now (trail.Deniable question) before) :
    Learns zone now (trail.Deniable question) before (before.writeAll now writes) ∧
      ∀ write ∈ writes, ∀ set ∈ write.set?, .normal ≤ write.credibility →
        ¬ trail.Deniable question set.name set.type →
        (before.writeAll now writes).Knows now set.name set.type := by
  induction writes generalizing before with
  | nil => exact ⟨Learns.refl consistent, fun _ none => absurd none List.not_mem_nil⟩
  | cons write rest inductionHypothesis =>
    obtain ⟨first, known⟩ :=
      (stems write List.mem_cons_self).learns within served inTime consistent
    obtain ⟨others, knownToo⟩ := inductionHypothesis
      (fun other later => stems other (List.mem_cons_of_mem _ later)) first.consistent
    refine ⟨first.trans others, fun other member set isSet credible certain => ?_⟩
    rcases List.mem_cons.mp member with rfl | later
    · exact others.keeps _ _ certain (known set isSet credible)
    · exact knownToo other later set isSet credible certain

/-- What a response of the source teaches a cache that denies nothing: the sets that the trail has
made use of, and those that it ends at. -/
theorem Clean.ingest (clean : Clean zone now before) (served : zone.Serves message)
    (inTime : now < lastSecond) (asked : message.question = some question)
    (useful : message.result.isCacheable = true) :
    let trail := trailThrough message question
    let (reported, after) := before.ingestResponse now message
    reported = some (digestFor message question).ingested ∧
      Learns zone now (trail.Deniable question) before after ∧
      ∀ set ∈ trail.used ++ trail.finals, ¬ trail.Deniable question set.name set.type →
        after.Knows now set.name set.type := by
  intro trail
  have ingested : before.ingestResponse now message =
      (some (digestFor message question).ingested,
        before.writeAll now (digestFor message question).writes) := by
    unfold ingestResponse digest?
    rw [asked]
    dsimp only
    rw [if_pos useful]
  have start : Consistent zone now (trail.Deniable question) before :=
    clean.mono fun _ _ never => never.elim
  obtain ⟨learns, known⟩ := writeAll_learns _ (digestFor_stems message question)
    (trailOf_within question _) served inTime start
  rw [ingested]
  refine ⟨rfl, learns, fun set part certain => ?_⟩
  refine known (.set set (.ofSection .answer message.authoritative)) ?_ set rfl
    (normal_le_ofSection message.authoritative).1 certain
  exact List.mem_append_left _ (List.mem_append_left _ (List.mem_map_of_mem part))

/-! ### What a consistent cache answers -/

/-- A set can be used for a type at a name. -/
def HasSet (cache : Cache) (now : Nat) (name : Name) (type : RecordType) (set : RRset) : Prop :=
  (cache.usable? now .normal name).set? type = some set

variable {type : RecordType} {set : RRset}

theorem HasSet.congr {other : Name} (same : name ≈ other) (has : cache.HasSet now name type set) :
    cache.HasSet now other type set := by
  unfold HasSet
  rw [← usable?_congr cache same]
  exact has

/-- What can be used stays so wherever the same can be used. -/
theorem HasSet.of_usable (has : before.HasSet now name type set)
    (same : after.usable? now .normal = before.usable? now .normal) :
    after.HasSet now name type set := by
  unfold HasSet
  rw [same]
  exact has

theorem HasSet.unique {other : RRset} (has : cache.HasSet now name type set)
    (hasToo : cache.HasSet now name type other) : set = other :=
  Option.some_inj.mp (has.symm.trans hasToo)

theorem HasSet.knows (has : cache.HasSet now name type set) : cache.Knows now name type := by
  obtain ⟨entry, found, _⟩ := Option.bind_eq_some_iff.mp has
  unfold Knows
  rw [found]
  rfl

theorem Consistent.held (consistent : Consistent zone now deniable cache)
    (has : cache.HasSet now name type set) : zone.set? name type = some set := by
  obtain ⟨entry, found, isSet⟩ := Option.bind_eq_some_iff.mp has
  rcases consistent.agrees name type entry found with ⟨other, isOther, held⟩ | ⟨isNone, _⟩
  · cases isSet.symm.trans isOther
    exact held
  · cases isSet.symm.trans isNone

theorem Consistent.has (consistent : Consistent zone now deniable cache)
    (certain : ¬ deniable name type) (knows : cache.Knows now name type)
    (held : zone.set? name type = some set) : cache.HasSet now name type set := by
  obtain ⟨entry, found⟩ := Option.isSome_iff_exists.mp knows
  rcases consistent.agrees name type entry found with ⟨other, isOther, heldToo⟩ | ⟨_, allowed⟩
  · cases held.symm.trans heldToo
    exact Option.bind_eq_some_iff.mpr ⟨entry, found, isOther⟩
  · exact absurd allowed certain

/-- A set that can be used can still be used after more has been learned. -/
theorem Learns.has (learns : Learns zone now deniable before after)
    {atFirst : Name → RecordType → Prop} (consistent : Consistent zone now atFirst before)
    (certain : ¬ deniable name type) (has : before.HasSet now name type set) :
    after.HasSet now name type set :=
  learns.consistent.has certain (learns.keeps name type certain has.knows) (consistent.held has)

/-- A lookup leaves a cache consistent, and in it the same can be used. -/
theorem Consistent.lookup (consistent : Consistent zone now deniable cache) (name : Name)
    (type : RecordType) (least : Credibility) :
    Consistent zone now deniable (cache.lookup now name type least).2 ∧
      (cache.lookup now name type least).2.usable? now .normal = cache.usable? now .normal := by
  have visits := (lookup_eq consistent.reachable.tidy consistent.reachable.inPlace now name type
    least).2
  have usable := visits.usable? .normal
  exact ⟨(consistent.of_usable (consistent.reachable.step now (.lookup name type least) trivial)
    visits.limits usable).consistent, usable⟩

/-- Without redirections, what is above a name has neither records nor an alias to give. -/
theorem ancestors_leadNowhere {view : Name → Level} (names : List Name)
    (plain : ∀ level ∈ names, (view level).set? .dname = none) :
    (decision (ancestorVerdicts view names)).LeadsNowhere := by
  induction names with
  | nil => exact trivial
  | cons level rest inductionHypothesis =>
    have notRedirected : (view level).redirects? = none :=
      Option.map_eq_none_iff.mpr (plain level List.mem_cons_self)
    have others := inductionHypothesis fun other later => plain other (List.mem_cons_of_mem _ later)
    unfold ancestorVerdicts decision firstToSpeak Level.ancestorRules Level.delegates? at *
    rw [List.map_cons, List.map_cons, notRedirected]
    cases (view level).set? .ns with
    | some servers => exact trivial
    | none => exact others

/-- The answer to a question for one type is what is known about it, or else the alias of the name;
otherwise it leads nowhere. -/
theorem Consistent.lookup_cases (consistent : Consistent zone now deniable cache)
    (absolute : name.absolute = true) (single : type ≠ .any) :
    let outcome := (cache.lookup now name type .normal).1
    (∃ entry, cache.usable? now .normal name (.type type) = some entry ∧
        outcome = (entry.set?.map .single).getD .nxRRset) ∨
      cache.usable? now .normal name (.type type) = none ∧
        ((∃ set, cache.HasSet now name .cname set ∧ outcome = .cname set) ∨
          (∀ set, ¬ cache.HasSet now name .cname set) ∧ outcome.LeadsNowhere) := by
  have plain (level : Name) : (cache.usable? now .normal level).set? .dname = none := by
    cases found : (cache.usable? now .normal level).set? .dname with
    | none => rfl
    | some set => cases (zone.noRedirection level).symm.trans (consistent.held found)
  have above := ancestors_leadNowhere (shortened name name.labelCount) fun level _ => plain level
  have outcome := (lookup_eq consistent.reachable.tidy consistent.reachable.inPlace now name type
    .normal).1
  rw [Name.toAbsolute_of_absolute _ absolute] at outcome
  rw [outcome]
  unfold verdicts Level.exactRules HasSet
  rw [if_neg single]
  generalize cache.usable? now .normal = view at above
  cases known : view name (.type type) with
  | some entry =>
    refine Or.inl ⟨entry, rfl, ?_⟩
    unfold Level.answer?
    rw [known]
    rfl
  | none =>
    have silent : (view name).answer? type = none := Option.map_eq_none_iff.mpr known
    refine Or.inr ⟨rfl, ?_⟩
    rw [silent]
    unfold Level.standsFor?
    cases standsFor : (view name).set? .cname with
    | some set => exact Or.inl ⟨set, rfl, rfl⟩
    | none =>
      refine Or.inr ⟨nofun, ?_⟩
      unfold Level.delegates? Level.denies?
      cases (view name).set? .ns with
      | some servers => exact trivial
      | none =>
        cases view name .name with
        | some absence => exact trivial
        | none => exact above

end Cache

end StubResolver
