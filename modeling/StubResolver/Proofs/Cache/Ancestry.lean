/-
This file says which names a lookup climbs through. From the name asked for, a search goes up to the
root, and the names that it can come to are those that the name ends in, the longest first and each
of them once.

How many there are is taken from the number of labels, and that leaves a wildcard at the front out.
The climb from a name with a wildcard is therefore one step short. The step that is missing is the
first: the name right above is passed over, so what is known of the zone that the wildcard stands in
is not found if the zone begins there.
-/

import StubResolver.Proofs.Cache.Levels
import StubResolver.Proofs.Name.Suffixes

namespace StubResolver

namespace Cache

/-! ### The climb -/

/-- The names that a search visits if none of them has anything to say: the name itself, and those
above it. -/
def climb (name : Name) : List Name := name :: ancestorsOf name

theorem length_labels_ancestor {name : Name} {count : Nat} (fewer : count < name.labelCount) :
    (name.suffix count).toAbsolute.labels.length = count := by
  have counted := name.labelCount_add
  rw [Name.toAbsolute_labels, Name.labels_suffix (by omega), List.length_drop]
  omega

/-- The longer of two names is visited first, and no two have the same length. -/
theorem climb_descends (name : Name) :
    (climb name).Pairwise fun nearer farther => farther.labels.length < nearer.labels.length := by
  refine List.pairwise_cons.mpr ⟨fun above member => ?_, ?_⟩
  · obtain ⟨count, fewer, rfl⟩ := List.mem_map.mp member
    rw [List.mem_reverse, List.mem_range] at fewer
    exact Name.length_suffix_lt fewer
  · rw [ancestorsOf, List.pairwise_map, List.pairwise_reverse]
    refine List.pairwise_lt_range.imp_of_mem fun {fewer more} fewerIn moreIn less => ?_
    rw [List.mem_range] at fewerIn moreIn
    rw [length_labels_ancestor fewerIn, length_labels_ancestor moreIn]
    exact less

theorem absolute_of_mem_climb {name level : Name} (absolute : name.absolute = true)
    (member : level ∈ climb name) : level.absolute = true := by
  obtain rfl | above := List.mem_cons.mp member
  · exact absolute
  · obtain ⟨count, _, rfl⟩ := List.mem_map.mp above
    rfl

/-- A name with a wildcard at the front whose parent is another. -/
def PassesOver (name level : Name) : Prop :=
  name.startsWild = true ∧ level.labels.length + 1 = name.labels.length

instance (name level : Name) : Decidable (PassesOver name level) :=
  inferInstanceAs (Decidable (_ ∧ _))

/-- The lengths that the names of the climb have are those that are counted, and that of the name
itself. A wildcard takes away the one in between. -/
theorem count_reached_iff {name level : Name} (bounded : level.labels.length ≤ name.labels.length) :
    level.labels.length = name.labels.length ∨ level.labels.length < name.labelCount ↔
      ¬ PassesOver name level := by
  have counted := name.labelCount_add
  unfold PassesOver
  cases wild : name.startsWild <;> rw [wild] at counted <;> simp at counted ⊢ <;> omega

/-- The climb from an absolute name reaches the names that it ends in, but for the one right above
a wildcard. -/
theorem mem_climb_iff {name level : Name} (absolute : name.absolute = true)
    (levelAbsolute : level.absolute = true) :
    (∃ met ∈ climb name, met ≈ level) ↔ name.EndsIn level ∧ ¬ PassesOver name level := by
  rw [Name.endsIn_iff_drop]
  constructor
  · rintro ⟨met, member, same⟩
    have sameLength := Name.length_labels_of_equiv same
    rw [Name.equiv_iff_labels (absolute_of_mem_climb absolute member) levelAbsolute] at same
    obtain rfl | above := List.mem_cons.mp member
    · rw [← sameLength, Nat.sub_self, List.drop_zero]
      exact ⟨⟨Nat.le_refl _, same⟩,
        (count_reached_iff (Nat.le_of_eq sameLength.symm)).mp (.inl sameLength.symm)⟩
    · obtain ⟨count, fewer, rfl⟩ := List.mem_map.mp above
      rw [List.mem_reverse, List.mem_range] at fewer
      have bounded := Name.length_suffix_lt fewer
      rw [length_labels_ancestor fewer] at sameLength
      rw [Name.toAbsolute_labels, Name.labels_suffix (by have := name.labelCount_add; omega)]
        at same
      subst sameLength
      have shorter : level.labels.length ≤ name.labels.length := by
        have := name.labelCount_add
        omega
      exact ⟨⟨shorter, same⟩, (count_reached_iff shorter).mp (.inr fewer)⟩
  · rintro ⟨⟨bounded, rightmost⟩, reached⟩
    obtain whole | fewer := (count_reached_iff bounded).mpr reached
    · refine ⟨name, List.mem_cons_self, (Name.equiv_iff_labels absolute levelAbsolute).mpr ?_⟩
      rw [whole, Nat.sub_self, List.drop_zero] at rightmost
      exact rightmost
    · refine ⟨_, List.mem_cons_of_mem _ (List.mem_map.mpr
        ⟨level.labels.length, List.mem_reverse.mpr (List.mem_range.mpr fewer), rfl⟩), ?_⟩
      rw [Name.equiv_iff_labels rfl levelAbsolute, Name.toAbsolute_labels,
        Name.labels_suffix bounded]
      exact rightmost

/-- The name right above a wildcard. -/
theorem exists_passesOver {name : Name} (wild : name.startsWild = true) :
    ∃ level : Name, level.absolute = true ∧ name.EndsIn level ∧ PassesOver name level := by
  have counted := name.labelCount_add
  rw [wild, Bool.toNat_true] at counted
  have length : (name.suffix name.labelCount).labels.length = name.labelCount := by
    rw [Name.labels_suffix (by omega), List.length_drop]
    omega
  refine ⟨(name.suffix name.labelCount).toAbsolute, rfl, ?_, wild, ?_⟩
  · rw [Name.endsIn_iff_drop, Name.toAbsolute_labels, length, Name.labels_suffix (by omega)]
    exact ⟨by omega, rfl⟩
  · rw [Name.toAbsolute_labels, length]
    exact counted

/-- The climb reaches all names that a name ends in if the name does not begin with a wildcard. -/
theorem climb_complete_iff {name : Name} (absolute : name.absolute = true) :
    (∀ level : Name, level.absolute = true →
        ((∃ met ∈ climb name, met ≈ level) ↔ name.EndsIn level)) ↔ name.startsWild = false := by
  constructor
  · intro complete
    refine Bool.eq_false_iff.mpr fun wild => ?_
    obtain ⟨level, levelAbsolute, ends, passed⟩ := exists_passesOver wild
    have reached := (complete level levelAbsolute).mpr ends
    exact ((mem_climb_iff absolute levelAbsolute).mp reached).2 passed
  · intro plain level levelAbsolute
    rw [mem_climb_iff absolute levelAbsolute]
    refine and_iff_left fun passed => ?_
    rw [passed.1] at plain
    cases plain

/-! ### How far a search climbs -/

/-- A search visits the beginning of the levels. -/
theorem visited_prefix (levels : List (Name × Option Outcome)) :
    visited levels <+: levels.map Prod.fst := by
  induction levels with
  | nil => exact List.prefix_rfl
  | cons level rest inductionHypothesis =>
    obtain ⟨name, verdict⟩ := level
    cases verdict with
    | none => exact (List.prefix_cons_inj name).mpr inductionHypothesis
    | some outcome => exact ⟨rest.map Prod.fst, rfl⟩

/-- Where no level has a verdict, all are visited. -/
theorem visited_of_silent {levels : List (Name × Option Outcome)}
    (silent : ∀ level ∈ levels, level.2 = none) : visited levels = levels.map Prod.fst := by
  induction levels with
  | nil => rfl
  | cons level rest inductionHypothesis =>
    obtain ⟨name, verdict⟩ := level
    obtain rfl : verdict = none := silent (name, verdict) List.mem_cons_self
    rw [visited, List.map_cons, inductionHypothesis fun other member =>
      silent other (List.mem_cons_of_mem _ member)]

theorem map_fst_verdicts (view : Name → Level) (name : Name) (type : RecordType) :
    (verdicts view name type).map Prod.fst = climb name := by
  rw [verdicts, ancestorVerdicts, List.map_cons, List.map_map]
  exact congrArg (name :: ·) ((List.map_id _).trans (shortened_labelCount name))

/-- No rule speaks up to say that nothing is known. -/
theorem Level.exactRules_ne_unknown {level : Level} {type : RecordType} {rule : Option Outcome}
    (member : rule ∈ level.exactRules type) : rule ≠ some .unknown := by
  unfold exactRules answer? standsFor? delegates? denies? at member
  split at member
  · simp only [List.mem_cons, List.not_mem_nil, or_false] at member
    obtain all | denied := member
    · rw [all, answersAll?]
      by_cases nothing : level.sets = []
      · rw [if_pos nothing]
        exact nofun
      · rw [if_neg nothing]
        exact nofun
    · simp [denied]
  · simp only [List.mem_cons, List.not_mem_nil, or_false] at member
    obtain rfl | rfl | rfl | rfl := member
    · rw [ne_eq, Option.map_eq_some_iff]
      rintro ⟨entry, -, said⟩
      cases isSet : entry.set? <;> rw [isSet] at said <;> cases said
    all_goals simp

theorem Level.ancestorRules_ne_unknown {level : Level} {rule : Option Outcome}
    (member : rule ∈ level.ancestorRules) : rule ≠ some .unknown := by
  unfold ancestorRules redirects? delegates? at member
  simp only [List.mem_cons, List.not_mem_nil, or_false] at member
  obtain rfl | rfl := member <;> simp

/-- The verdict of several rules is that of one of them. -/
theorem firstToSpeak_mem {rules : List (Option Outcome)} {outcome : Outcome}
    (spoken : firstToSpeak rules = some outcome) : some outcome ∈ rules := by
  obtain ⟨rule, member, said⟩ := List.exists_of_findSome?_eq_some spoken
  exact said ▸ member

/-- If the outcome is that nothing is known, then all levels were visited. -/
theorem visited_of_unknown {view : Name → Level} {name : Name} {type : RecordType}
    (unknown : decision (verdicts view name type) = .unknown) :
    visited (verdicts view name type) = climb name := by
  rw [← map_fst_verdicts view name type]
  have quiet : firstToSpeak ((verdicts view name type).map Prod.snd) = none := by
    cases spoken : firstToSpeak ((verdicts view name type).map Prod.snd) with
    | none => rfl
    | some outcome =>
      rw [decision, spoken, Option.getD_some] at unknown
      rw [unknown] at spoken
      obtain ⟨level, member, said⟩ := List.mem_map.mp (firstToSpeak_mem spoken)
      obtain rfl | above := List.mem_cons.mp member
      · exact absurd rfl (Level.exactRules_ne_unknown (firstToSpeak_mem said))
      · obtain ⟨ancestor, _, rfl⟩ := List.mem_map.mp above
        exact absurd rfl (Level.ancestorRules_ne_unknown (firstToSpeak_mem said))
  exact visited_of_silent fun level member =>
    List.findSome?_eq_none_iff.mp quiet _ (List.mem_map_of_mem member)

/-! ### Subdomains and the climb -/

/-- What a lookup makes of the names above the one asked for. -/
structure Climbs (cache : Cache) (now : Nat) (name : Name) (type : RecordType)
    (least : Credibility) : Prop where
  /-- The first name with a verdict decides. -/
  outcome : (cache.lookup now name type least).1 =
    decision (verdicts (cache.usable? now least) name type)
  /-- The names visited are where expired entries go. -/
  visits : Visits now (visited (verdicts (cache.usable? now least) name type)) cache
    (cache.lookup now name type least).2
  /-- They are the first of the climb, -/
  inOrder : visited (verdicts (cache.usable? now least) name type) <+: climb name
  /-- and all of it if nothing is known. -/
  toTheTop : (cache.lookup now name type least).1 = .unknown →
    visited (verdicts (cache.usable? now least) name type) = climb name
  /-- The climb is through absolute names, the longest first and each of them once. -/
  absolute : ∀ level ∈ climb name, level.absolute = true
  descends : (climb name).Pairwise fun nearer farther =>
    farther.labels.length < nearer.labels.length
  /-- These are the names that the name ends in, except for the one right above a wildcard. -/
  reaches : ∀ level : Name, level.absolute = true →
    ((∃ met ∈ climb name, met ≈ level) ↔ name.EndsIn level ∧ ¬ PassesOver name level)

theorem lookup_climbs {cache : Cache} (reachable : Reachable cache) (now : Nat) {name : Name}
    (absolute : name.absolute = true) (type : RecordType) (least : Credibility) :
    cache.Climbs now name type least := by
  have table := lookup_eq reachable.tidy reachable.inPlace now name type least
  rw [name.toAbsolute_of_absolute absolute] at table
  obtain ⟨outcome, visits⟩ := table
  refine ⟨outcome, visits, ?_, fun unknown => ?_, fun _ => absolute_of_mem_climb absolute,
    climb_descends name, fun _ => mem_climb_iff absolute⟩
  · rw [← map_fst_verdicts (cache.usable? now least) name type]
    exact visited_prefix _
  · exact visited_of_unknown (outcome ▸ unknown)

/-- The subdomains of a name are the names that end in it, except for pairs that are misjudged,
which takes that one of the two begins with a wildcard. A lookup climbs through all names that a
name ends in exactly if the name does not begin with a wildcard, and otherwise passes over the name
right above it and no other. -/
theorem subdomains_climbed_iff {cache : Cache} (reachable : Reachable cache) (name owner : Name) :
    (name.isWithin owner = true ↔ (owner.comparedWith name).map Label.lowered <:+
        (name.comparedWith owner).map Label.lowered) ∧
      ((name.isWithin owner = true ↔ name.EndsIn owner) ↔ ¬ name.Misjudged owner) ∧
      (name.absolute = true →
        (∀ now type least, cache.Climbs now name type least) ∧
        ((∀ level : Name, level.absolute = true →
          ((∃ met ∈ climb name, met ≈ level) ↔ name.EndsIn level)) ↔ name.startsWild = false)) :=
  ⟨Name.isWithin_iff_compared name owner, Name.isWithin_iff_endsIn_iff name owner,
    fun absolute => ⟨fun now type least => lookup_climbs reachable now absolute type least,
      climb_complete_iff absolute⟩⟩

/-- From `W.E.`, a lookup goes by way of `e.`, where it finds a redirection, and not on to the
root. -/
theorem redirectingCache_climbed :
    let name := Name.ofOctets [0x57, 0x45]
    Reachable redirectingCache ∧ name.isWithin (Name.ofOctets [0x65]) = true ∧
      climb name = [name, Name.ofOctets [0x45], Name.root] ∧
      (redirectingCache.lookup 1100 name .a .normal).1 = .dname (RRset.ofRecord redirection) ∧
      (∃ met ∈ climb name, met ≈ Name.ofOctets [0x65]) := by
  intro name
  obtain ⟨_, subdomain, climbed⟩ := subdomains_climbed_iff redirectingCache_reachable name
    (Name.ofOctets [0x65])
  obtain ⟨climbs, complete⟩ := climbed rfl
  refine ⟨redirectingCache_reachable, ?_, by decide +kernel,
    (climbs 1100 .a .normal).outcome.trans (by decide +kernel), ?_⟩
  · exact (subdomain.mpr fun misjudged => misjudged.unlike (by decide +kernel)).mpr
      (by decide +kernel)
  · exact ((complete.mpr (by decide +kernel)) _ rfl).mpr (by decide +kernel)

/-- A cache that knows the servers of the zone `w.`. -/
def zoneCache : Cache :=
  Change.applyAll 1000
    [.storeSet (RRset.ofRecord ⟨Name.ofOctets [0x77], .inet, 300, .ns (Name.ofOctets [0x67])⟩)
      .normal]
    (Cache.new .inet ⟨0, none, 3600⟩)

/-- The name `*.w.` ends in `w.`, but it is not taken to be a subdomain of it, and a lookup passes
over the servers of the zone, though it goes on to the root. The name `w.` does not end in `*.`, and
is taken to be a subdomain of it. -/
theorem subdomains_misjudged :
    let name := Name.ofOctets [0x2a, 0x77]
    let zone := Name.ofOctets [0x77]
    name.EndsIn zone ∧ name.isWithin zone = false ∧
      (zoneCache.usable? 1000 .normal zone).delegates? ≠ none ∧
      climb name = [name, Name.root] ∧ (zoneCache.lookup 1000 name .a .normal).1 = .unknown ∧
      ¬ zone.EndsIn (Name.ofOctets [0x2a]) ∧ zone.isWithin (Name.ofOctets [0x2a]) = true := by
  decide +kernel

end Cache

end StubResolver
