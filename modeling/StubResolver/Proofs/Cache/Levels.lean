/-
This file says what a lookup answers, in one table. The names that a lookup can visit are its
levels: the name asked for, and then the names above it, nearest first. What counts at a level is
what is alive and credible enough there. Each level has its rules, in order of precedence, and the
first rule that has something to say is the verdict of the level; the first level with a verdict
decides.

The search itself goes another way. It drops what has expired as it goes, so that a level is read
from a cache that earlier levels have already changed, and it finds all sets of a name by sorting
entries that lie in no order. That neither matters is what is proved here. What a lookup leaves of
the cache is the same cache without the expired entries of the levels that were visited, and so the
outcome can depend on nothing but the usable entries of the levels.
-/

import StubResolver.Proofs.Cache.Operations
import StubResolver.Proofs.Name.Letters

namespace StubResolver

/-- All types, in the order of their codes. -/
def RecordType.inOrder : List RecordType :=
  (List.range UInt16.size).map fun code => ⟨UInt16.ofNat code⟩

theorem RecordType.mem_inOrder (type : RecordType) : type ∈ inOrder :=
  List.mem_map.mpr ⟨type.code.toNat, List.mem_range.mpr type.code.toNat_lt_size, by
    rw [UInt16.ofNat_toNat]⟩

theorem RecordType.inOrder_ascending :
    inOrder.Pairwise fun first second => first.code < second.code := by
  unfold inOrder
  rw [List.pairwise_map]
  refine List.pairwise_lt_range.imp_of_mem fun {first second} firstSmall secondSmall less => ?_
  rw [List.mem_range] at firstSmall secondSmall
  rw [UInt16.lt_iff_toNat_lt, UInt16.toNat_ofNat_of_lt' firstSmall,
    UInt16.toNat_ofNat_of_lt' secondSmall]
  exact less

namespace Cache

/-! ### The rules of a level -/

/-- What can be used at one name, under each key. -/
abbrev Level := EntryKey → Option Entry

namespace Level

variable (level : Level)

/-- The usable set of a type. -/
def set? (type : RecordType) : Option RRset := (level (.type type)).bind Entry.set?

/-- All usable sets, in the order of the codes of their types. -/
def sets : List RRset := RecordType.inOrder.filterMap level.set?

/-- What a level says about a type it has an entry for: these are the records, or there are none. -/
def answer? (type : RecordType) : Option Outcome :=
  (level (.type type)).map fun entry => (entry.set?.map .single).getD .nxRRset

/-- The name stands for another. -/
def standsFor? : Option Outcome := (level.set? .cname).map .cname

/-- The subtree is redirected. -/
def redirects? : Option Outcome := (level.set? .dname).map .dname

/-- The servers of a zone have to be asked. -/
def delegates? : Option Outcome := (level.set? .ns).map .delegation

/-- The name does not exist. -/
def denies? : Option Outcome := (level .name).map fun _ => .nxDomain

/-- All records that are known, if any are. -/
def answersAll? : Option Outcome :=
  if level.sets = [] then none else some (.successful level.sets)

/-- The rules at the name that was asked for, in order of precedence. -/
def exactRules (type : RecordType) : List (Option Outcome) :=
  if type = .any then [level.answersAll?, level.denies?]
  else [level.answer? type, level.standsFor?, level.delegates?, level.denies?]

/-- The rules at a name above it, in order of precedence. -/
def ancestorRules : List (Option Outcome) := [level.redirects?, level.delegates?]

end Level

/-- The first of several rules, or levels, that has something to say. -/
def firstToSpeak (rules : List (Option Outcome)) : Option Outcome := rules.findSome? id

/-- Names above the one that was asked for with their verdicts, where `view` says what can be used
at a name. -/
def ancestorVerdicts (view : Name → Level) (names : List Name) : List (Name × Option Outcome) :=
  names.map fun above => (above, firstToSpeak (view above).ancestorRules)

/-- What is left of a name when it keeps fewer labels than a count, for each number of them down to
none. -/
def shortened (name : Name) : (count : Nat) → List Name
  | 0 => []
  | fewer + 1 => (name.suffix fewer).toAbsolute :: shortened name fewer

/-- The levels of a question with their verdicts. -/
def verdicts (view : Name → Level) (name : Name) (type : RecordType) :
    List (Name × Option Outcome) :=
  (name, firstToSpeak ((view name).exactRules type)) ::
    ancestorVerdicts view (shortened name name.labelCount)

/-- The outcome that levels come to: the verdict of the first that has one. -/
def decision (levels : List (Name × Option Outcome)) : Outcome :=
  (firstToSpeak (levels.map Prod.snd)).getD .unknown

/-- The levels up to the one that decides, which are those a search visits. -/
def visited : List (Name × Option Outcome) → List Name
  | [] => []
  | (level, none) :: rest => level :: visited rest
  | (level, some _) :: _ => [level]

/-- What a cache can be used for at a name: what is alive there and credible enough. -/
def usable? (cache : Cache) (now : Nat) (least : Credibility) (name : Name) : Level :=
  fun key => (cache.live? now name key).filter fun entry => least ≤ entry.credibility

/-! ### Verdicts follow the rules -/

/-- The entries of a name as a level. -/
def Entries.level (entries : Entries) (least : Credibility) : Level :=
  fun key => entries.usable? least key

variable {entries : Entries} {least : Credibility}

theorem verdictOnType?_eq (entries : Entries) (least : Credibility) (type : RecordType) :
    verdictOnType? entries least type = firstToSpeak
      [(entries.level least).answer? type, (entries.level least).standsFor?,
        (entries.level least).delegates?, (entries.level least).denies?] := by
  have said : (entries.level least).answer? type = (entries.usable? least (.type type)).map
      fun entry => (entry.set?.map .single).getD .nxRRset := rfl
  unfold verdictOnType? firstToSpeak
  cases usable : entries.usable? least (.type type) with
  | some entry =>
    rw [said, usable]
    cases isSet : entry.set? with
    | some set => simp [isSet]
    | none => simp [isSet]
  | none =>
    rw [said, usable]
    show ((entries.level least).standsFor?.or (entries.level least).delegates?).or
      (entries.level least).denies? = _
    cases (entries.level least).standsFor? <;> cases (entries.level least).delegates? <;>
      cases (entries.level least).denies? <;> rfl

/-- Every set stands under its type. -/
def Entries.InPlace (entries : Entries) : Prop :=
  ∀ key entry set, (key, entry) ∈ entries → entry.set? = some set → key = .type set.type

theorem Level.mem_sets {level : Level} {set : RRset} :
    set ∈ level.sets ↔ ∃ type, level.set? type = some set := by
  unfold sets
  rw [List.mem_filterMap]
  exact ⟨fun ⟨type, _, found⟩ => ⟨type, found⟩,
    fun ⟨type, found⟩ => ⟨type, type.mem_inOrder, found⟩⟩

theorem Entries.set?_level_eq_some {type : RecordType} {set : RRset} :
    (entries.level least).set? type = some set ↔
      ∃ entry, entries.get? (.type type) = some entry ∧ least ≤ entry.credibility ∧
        entry.set? = some set := by
  unfold Level.set? Entries.level Entries.usable?
  simp only [Option.bind_eq_some_iff, Option.filter_eq_some_iff, decide_eq_true_eq, and_assoc]

/-- Where every set stands under its type, a set that is found is one of that type. -/
theorem Entries.InPlace.type_eq (inPlace : entries.InPlace) {type : RecordType} {set : RRset}
    (found : (entries.level least).set? type = some set) : type = set.type := by
  obtain ⟨entry, member, _, isSet⟩ := Entries.set?_level_eq_some.mp found
  exact EntryKey.type.inj (inPlace _ entry set (mem_of_get? member) isSet)

/-- The set of an entry, if it has one that is credible enough. -/
def credibleSet? (least : Credibility) (slot : EntryKey × Entry) : Option RRset :=
  if least ≤ slot.2.credibility then slot.2.set? else none

theorem credibleSet?_eq_some {slot : EntryKey × Entry} {set : RRset} :
    credibleSet? least slot = some set ↔ least ≤ slot.2.credibility ∧ slot.2.set? = some set := by
  unfold credibleSet?
  split
  · rename_i credible
    rw [and_iff_right credible]
  · rename_i weak
    simp [weak]

theorem Entries.mem_usableSets {set : RRset} :
    set ∈ entries.usableSets least ↔
      ∃ key entry, (key, entry) ∈ entries ∧ least ≤ entry.credibility ∧ entry.set? = some set := by
  show set ∈ (entries.filterMap (credibleSet? least)).mergeSort _ ↔ _
  rw [List.mem_mergeSort, List.mem_filterMap]
  simp only [credibleSet?_eq_some, Prod.exists]

/-- Sets whose types lie in strict order are distinct. -/
theorem nodup_of_ascending {sets : List RRset}
    (ascending : sets.Pairwise fun first second => first.type.code < second.type.code) :
    sets.Nodup :=
  ascending.imp fun less equal => absurd (equal ▸ less) (UInt16.lt_irrefl _)

theorem Level.sets_ascending {level : Level}
    (inPlace : ∀ type set, level.set? type = some set → type = set.type) :
    level.sets.Pairwise fun first second => first.type.code < second.type.code := by
  refine RecordType.inOrder_ascending.filterMap _ ?_
  intro first second less firstSet found secondSet foundToo
  rw [← inPlace first firstSet found, ← inPlace second secondSet foundToo]
  exact less

/-- No set is found twice, since entries with different keys have sets of different types. -/
theorem Entries.usableSets_nodup (distinct : entries.Distinct) (inPlace : entries.InPlace) :
    (entries.usableSets least).Nodup := by
  refine (List.mergeSort_perm _ _).nodup_iff.mpr (List.pairwise_filterMap.mpr ?_)
  refine (List.pairwise_map.mp distinct).imp_of_mem fun {slot other} member otherMember apart => ?_
  rintro set found _ otherFound rfl
  have key := inPlace _ _ _ member (credibleSet?_eq_some.mp found).2
  have otherKey := inPlace _ _ _ otherMember (credibleSet?_eq_some.mp otherFound).2
  exact apart (key.trans otherKey.symm)

theorem Entries.usableSets_sorted :
    (entries.usableSets least).Pairwise fun first second =>
      first.type.code ≤ second.type.code := by
  refine (List.pairwise_mergeSort ?_ ?_ _).imp fun lessEqual => of_decide_eq_true lessEqual
  · intro first second third less more
    exact decide_eq_true (UInt16.le_trans (of_decide_eq_true less) (of_decide_eq_true more))
  · intro first second
    simpa using UInt16.le_total first.type.code second.type.code

/-- The usable sets of entries are found in no order and sorted; those of the level are found in
order. They are the same sets. -/
theorem Entries.usableSets_eq (distinct : entries.Distinct) (inPlace : entries.InPlace) :
    entries.usableSets least = (entries.level least).sets := by
  have ascending : (entries.level least).sets.Pairwise fun first second =>
      first.type.code < second.type.code :=
    Level.sets_ascending fun _ _ found => inPlace.type_eq found
  have members (set : RRset) : set ∈ entries.usableSets least ↔
      (entries.level least).set? set.type = some set := by
    rw [Entries.mem_usableSets, set?_level_eq_some]
    constructor
    · rintro ⟨key, entry, member, credible, isSet⟩
      have found := get?_of_mem distinct member
      rw [inPlace key entry set member isSet] at found
      exact ⟨entry, found, credible, isSet⟩
    · rintro ⟨entry, found, credible, isSet⟩
      exact ⟨_, entry, mem_of_get? found, credible, isSet⟩
  have inLevel (set : RRset) : set ∈ (entries.level least).sets ↔
      (entries.level least).set? set.type = some set := by
    rw [Level.mem_sets]
    exact ⟨fun ⟨_, found⟩ => inPlace.type_eq found ▸ found, fun found => ⟨_, found⟩⟩
  refine List.Perm.eq_of_pairwise ?_ usableSets_sorted (ascending.imp UInt16.le_of_lt) ?_
  · intro first second firstIn secondIn less more
    have sameCode := UInt16.le_antisymm less more
    have sameType : first.type = second.type := congrArg RecordType.mk sameCode
    have found := (members first).mp firstIn
    rw [sameType, (inLevel second).mp secondIn] at found
    exact (Option.some_inj.mp found).symm
  · refine (List.perm_ext_iff_of_nodup (usableSets_nodup distinct inPlace)
      (nodup_of_ascending ascending)).mpr fun set => ?_
    rw [members, inLevel]

/-- A question for all types never ends at the servers of a zone: where they are known, they are
themselves among the records. -/
theorem verdictOnAll?_eq (distinct : entries.Distinct) (inPlace : entries.InPlace) :
    verdictOnAll? entries least =
      firstToSpeak [(entries.level least).answersAll?, (entries.level least).denies?] := by
  unfold verdictOnAll? Level.answersAll? firstToSpeak
  rw [Entries.usableSets_eq distinct inPlace]
  cases sets : (entries.level least).sets with
  | nil =>
    have noServers : entries.usableSet? least .ns = none := by
      cases found : entries.usableSet? least .ns with
      | none => rfl
      | some set =>
        have member : set ∈ (entries.level least).sets := Level.mem_sets.mpr ⟨.ns, found⟩
        rw [sets] at member
        cases member
    have absent : absence? entries least = (entries.level least).denies? := rfl
    unfold zoneCut?
    rw [noServers, absent]
    cases (entries.level least).denies? <;> rfl
  | cons set rest => simp

theorem exactVerdict?_eq (distinct : entries.Distinct) (inPlace : entries.InPlace)
    (type : RecordType) :
    exactVerdict? entries least type =
      firstToSpeak ((entries.level least).exactRules type) := by
  unfold exactVerdict? Level.exactRules
  split
  · exact verdictOnAll?_eq distinct inPlace
  · exact verdictOnType?_eq entries least type

theorem ancestorVerdict?_eq (entries : Entries) (least : Credibility) :
    ancestorVerdict? entries least = firstToSpeak (entries.level least).ancestorRules := by
  show (entries.level least).redirects?.or (entries.level least).delegates? = _
  unfold firstToSpeak Level.ancestorRules
  cases (entries.level least).redirects? <;> cases (entries.level least).delegates? <;> rfl

/-! ### What visits leave of a cache -/

/-- The cache that is left when expired entries were dropped at certain names, and nothing else has
happened to entries. -/
structure Visits (now : Nat) (levels : List Name) (before after : Cache) : Prop where
  recordClass : after.recordClass = before.recordClass
  limits : after.limits = before.limits
  tidy : after.shelf.Tidy
  entries : ∀ name key, after.entryAt? name key =
    if ∃ level ∈ levels, level ≈ name then before.live? now name key else before.entryAt? name key

namespace Visits

variable {now : Nat} {first second : List Name} {before middle after : Cache}

/-- Visiting drops nothing that is alive. -/
theorem live? (visits : Visits now first before after) (name : Name) (key : EntryKey) :
    after.live? now name key = before.live? now name key := by
  unfold Cache.live?
  rw [visits.entries]
  split
  · unfold Cache.live?
    rw [Option.filter_filter]
    simp only [Bool.and_self]
  · rfl

theorem refl (tidy : before.shelf.Tidy) : Visits now [] before before :=
  ⟨rfl, rfl, tidy, fun _ _ => (if_neg (by simp)).symm⟩

theorem trans (one : Visits now first before middle) (two : Visits now second middle after) :
    Visits now (first ++ second) before after where
  recordClass := two.recordClass.trans one.recordClass
  limits := two.limits.trans one.limits
  tidy := two.tidy
  entries := by
    intro name key
    rw [two.entries, one.live?, one.entries]
    simp only [List.mem_append, or_and_right, exists_or]
    by_cases later : ∃ level ∈ second, level ≈ name
    · rw [if_pos later, if_pos (Or.inr later)]
    · simp only [if_neg later, or_iff_left later]

theorem withMetrics (visits : Visits now first before after) (metrics : Metrics) :
    Visits now first before { after with metrics := metrics } :=
  ⟨visits.recordClass, visits.limits, visits.tidy, visits.entries⟩

theorem usable? (visits : Visits now first before after) (least : Credibility) :
    after.usable? now least = before.usable? now least := by
  funext name key
  unfold Cache.usable?
  rw [visits.live?]

end Visits

variable {cache : Cache}

/-- A name in use is moved to the front, and its entries stay. -/
theorem promote_visits (tidy : cache.shelf.Tidy) (now : Nat) (name : Name) :
    Visits now [] cache { cache with shelf := cache.shelf.promote name } where
  recordClass := rfl
  limits := rfl
  tidy := tidy.promote name
  entries := by
    intro other key
    unfold entryAt?
    rw [Shelf.entryAt?_eq, Shelf.entryAt?_eq, Shelf.entriesOf_promote, if_neg (by simp)]

/-- A visit drops what has expired at its name. -/
theorem visit_visits (tidy : cache.shelf.Tidy) (now : Nat) (name : Name) :
    Visits now [name] cache (cache.visit now name).1 := by
  have fades := visit_fades tidy now name
  refine ⟨fades.recordClass, fades.limits, fades.tidy, fun other key => ?_⟩
  simp only [List.mem_singleton, exists_eq_left]
  unfold visit live? entryAt?
  split
  · rw [Shelf.entryAt?_eq, Shelf.entryAt?_eq, Shelf.entriesOf_reshape tidy _ _ _ rfl]
    by_cases same : name ≈ other
    · rw [if_pos same, if_pos same, Entries.get?_live (tidy.distinct other)]
    · rw [if_neg same, if_neg same]
  · rename_i absent
    rw [Shelf.entryAt?_eq]
    by_cases same : name ≈ other
    · rw [if_pos same, ← Shelf.entriesOf_congr cache.shelf same,
        Shelf.entriesOf_of_slot?_none absent]
      rfl
    · rw [if_neg same]

/-! ### The search follows the table -/

theorem shortened_eq (name : Name) (count : Nat) :
    shortened name count =
      (List.range count).reverse.map fun fewer => (name.suffix fewer).toAbsolute := by
  induction count with
  | zero => rfl
  | succ fewer inductionHypothesis =>
    rw [shortened, inductionHypothesis, List.range_succ, List.reverse_append,
      List.reverse_singleton, List.singleton_append, List.map_cons]

/-- The names that a search visits above a name are the levels above it. -/
theorem shortened_labelCount (name : Name) : shortened name name.labelCount = ancestorsOf name :=
  shortened_eq name name.labelCount

/-- What is found on a visit is what can be used there. -/
theorem level_visit (tidy : cache.shelf.Tidy) (now : Nat) (name : Name) (least : Credibility) :
    Entries.level (cache.visit now name).2 least = cache.usable? now least name := by
  funext key
  show ((cache.visit now name).2.get? key).filter _ = _
  rw [get?_visit tidy]
  rfl

theorem visit_inPlace (tidy : cache.shelf.Tidy) (inPlace : cache.InPlace) (now : Nat)
    (name : Name) : Entries.InPlace (cache.visit now name).2 := by
  intro key entry set member isSet
  have alive := Entries.get?_of_mem (visit_distinct tidy now name) member
  rw [get?_visit tidy, live?_eq_some_iff] at alive
  exact (inPlace name key entry set alive.1 isSet).2.2

/-- Each ancestor is read from what the visits before it have left, and still says what it would
have said at first. -/
theorem searchAncestors_eq (tidy : cache.shelf.Tidy) (now : Nat) (least : Credibility)
    (names : List Name) :
    (cache.searchAncestors now least names).1 =
        decision (ancestorVerdicts (cache.usable? now least) names) ∧
      Visits now (visited (ancestorVerdicts (cache.usable? now least) names)) cache
        (cache.searchAncestors now least names).2 := by
  induction names generalizing cache with
  | nil => exact ⟨rfl, Visits.refl tidy⟩
  | cons level rest inductionHypothesis =>
    have here := visit_visits tidy now level
    obtain ⟨outcome, others⟩ := inductionHypothesis here.tidy
    rw [here.usable?] at outcome others
    unfold searchAncestors
    dsimp only
    rw [ancestorVerdict?_eq, level_visit tidy, ancestorVerdicts, List.map_cons]
    cases firstToSpeak (cache.usable? now least level).ancestorRules with
    | some outcome => exact ⟨rfl, here⟩
    | none => exact ⟨outcome, here.trans others⟩

/-- What a lookup answers, and what it leaves of the cache. -/
theorem lookup_eq (tidy : cache.shelf.Tidy) (inPlace : cache.InPlace) (now : Nat) (name : Name)
    (type : RecordType) (least : Credibility) :
    (cache.lookup now name type least).1 =
        decision (verdicts (cache.usable? now least) name.toAbsolute type) ∧
      Visits now (visited (verdicts (cache.usable? now least) name.toAbsolute type)) cache
        (cache.lookup now name type least).2 := by
  have used := promote_visits tidy now name.toAbsolute
  have here := visit_visits used.tidy now name.toAbsolute
  have stillInPlace : Cache.InPlace
      { cache with shelf := cache.shelf.promote name.toAbsolute } := by
    intro other key entry set found isSet
    rw [used.entries, if_neg (by simp)] at found
    exact inPlace other key entry set found isSet
  obtain ⟨outcome, others⟩ := searchAncestors_eq here.tidy now least (ancestorsOf name.toAbsolute)
  rw [here.usable?, used.usable?] at outcome others
  unfold lookup search
  dsimp only
  rw [exactVerdict?_eq (visit_distinct used.tidy now _) (visit_inPlace used.tidy stillInPlace now _),
    level_visit used.tidy, used.usable?, verdicts, shortened_labelCount]
  cases firstToSpeak ((cache.usable? now least name.toAbsolute).exactRules type) with
  | some outcome => exact ⟨rfl, (used.trans here).withMetrics _⟩
  | none => exact ⟨outcome, (used.trans (here.trans others)).withMetrics _⟩

/-- Levels on which two views agree have the same verdicts. -/
theorem verdicts_congr {view other : Name → Level} {name : Name} {type : RecordType}
    (agree : ∀ level ∈ verdicts view name type, other level.1 = view level.1) :
    verdicts other name type = verdicts view name type := by
  unfold verdicts ancestorVerdicts at agree ⊢
  rw [List.forall_mem_cons, List.forall_mem_map] at agree
  obtain ⟨exact, above⟩ := agree
  rw [exact]
  congr 1
  refine List.map_congr_left fun level member => ?_
  rw [above level member]

/-! ### Lookups are as the table says -/

/-- A lookup in a reachable cache ends with the verdict of the first level that has one. Of the
entries at the levels that were visited, those that have expired are gone; all other entries are as
they were. Whatever else two caches hold, and whatever the time, they answer alike when the same
entries can be used along the levels. -/
theorem lookup_follows_table (reachable : Reachable cache) (now : Nat) (name : Name)
    (type : RecordType) (least : Credibility) :
    let levels := verdicts (cache.usable? now least) name.toAbsolute type
    let result := cache.lookup now name type least
    result.1 = decision levels ∧
      (∀ other key, result.2.entryAt? other key =
        if ∃ level ∈ visited levels, level ≈ other then cache.live? now other key
        else cache.entryAt? other key) ∧
      result.2.recordClass = cache.recordClass ∧ result.2.limits = cache.limits ∧
      ∀ twin later, Reachable twin →
        (∀ level ∈ levels, twin.usable? later least level.1 = cache.usable? now least level.1) →
        (twin.lookup later name type least).1 = result.1 := by
  obtain ⟨outcome, visits⟩ := lookup_eq reachable.tidy reachable.inPlace now name type least
  refine ⟨outcome, visits.entries, visits.recordClass, visits.limits, ?_⟩
  intro twin later twinReachable agree
  have twinOutcome := (lookup_eq twinReachable.tidy twinReachable.inPlace later name type least).1
  rw [twinOutcome, outcome, verdicts_congr agree]

/-- What is below `e.` is to be found below `g.`. -/
def redirection : Record := ⟨Name.ofOctets [0x65], .inet, 300, .dname (Name.ofOctets [0x67])⟩

/-- A cache with that redirection, and with an address of `w.e.` that does not last as long. -/
def redirectingCache : Cache :=
  Change.applyAll 1000
    [.storeSet (RRset.ofRecord redirection) .normal,
      .storeSet (RRset.ofRecord { Record.address 1 60 with name := Name.ofOctets [0x77, 0x65] })
        .normal]
    (Cache.new .inet ⟨0, none, 3600⟩)

theorem redirectingCache_reachable : Reachable redirectingCache :=
  (Reachable.new _ _).applyAll 1000 _ (by simp [Change.Coherent, RRset.ofRecord_coherent])

/-- Once the address has expired, the search goes on to the redirection, and drops the address on
its way. A second search finds the same. -/
theorem redirectingCache_follows_table :
    let first := redirectingCache.lookup 1100 (Name.ofOctets [0x77, 0x65]) .a .normal
    Reachable redirectingCache ∧
      first.1 = .dname (RRset.ofRecord redirection) ∧
      redirectingCache.entryAt? (Name.ofOctets [0x77, 0x65]) (.type .a) ≠ none ∧
      first.2.entryAt? (Name.ofOctets [0x77, 0x65]) (.type .a) = none ∧
      (first.2.lookup 1100 (Name.ofOctets [0x77, 0x65]) .a .normal).1 = first.1 := by
  intro first
  have reachable := redirectingCache_reachable
  obtain ⟨outcome, entries, _, _, alike⟩ :=
    lookup_follows_table reachable 1100 (Name.ofOctets [0x77, 0x65]) .a .normal
  have visits := (lookup_eq reachable.tidy reachable.inPlace 1100 (Name.ofOctets [0x77, 0x65]) .a
    .normal).2
  refine ⟨reachable, outcome.trans (by decide +kernel), by decide +kernel,
    (entries _ _).trans (by decide +kernel), ?_⟩
  refine alike first.2 1100 (reachable.step 1100 (.lookup _ _ _) trivial) fun level _ => ?_
  rw [visits.usable?]

end Cache

end StubResolver
