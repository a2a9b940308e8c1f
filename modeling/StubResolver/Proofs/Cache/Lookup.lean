/-
This file says what a lookup leaves of a cache and where its outcome comes from. A lookup and a
sweep change the order of names and drop entries that have expired, and that is all: what is alive
stays alive. A cache that has changed so is said to have faded.

Every set in an outcome is the set of an entry that is alive and credible enough. An answer comes
from the name that was asked for, and so does an alias; a redirection comes from a name above it.
-/

import StubResolver.Cache.Lookup
import StubResolver.Cache.Sweep
import StubResolver.Proofs.Cache.Store
import StubResolver.Proofs.Name.Subdomains

namespace StubResolver

/-- The sets that an outcome carries. -/
def Outcome.sets : Outcome → List RRset
  | .successful sets => sets
  | .cname set | .dname set | .delegation set => [set]
  | _ => []

namespace Cache

/-! ### Fading -/

/-- The cache that is left when nothing has happened but that expired entries were dropped and
names have changed their order. -/
structure Fades (now : Nat) (before after : Cache) : Prop where
  recordClass : after.recordClass = before.recordClass
  limits : after.limits = before.limits
  tidy : after.shelf.Tidy
  entries : ∀ name key, after.entryAt? name key = before.entryAt? name key ∨
    after.entryAt? name key = none ∧ before.live? now name key = none

namespace Fades

variable {now : Nat} {before middle after : Cache}

theorem refl (tidy : before.shelf.Tidy) : Fades now before before :=
  ⟨rfl, rfl, tidy, fun _ _ => Or.inl rfl⟩

/-- What is alive stays, and what has expired does not come back. -/
theorem live? (fades : Fades now before after) (name : Name) (key : EntryKey) :
    after.live? now name key = before.live? now name key := by
  rcases fades.entries name key with same | ⟨gone, dead⟩
  · unfold Cache.live?
    rw [same]
  · rw [dead]
    unfold Cache.live?
    rw [gone, Option.filter_none]

theorem trans (one : Fades now before middle) (two : Fades now middle after) :
    Fades now before after where
  recordClass := two.recordClass.trans one.recordClass
  limits := two.limits.trans one.limits
  tidy := two.tidy
  entries := by
    intro name key
    rcases two.entries name key with same | ⟨gone, dead⟩
    · rw [same]
      exact one.entries name key
    · rw [one.live?] at dead
      exact Or.inr ⟨gone, dead⟩

/-- Counters mean nothing to the entries. -/
theorem withMetrics (fades : Fades now before after) (metrics : Metrics) :
    Fades now before { after with metrics := metrics } :=
  ⟨fades.recordClass, fades.limits, fades.tidy, fades.entries⟩

end Fades

variable {cache : Cache}

/-- Dropping the expired entries of a name. -/
theorem reshape_live_fades (tidy : cache.shelf.Tidy) (now : Nat) (name : Name) :
    Fades now cache
      { cache with shelf := cache.shelf.reshape name fun entries => entries.live now } where
  recordClass := rfl
  limits := rfl
  tidy := tidy.reshape name _ fun _ distinct => distinct.filter _
  entries := by
    intro other key
    unfold live? entryAt?
    rw [Shelf.entryAt?_eq, Shelf.entryAt?_eq, Shelf.entriesOf_reshape tidy _ _ _ rfl]
    by_cases same : name ≈ other
    · rw [if_pos same, Entries.get?_live (tidy.distinct other)]
      cases found : (cache.shelf.entriesOf other).get? key with
      | none => exact Or.inl rfl
      | some entry =>
        rw [Option.filter_some]
        split
        · exact Or.inl rfl
        · exact Or.inr ⟨rfl, rfl⟩
    · rw [if_neg same]
      exact Or.inl rfl

theorem promote_fades (tidy : cache.shelf.Tidy) (now : Nat) (name : Name) :
    Fades now cache { cache with shelf := cache.shelf.promote name } where
  recordClass := rfl
  limits := rfl
  tidy := tidy.promote name
  entries := by
    intro other key
    unfold entryAt?
    rw [Shelf.entryAt?_eq, Shelf.entryAt?_eq, Shelf.entriesOf_promote]
    exact Or.inl rfl

theorem visit_fades (tidy : cache.shelf.Tidy) (now : Nat) (name : Name) :
    Fades now cache (cache.visit now name).1 := by
  unfold visit
  split
  · exact (reshape_live_fades tidy now name).withMetrics _
  · exact Fades.refl tidy

/-! ### Sweeping -/

theorem sweepName_fades (tidy : cache.shelf.Tidy) (now : Nat) (name : Name) :
    Fades now cache (cache.sweepName now name).2 := by
  unfold sweepName
  split
  · exact reshape_live_fades tidy now name
  · exact Fades.refl tidy

theorem sweepNames_fades (tidy : cache.shelf.Tidy) (now : Nat) (names : List Name) :
    Fades now cache (cache.sweepNames now names).2 := by
  induction names generalizing cache with
  | nil => exact Fades.refl tidy
  | cons name rest inductionHypothesis =>
    have first := sweepName_fades tidy now name
    exact first.trans (inductionHypothesis first.tidy)

theorem sweepBatches_fades (tidy : cache.shelf.Tidy) (now : Nat) (batches : List (List Name)) :
    Fades now cache (cache.sweepBatches now batches).2 := by
  induction batches generalizing cache with
  | nil => exact Fades.refl tidy
  | cons batch rest inductionHypothesis =>
    have first := sweepNames_fades tidy now batch
    exact first.trans (inductionHypothesis first.tidy)

/-- A sweep drops nothing that is alive. -/
theorem sweep_fades (tidy : cache.shelf.Tidy) (now : Nat) :
    Fades now cache (cache.sweep now).2 :=
  (sweepBatches_fades tidy now (batches cache.names)).withMetrics _

/-! ### The entries that a visit leaves -/

/-- What is found on a visit is what is alive. -/
theorem get?_visit (tidy : cache.shelf.Tidy) (now : Nat) (name : Name) (key : EntryKey) :
    (cache.visit now name).2.get? key = cache.live? now name key := by
  unfold visit live? entryAt?
  rw [Shelf.entryAt?_eq]
  split
  · rename_i slot found
    rw [Shelf.entriesOf_of_slot? found]
    exact Entries.get?_live (tidy.keys slot (Shelf.mem_of_slot? found)) now key
  · rename_i absent
    rw [Shelf.entriesOf_of_slot?_none absent]
    rfl

theorem visit_distinct (tidy : cache.shelf.Tidy) (now : Nat) (name : Name) :
    (cache.visit now name).2.Distinct := by
  unfold visit
  split
  · rename_i slot found
    exact (tidy.keys slot (Shelf.mem_of_slot? found)).filter _
  · exact List.nodup_nil

/-- A set that is alive in a place, and credible enough. -/
def Offers (cache : Cache) (now : Nat) (least : Credibility) (name : Name) (key : EntryKey)
    (set : RRset) : Prop :=
  ∃ entry, cache.live? now name key = some entry ∧ least ≤ entry.credibility ∧
    entry.set? = some set

theorem offers_of_usable? (tidy : cache.shelf.Tidy) {now : Nat} {name : Name} {key : EntryKey}
    {least : Credibility} {set : RRset}
    (usable : ((cache.visit now name).2.usable? least key).bind Entry.set? = some set) :
    cache.Offers now least name key set := by
  obtain ⟨entry, found, isSet⟩ := Option.bind_eq_some_iff.mp usable
  unfold Entries.usable? at found
  rw [get?_visit tidy, Option.filter_eq_some_iff] at found
  exact ⟨entry, found.1, of_decide_eq_true found.2, isSet⟩

theorem offers_of_mem_usableSets (tidy : cache.shelf.Tidy) {now : Nat} {name : Name}
    {least : Credibility} {set : RRset}
    (usable : set ∈ (cache.visit now name).2.usableSets least) :
    ∃ key, cache.Offers now least name key set := by
  unfold Entries.usableSets at usable
  obtain ⟨slot, member, isSet⟩ := List.mem_filterMap.mp (List.mem_mergeSort.mp usable)
  split at isSet
  · rename_i credible
    have found := Entries.get?_of_mem (visit_distinct tidy now name) member
    rw [get?_visit tidy] at found
    exact ⟨slot.1, slot.2, found, credible, isSet⟩
  · cases isSet

/-! ### Where an outcome comes from -/

/-- A name above another is another name, since it has fewer labels. -/
theorem not_equiv_of_mem_ancestorsOf {name above : Name} (visited : above ∈ ancestorsOf name) :
    ¬ above ≈ name := by
  obtain ⟨count, inside, rfl⟩ := List.mem_map.mp visited
  have fewer := List.mem_range.mp (List.mem_reverse.mp inside)
  intro same
  have sameLength := Name.length_labels_of_equiv same
  exact Nat.ne_of_lt (Name.length_suffix_lt fewer) sameLength

/-- What stands behind an outcome of a question for a name and a type. -/
def Supports (cache : Cache) (now : Nat) (least : Credibility) (name : Name) (type : RecordType) :
    Outcome → Prop
  | .successful sets => ∀ set ∈ sets, ∃ key, cache.Offers now least name key set ∧
      (type = .any ∨ key = .type type)
  | .cname set => cache.Offers now least name (.type .cname) set
  | .dname set => ∃ above ∈ ancestorsOf name, cache.Offers now least above (.type .dname) set
  | .delegation set => ∃ level ∈ name :: ancestorsOf name,
      cache.Offers now least level (.type .ns) set
  | _ => True

/-- A faded cache has as much to offer. -/
theorem Fades.offers {now : Nat} {before after : Cache} (fades : Fades now before after)
    {least : Credibility} {name : Name} {key : EntryKey} {set : RRset} :
    after.Offers now least name key set ↔ before.Offers now least name key set := by
  unfold Offers
  rw [fades.live?]

theorem zoneCut?_supported (tidy : cache.shelf.Tidy) {now : Nat} {least : Credibility}
    {name level : Name} {type : RecordType} (visited : level ∈ name :: ancestorsOf name)
    {outcome : Outcome}
    (said : zoneCut? (cache.visit now level).2 least = some outcome) :
    cache.Supports now least name type outcome := by
  obtain ⟨set, found, rfl⟩ := Option.map_eq_some_iff.mp said
  exact ⟨level, visited, offers_of_usable? tidy found⟩

theorem absence?_supported {entries : Entries} {now : Nat} {least : Credibility} {name : Name}
    {type : RecordType} {outcome : Outcome} (said : absence? entries least = some outcome) :
    cache.Supports now least name type outcome := by
  obtain ⟨_, _, rfl⟩ := Option.map_eq_some_iff.mp said
  exact trivial

theorem verdictOnType?_supported (tidy : cache.shelf.Tidy) {now : Nat} {least : Credibility}
    {name : Name} {type : RecordType} {outcome : Outcome}
    (said : verdictOnType? (cache.visit now name).2 least type = some outcome) :
    cache.Supports now least name type outcome := by
  unfold verdictOnType? at said
  cases usable : (cache.visit now name).2.usable? least (.type type) with
  | some entry =>
    rw [usable] at said
    dsimp only at said
    split at said
    · rename_i set isSet
      cases said
      intro other member
      rw [List.mem_singleton.mp member]
      exact ⟨.type type, offers_of_usable? tidy (by rw [usable]; exact isSet), Or.inr rfl⟩
    · cases said
      exact trivial
  | none =>
    rw [usable] at said
    dsimp only at said
    rcases Option.or_eq_some_iff.mp said with early | ⟨_, absent⟩
    · rcases Option.or_eq_some_iff.mp early with standsFor | ⟨_, cut⟩
      · obtain ⟨set, found, rfl⟩ := Option.map_eq_some_iff.mp standsFor
        exact offers_of_usable? tidy found
      · exact zoneCut?_supported tidy List.mem_cons_self cut
    · exact absence?_supported absent

theorem verdictOnAll?_supported (tidy : cache.shelf.Tidy) {now : Nat} {least : Credibility}
    {name : Name} {outcome : Outcome}
    (said : verdictOnAll? (cache.visit now name).2 least = some outcome) :
    cache.Supports now least name .any outcome := by
  unfold verdictOnAll? at said
  split at said
  · rcases Option.or_eq_some_iff.mp said with cut | ⟨_, absent⟩
    · exact zoneCut?_supported tidy List.mem_cons_self cut
    · exact absence?_supported absent
  · cases said
    intro set member
    obtain ⟨key, offers⟩ := offers_of_mem_usableSets tidy member
    exact ⟨key, offers, Or.inl rfl⟩

theorem exactVerdict?_supported (tidy : cache.shelf.Tidy) {now : Nat} {least : Credibility}
    {name : Name} {type : RecordType} {outcome : Outcome}
    (said : exactVerdict? (cache.visit now name).2 least type = some outcome) :
    cache.Supports now least name type outcome := by
  unfold exactVerdict? at said
  split at said
  · rename_i all
    exact all ▸ verdictOnAll?_supported tidy said
  · exact verdictOnType?_supported tidy said

theorem ancestorVerdict?_supported (tidy : cache.shelf.Tidy) {now : Nat} {least : Credibility}
    {name above : Name} {type : RecordType} (visited : above ∈ ancestorsOf name)
    {outcome : Outcome}
    (said : ancestorVerdict? (cache.visit now above).2 least = some outcome) :
    cache.Supports now least name type outcome := by
  rcases Option.or_eq_some_iff.mp said with redirection | ⟨_, cut⟩
  · obtain ⟨set, found, rfl⟩ := Option.map_eq_some_iff.mp redirection
    exact ⟨above, visited, offers_of_usable? tidy found⟩
  · exact zoneCut?_supported tidy (List.mem_cons_of_mem _ visited) cut

/-- A faded cache supports the same outcomes. -/
theorem Fades.supports {now : Nat} {before after : Cache} (fades : Fades now before after)
    {least : Credibility} {name : Name} {type : RecordType} {outcome : Outcome} :
    after.Supports now least name type outcome ↔ before.Supports now least name type outcome := by
  cases outcome <;> simp only [Supports, fades.offers]

/-- The ancestors of a name that are visited say what is supported, and the cache fades. -/
theorem searchAncestors_spec (tidy : cache.shelf.Tidy) (now : Nat) (least : Credibility)
    (name : Name) (type : RecordType) (names : List Name)
    (above : ∀ level ∈ names, level ∈ ancestorsOf name) :
    Fades now cache (cache.searchAncestors now least names).2 ∧
      cache.Supports now least name type (cache.searchAncestors now least names).1 := by
  induction names generalizing cache with
  | nil => exact ⟨Fades.refl tidy, trivial⟩
  | cons level rest inductionHypothesis =>
    have fades := visit_fades tidy now level
    unfold searchAncestors
    dsimp only
    split
    · rename_i outcome said
      exact ⟨fades, ancestorVerdict?_supported tidy (above level List.mem_cons_self) said⟩
    · obtain ⟨later, supported⟩ := inductionHypothesis fades.tidy fun other member =>
        above other (List.mem_cons_of_mem _ member)
      exact ⟨fades.trans later, fades.supports.mp supported⟩

/-- A lookup leaves a faded cache, and its outcome is supported. -/
theorem lookup_spec (tidy : cache.shelf.Tidy) (now : Nat) (name : Name) (type : RecordType)
    (least : Credibility) :
    Fades now cache (cache.lookup now name type least).2 ∧
      cache.Supports now least name.toAbsolute type (cache.lookup now name type least).1 := by
  have used := promote_fades tidy now name.toAbsolute
  have fades := used.trans (visit_fades used.tidy now name.toAbsolute)
  unfold lookup search
  dsimp only
  split
  · rename_i outcome said
    exact ⟨fades.withMetrics _, used.supports.mp (exactVerdict?_supported used.tidy said)⟩
  · obtain ⟨later, supported⟩ := searchAncestors_spec fades.tidy now least name.toAbsolute type
      (ancestorsOf name.toAbsolute) fun _ member => member
    exact ⟨(fades.trans later).withMetrics _, fades.supports.mp supported⟩

/-- Every set that a lookup gives out is offered in some place. -/
theorem offers_of_mem_lookup (tidy : cache.shelf.Tidy) {now : Nat} {name : Name}
    {type : RecordType} {least : Credibility} {set : RRset}
    (given : set ∈ (cache.lookup now name type least).1.sets) :
    ∃ level key, cache.Offers now least level key set := by
  have supported := (lookup_spec tidy now name type least).2
  cases outcome : (cache.lookup now name type least).1 with
  | successful sets =>
    rw [outcome] at given supported
    obtain ⟨key, offers, _⟩ := supported set given
    exact ⟨_, key, offers⟩
  | cname only =>
    rw [outcome] at given supported
    exact ⟨_, _, List.mem_singleton.mp given ▸ supported⟩
  | dname only =>
    rw [outcome] at given supported
    obtain ⟨above, _, offers⟩ := supported
    exact ⟨_, _, List.mem_singleton.mp given ▸ offers⟩
  | delegation only =>
    rw [outcome] at given supported
    obtain ⟨level, _, offers⟩ := supported
    exact ⟨_, _, List.mem_singleton.mp given ▸ offers⟩
  | _ =>
    rw [outcome] at given
    cases given

/-- A set that is offered for the name and type of a question is the answer to it. -/
theorem lookup_of_offers (tidy : cache.shelf.Tidy) {now : Nat} {name : Name} {type : RecordType}
    {least : Credibility} {set : RRset} (single : type ≠ .any)
    (offers : cache.Offers now least name.toAbsolute (.type type) set) :
    (cache.lookup now name type least).1 = .single set := by
  have used := promote_fades tidy now name.toAbsolute
  obtain ⟨entry, alive, credible, isSet⟩ := used.offers.mpr offers
  have usable : (Cache.visit { cache with shelf := cache.shelf.promote name.toAbsolute } now
      name.toAbsolute).2.usable? least (.type type) = some entry := by
    unfold Entries.usable?
    rw [get?_visit used.tidy, alive, Option.filter_some, decide_eq_true credible, if_pos rfl]
  unfold lookup search
  dsimp only
  rw [exactVerdict?, if_neg single, verdictOnType?, usable]
  dsimp only
  rw [isSet]

end Cache

end StubResolver
