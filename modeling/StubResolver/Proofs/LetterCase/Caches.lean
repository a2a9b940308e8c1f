/-
This file proves that a cache takes no notice of the case of letters, in any of its operations. Each
does to a cache in lower case, when it is asked in lower case, what it does to the cache itself, but
for the case of letters; and what it reports is the same but for the case of letters, too.

The counters are the same altogether, since nothing that is counted depends on case.
-/

import StubResolver.Cache.Ingest
import StubResolver.Cache.Lookup
import StubResolver.Cache.Sweep
import StubResolver.Proofs.Cache.Store
import StubResolver.Proofs.LetterCase.Digests
import StubResolver.Proofs.LetterCase.Shelves

namespace StubResolver

namespace Cache

/-- A cache with the capitals of all names lowered. -/
def lowered (cache : Cache) : Cache := { cache with shelf := cache.shelf.lowered }

@[simp] theorem kept_lowered (record : Record) : kept record.lowered = (kept record).lowered := rfl

variable (cache : Cache) (now : Nat) (name : Name) (key : EntryKey) (credibility : Credibility)

@[simp] theorem lowered_shelf : cache.lowered.shelf = cache.shelf.lowered := rfl

@[simp] theorem lowered_limits : cache.lowered.limits = cache.limits := rfl

@[simp] theorem entryAt?_lowered :
    cache.lowered.entryAt? name.lowered key = (cache.entryAt? name key).map Entry.lowered :=
  Shelf.entryAt?_lowered cache.shelf name key

@[simp] theorem size_lowered : cache.lowered.size = cache.size := Shelf.length_lowered cache.shelf

/-! ### Additions -/

@[simp] theorem dropExpired_lowered :
    cache.lowered.dropExpired now name.lowered key =
      (cache.dropExpired now name key).lowered := by
  unfold dropExpired
  rw [entryAt?_lowered]
  cases cache.entryAt? name key with
  | none => rfl
  | some entry =>
    by_cases expired : entry.isExpired now = true
    · simp [expired, lowered]
    · simp [expired]

@[simp] theorem outranks_lowered :
    cache.lowered.outranks name.lowered key credibility = cache.outranks name key credibility := by
  unfold outranks
  rw [entryAt?_lowered]
  cases cache.entryAt? name key <;> rfl

@[simp] theorem displace_lowered :
    cache.lowered.displace name.lowered key credibility =
      (cache.displace name key credibility).lowered := by
  unfold displace
  rw [entryAt?_lowered]
  cases cache.entryAt? name key with
  | none => rfl
  | some entry =>
    by_cases displaced : entry.credibility ≤ credibility
    · simp [displaced, lowered]
    · simp [displaced]

@[simp] theorem install_lowered (entry : Entry) :
    cache.lowered.install name.lowered key entry.lowered =
      (cache.install name key entry).lowered := by
  simp [install, lowered]

@[simp] theorem settle_lowered (fresh : Option Entry) :
    cache.lowered.settle name.lowered key credibility (fresh.map Entry.lowered) =
      (cache.settle name key credibility fresh).lowered := by
  cases fresh with
  | none => exact displace_lowered cache name key credibility
  | some entry => simp [settle, apply_ite lowered]

@[simp] theorem entryOfSet?_lowered (limits : CacheLimits) (set : RRset) :
    entryOfSet? limits now set.lowered credibility =
      (entryOfSet? limits now set credibility).map Entry.lowered := by
  simp [entryOfSet?, apply_ite (Option.map Entry.lowered)]

@[simp] theorem entryOfAbsence?_lowered (limits : CacheLimits) (zoneStart : Option Record) :
    entryOfAbsence? limits now (zoneStart.map Record.lowered) credibility =
      (entryOfAbsence? limits now zoneStart credibility).map Entry.lowered := by
  cases zoneStart with
  | none => rfl
  | some record => simp [entryOfAbsence?, apply_ite (Option.map Entry.lowered)]

@[simp] theorem storeSet_lowered (set : RRset) :
    cache.lowered.storeSet now set.lowered credibility =
      (cache.storeSet now set credibility).lowered := by
  rw [storeSet_eq, storeSet_eq, ← settle_lowered]
  simp

@[simp] theorem storeAbsence_lowered (zoneStart : Option Record) :
    cache.lowered.storeAbsence now name.lowered key (zoneStart.map Record.lowered) credibility =
      (cache.storeAbsence now name key zoneStart credibility).lowered := by
  rw [storeAbsence_eq, storeAbsence_eq, ← settle_lowered]
  simp

theorem Entry.joined_lowered (entry : Entry) (record : Record) :
    entry.lowered.joined record.lowered = (entry.joined record).lowered := by
  obtain ⟨data, credibility, expiresAt⟩ := entry
  cases data with
  | negative => rfl
  | positive set => simp [joined, lowered, EntryData.lowered, apply_ite RRset.lowered]

@[simp] theorem joinSet_lowered (record : Record) :
    cache.lowered.joinSet name.lowered key record.lowered =
      (cache.joinSet name key record).lowered := by
  have joined (entries : Entries) :
      (entries.lowered.map fun slot =>
          if slot.1 = key then (slot.1, slot.2.joined record.lowered) else slot) =
        Entries.lowered (entries.map fun slot =>
          if slot.1 = key then (slot.1, slot.2.joined record) else slot) := by
    simp only [Entries.lowered, List.map_map]
    congr 1
    funext slot
    by_cases there : slot.1 = key
    · simp [there, Entry.joined_lowered]
    · simp [there]
  rw [joinSet_eq, joinSet_eq]
  exact congrArg (fun shelf => { cache with shelf := shelf })
    (Shelf.reshape_lowered cache.shelf name joined)

@[simp] theorem addToStanding_lowered (record : Record) :
    cache.lowered.addToStanding now record.lowered credibility =
      (cache.addToStanding now record credibility).lowered := by
  have stored := storeSet_lowered cache now credibility (RRset.ofRecord record)
  unfold addToStanding
  rw [← RRset.ofRecord_lowered] at stored
  rw [Record.lowered_name, Record.setType_lowered, entryAt?_lowered, stored]
  cases cache.entryAt? record.name (.type record.setType) with
  | none => rfl
  | some entry => simp [apply_ite lowered]

@[simp] theorem addRecord_lowered (record : Record) :
    cache.lowered.addRecord now record.lowered credibility =
      (cache.addRecord now record credibility).map lowered := by
  cases isMeta : record.setType.isMeta with
  | true => simp [addRecord, isMeta, Except.map]
  | false =>
    rw [addRecord_eq _ now record credibility isMeta,
      addRecord_eq _ now record.lowered credibility (by simpa using isMeta)]
    simp [Except.map]

@[simp] theorem addSet_lowered (set : RRset) :
    cache.lowered.addSet now set.lowered credibility =
      (cache.addSet now set credibility).map lowered := by
  cases isMeta : set.type.isMeta with
  | true => simp [addSet, isMeta, Except.map]
  | false => simp [addSet, isMeta, Except.map]

@[simp] theorem addAbsence_lowered (zoneStart : Option Record) :
    cache.lowered.addAbsence now name.lowered key (zoneStart.map Record.lowered) credibility =
      (cache.addAbsence now name key zoneStart credibility).map lowered := by
  by_cases all : key = .type .any
  · simp [addAbsence, all, Except.map]
  · simp [addAbsence, all, Except.map]

/-! ### Responses -/

@[simp] theorem write_lowered (write : Write) :
    cache.lowered.write now write.lowered = (cache.write now write).lowered := by
  cases write with
  | set set credibility => exact storeSet_lowered cache now credibility set
  | absence name key zoneStart credibility =>
    exact storeAbsence_lowered cache now name key credibility zoneStart

@[simp] theorem writeAll_lowered (writes : List Write) :
    cache.lowered.writeAll now (writes.map Write.lowered) =
      (cache.writeAll now writes).lowered := by
  induction writes generalizing cache with
  | nil => rfl
  | cons write rest inductionHypothesis =>
    unfold writeAll at inductionHypothesis ⊢
    rw [List.map_cons, List.foldl_cons, List.foldl_cons, write_lowered, inductionHypothesis]

/-- A cache learns the same of a response, whatever the case of letters. -/
@[simp] theorem ingestResponse_lowered (message : Message) :
    cache.lowered.ingestResponse now message.lowered =
      (cache.ingestResponse now message).map (Option.map Ingested.lowered) lowered := by
  unfold ingestResponse
  rw [digest?_lowered]
  cases digest? message with
  | none => rfl
  | some digest => exact congrArg (some digest.ingested.lowered, ·) (writeAll_lowered cache now _)

/-! ### Dropping -/

@[simp] theorem flushName_lowered :
    cache.lowered.flushName name.lowered = (cache.flushName name).lowered := by
  simp [flushName, lowered]

@[simp] theorem flushEntry_lowered :
    cache.lowered.flushEntry name.lowered key = (cache.flushEntry name key).lowered := by
  simp [flushEntry, lowered]

@[simp] theorem clear_lowered : cache.lowered.clear = cache.clear.lowered := rfl

/-! ### Lookups -/

section

variable (entries : Entries) (least : Credibility) (type : RecordType)

@[simp] theorem zoneCut?_lowered :
    zoneCut? entries.lowered least = (zoneCut? entries least).map Outcome.lowered := by
  simp [zoneCut?, Function.comp_def, Outcome.lowered]

@[simp] theorem absence?_lowered :
    absence? entries.lowered least = (absence? entries least).map Outcome.lowered := by
  simp [absence?, Function.comp_def, Outcome.lowered]

theorem verdictOnType?_lowered :
    verdictOnType? entries.lowered least type =
      (verdictOnType? entries least type).map Outcome.lowered := by
  unfold verdictOnType?
  rw [Entries.usable?_lowered]
  cases entries.usable? least (.type type) with
  | some entry =>
    simp only [Option.map_some, Entry.set?_lowered]
    cases entry.set? <;> rfl
  | none => simp [Option.map_or, Function.comp_def, Outcome.lowered]

theorem verdictOnAll?_lowered :
    verdictOnAll? entries.lowered least =
      (verdictOnAll? entries least).map Outcome.lowered := by
  unfold verdictOnAll?
  rw [Entries.usableSets_lowered]
  cases entries.usableSets least with
  | nil => simp [Option.map_or]
  | cons set rest => rfl

@[simp] theorem exactVerdict?_lowered :
    exactVerdict? entries.lowered least type =
      (exactVerdict? entries least type).map Outcome.lowered := by
  unfold exactVerdict?
  rw [apply_ite (Option.map Outcome.lowered), verdictOnAll?_lowered, verdictOnType?_lowered]

@[simp] theorem ancestorVerdict?_lowered :
    ancestorVerdict? entries.lowered least =
      (ancestorVerdict? entries least).map Outcome.lowered := by
  simp [ancestorVerdict?, Option.map_or, Function.comp_def, Outcome.lowered]

end

@[simp] theorem ancestorsOf_lowered :
    ancestorsOf name.lowered = (ancestorsOf name).map Name.lowered := by
  simp [ancestorsOf, Function.comp_def]

theorem reshape_live_lowered :
    cache.shelf.lowered.reshape name.lowered (fun entries => entries.live now) =
      (cache.shelf.reshape name fun entries => entries.live now).lowered :=
  Shelf.reshape_lowered cache.shelf name fun entries => entries.live_lowered now

@[simp] theorem visit_lowered :
    cache.lowered.visit now name.lowered = (cache.visit now name).map lowered Entries.lowered := by
  unfold visit
  rw [lowered_shelf, Shelf.slot?_lowered]
  cases cache.shelf.slot? name with
  | none => rfl
  | some slot => simp [reshape_live_lowered, lowered]

@[simp] theorem searchAncestors_lowered (least : Credibility) (names : List Name) :
    cache.lowered.searchAncestors now least (names.map Name.lowered) =
      (cache.searchAncestors now least names).map Outcome.lowered lowered := by
  induction names generalizing cache with
  | nil => rfl
  | cons name rest inductionHypothesis =>
    rw [List.map_cons]
    unfold searchAncestors
    rw [visit_lowered]
    obtain ⟨visited, entries⟩ := cache.visit now name
    simp only [Prod.map_apply, ancestorVerdict?_lowered]
    cases ancestorVerdict? entries least with
    | some outcome => rfl
    | none => exact inductionHypothesis visited

/-- A search finds the same, whatever the case of letters. -/
@[simp] theorem search_lowered (type : RecordType) (least : Credibility) :
    cache.lowered.search now name.lowered type least =
      (cache.search now name type least).map Outcome.lowered lowered := by
  have used : { cache.lowered with shelf := cache.lowered.shelf.promote name.lowered } =
      lowered { cache with shelf := cache.shelf.promote name } := by
    simp [lowered]
  unfold search
  dsimp only
  rw [used, visit_lowered]
  obtain ⟨visited, entries⟩ := visit { cache with shelf := cache.shelf.promote name } now name
  simp only [Prod.map_apply, exactVerdict?_lowered, ancestorsOf_lowered, searchAncestors_lowered]
  cases exactVerdict? entries least type <;> rfl

@[simp] theorem lookup_lowered (type : RecordType) (least : Credibility) :
    cache.lowered.lookup now name.lowered type least =
      (cache.lookup now name type least).map Outcome.lowered lowered := by
  unfold lookup
  rw [Name.toAbsolute_lowered, search_lowered]
  obtain ⟨outcome, searched⟩ := cache.search now name.toAbsolute type least
  simp [Metrics.countLookup, lowered]

@[simp] theorem findSets?_lowered (type : RecordType) (least : Credibility) :
    cache.lowered.findSets? now name.lowered type least =
      (cache.findSets? now name type least).map (Option.map (List.map RRset.lowered)) lowered := by
  unfold findSets?
  rw [lookup_lowered]
  obtain ⟨outcome, searched⟩ := cache.lookup now name type least
  cases outcome <;> rfl

/-! ### Sweeps -/

@[simp] theorem names_lowered : cache.lowered.names = cache.names.map Name.lowered := by
  simp [names, Shelf.lowered, Function.comp_def]

@[simp] theorem sweepName_lowered :
    cache.lowered.sweepName now name.lowered = (cache.sweepName now name).map id lowered := by
  unfold sweepName
  rw [lowered_shelf, Shelf.slot?_lowered]
  cases cache.shelf.slot? name with
  | none => rfl
  | some slot => simp [reshape_live_lowered, lowered]

@[simp] theorem sweepNames_lowered (names : List Name) :
    cache.lowered.sweepNames now (names.map Name.lowered) =
      (cache.sweepNames now names).map id lowered := by
  induction names generalizing cache with
  | nil => rfl
  | cons name rest inductionHypothesis =>
    unfold sweepNames
    simp [inductionHypothesis]

theorem batches_lowered (names : List Name) :
    batches (names.map Name.lowered) = (batches names).map (List.map Name.lowered) := by
  induction names using batches.induct with
  | case1 names empty =>
    rw [List.isEmpty_iff.mp empty, List.map_nil, batches]
    rfl
  | case2 names filled inductionHypothesis =>
    unfold batches
    rw [List.isEmpty_map, if_neg filled, if_neg filled, List.map_cons, List.map_take,
      ← inductionHypothesis, List.map_drop]

@[simp] theorem sweepBatches_lowered (batches : List (List Name)) :
    cache.lowered.sweepBatches now (batches.map (List.map Name.lowered)) =
      (cache.sweepBatches now batches).map id lowered := by
  induction batches generalizing cache with
  | nil => rfl
  | cons batch rest inductionHypothesis =>
    unfold sweepBatches
    simp [inductionHypothesis]

@[simp] theorem countSweep_lowered (removed : Nat) :
    cache.lowered.countSweep removed = (cache.countSweep removed).lowered := rfl

/-- A sweep drops as much, whatever the case of letters. -/
@[simp] theorem sweep_lowered : cache.lowered.sweep now = (cache.sweep now).map id lowered := by
  unfold sweep
  simp [batches_lowered]

end Cache

end StubResolver
