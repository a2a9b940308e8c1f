/-
This file proves that the case of letters cannot be observed in a cache. Take two runs of the same
calls and sweeps at the same times, which differ only in the case of the letters in names, wherever
the names stand: as owners, in questions, in the data of records. In the names that callers give,
they may also differ in the dot at the end, since a cache takes those names as absolute. Then every
call and every sweep gives the same but for the case of letters, and after each of them the two
caches hold the same names with the same entries but for the case of letters, in the same order.

That two events differ in no more than this is said by giving both a plain form, in which all names
are in lower case and those that callers give have the dot. The plain form does to a cache in lower
case what the event does to the cache itself, and so events of one plain form do the same.
-/

import StubResolver.Proofs.Cache.Sweeping
import StubResolver.Proofs.LetterCase.Caches

namespace StubResolver

/-! ### Names with the dot at the end -/

namespace RRset

/-- A set whose owner has the dot at the end, and so have the owners of all its records. -/
def dotted (set : RRset) : RRset :=
  { set with
    name := set.name.toAbsolute
    records := set.records.map Cache.kept
    signatures := set.signatures.map Cache.kept }

/-- What a cache makes of a set that it is given is the set with the dot, but for the case of
letters: it writes the owner of the set over those of the records. -/
theorem toAbsolute_lowered_eq_dotted {set : RRset} (coherent : set.Coherent) :
    set.toAbsolute.lowered = set.dotted.lowered := by
  have owned (record : Record) (member : record ∈ set.all) : record.name ≈ set.name :=
    ((accepts_iff set record).mp (coherent.belong record member)).1
  have dot (records : List Record) (part : ∀ record ∈ records, record ∈ set.all) :
      (records.map (Record.renamed · set.name.toAbsolute)).map Record.lowered =
        (records.map Cache.kept).map Record.lowered := by
    rw [List.map_map, List.map_map]
    refine List.map_congr_left fun record member => ?_
    have owner : set.name.lowered.toAbsolute = record.name.lowered.toAbsolute :=
      congrArg Name.toAbsolute
        ((Name.equiv_iff_lowered _ _).mp (Setoid.symm (owned record (part record member))))
    show { record with name := set.name.lowered.toAbsolute, data := record.data.lowered } = _
    rw [owner]
    rfl
  cases absolute : set.name.absolute with
  | true =>
    have already (records : List Record) (part : ∀ record ∈ records, record ∈ set.all) :
        records.map Cache.kept = records := by
      refine (List.map_congr_left fun record member => ?_).trans (List.map_id _)
      have isAbsolute : record.name.absolute = true :=
        (Name.absolute_of_equiv (owned record (part record member))).trans absolute
      unfold Cache.kept
      rw [Name.toAbsolute_of_absolute _ isAbsolute]
      rfl
    rw [toAbsolute_of_absolute absolute]
    unfold dotted
    rw [Name.toAbsolute_of_absolute _ absolute, already _ fun _ => List.mem_append_left _,
      already _ fun _ => List.mem_append_right _]
  | false =>
    rw [toAbsolute_of_relative coherent absolute]
    unfold lowered dotted
    rw [dot _ fun _ => List.mem_append_left _, dot _ fun _ => List.mem_append_right _]

end RRset

namespace Cache

/-! ### Additions of what has the dot -/

section

variable (cache : Cache) (now : Nat) (credibility : Credibility)

/-- A cache adds the same of a set in plain form as of the set. -/
theorem addSet_plain {set : RRset} (coherent : set.Coherent) :
    cache.lowered.addSet now set.dotted.lowered credibility =
      (cache.addSet now set credibility).map lowered := by
  have dots : set.dotted.lowered.toAbsolute = set.lowered.toAbsolute :=
    calc
      set.dotted.lowered.toAbsolute = set.dotted.lowered := RRset.toAbsolute_of_absolute rfl
      _ = set.toAbsolute.lowered := (RRset.toAbsolute_lowered_eq_dotted coherent).symm
      _ = set.lowered.toAbsolute := (RRset.toAbsolute_lowered set).symm
  rw [← addSet_lowered]
  unfold addSet
  rw [dots]
  rfl

/-- A cache adds the same absence, whether the name has the dot, and whether the record that attests
it does. -/
theorem addAbsence_plain (name : Name) (key : EntryKey) (zoneStart : Option Record) :
    cache.lowered.addAbsence now name.toAbsolute.lowered key
        ((zoneStart.map kept).map Record.lowered) credibility =
      (cache.addAbsence now name key zoneStart credibility).map lowered := by
  rw [addAbsence_lowered]
  -- nothing is kept of the owner of that record
  cases zoneStart <;> rfl

end

/-! ### Calls in plain form -/

/-- A call with all names in lower case, and with the dot at the end of those that callers give: the
owners of what is added, and the names that are looked up or dropped. -/
def Call.plain : Call → Call
  | addRecord record credibility => addRecord (kept record).lowered credibility
  | addSet set credibility => addSet set.dotted.lowered credibility
  | addAbsence name key zoneStart credibility =>
    addAbsence name.toAbsolute.lowered key ((zoneStart.map kept).map Record.lowered) credibility
  | ingest message => ingest message.lowered
  | lookup name type least => lookup name.toAbsolute.lowered type least
  | findRecords name type => findRecords name.toAbsolute.lowered type
  | findAnyRecords name type => findAnyRecords name.toAbsolute.lowered type
  | flushName name => flushName name.toAbsolute.lowered
  | flushEntry name key => flushEntry name.toAbsolute.lowered key
  | clear => clear

/-- What a caller gets back, with the capitals of all names lowered. -/
def Reply.lowered : Reply → Reply
  | learned ingested => learned (ingested.map Ingested.lowered)
  | found outcome => found outcome.lowered
  | records sets => records (sets.map (List.map RRset.lowered))
  | reply => reply

/-- An addition that comes to the same in a cache in lower case gives the caller the same, and
leaves the same. -/
theorem added_plain {mistake : Type} (reply : Except mistake Unit → Reply)
    (same : ∀ result, (reply result).lowered = reply result) (cache : Cache)
    (result : Except mistake Cache) :
    (reply ((result.map lowered).map fun _ => ()),
        (result.map lowered).toOption.getD cache.lowered) =
      (reply (result.map fun _ => ()), result.toOption.getD cache).map Reply.lowered lowered := by
  rw [Prod.map_apply, same]
  cases result <;> rfl

/-- A call in plain form does to a cache in lower case what the call does to the cache. -/
theorem Call.perform_plain (call : Call) (coherent : call.operation.Coherent) (now : Nat)
    (cache : Cache) :
    call.plain.perform now cache.lowered = (call.perform now cache).map Reply.lowered lowered := by
  cases call with
  | addRecord record credibility =>
    have added : cache.lowered.addRecord now (kept record).lowered credibility =
        (cache.addRecord now record credibility).map lowered := addRecord_lowered cache now _ _
    show (Reply.added ((cache.lowered.addRecord now (kept record).lowered credibility).map _),
      (cache.lowered.addRecord now (kept record).lowered credibility).toOption.getD _) = _
    rw [added]
    exact added_plain Reply.added (fun _ => rfl) cache _
  | addSet set credibility =>
    show (Reply.added ((cache.lowered.addSet now set.dotted.lowered credibility).map _),
      (cache.lowered.addSet now set.dotted.lowered credibility).toOption.getD _) = _
    rw [addSet_plain cache now credibility coherent]
    exact added_plain Reply.added (fun _ => rfl) cache _
  | addAbsence name key zoneStart credibility =>
    show (Reply.denied ((cache.lowered.addAbsence now name.toAbsolute.lowered key
        ((zoneStart.map kept).map Record.lowered) credibility).map _),
      (cache.lowered.addAbsence now name.toAbsolute.lowered key
        ((zoneStart.map kept).map Record.lowered) credibility).toOption.getD _) = _
    rw [addAbsence_plain]
    exact added_plain Reply.denied (fun _ => rfl) cache _
  | ingest message =>
    show (Reply.learned (cache.lowered.ingestResponse now message.lowered).1,
      (cache.lowered.ingestResponse now message.lowered).2) = _
    rw [ingestResponse_lowered]
    rfl
  | lookup name type least =>
    show (Reply.found (cache.lowered.lookup now name.toAbsolute.lowered type least).1,
      (cache.lowered.lookup now name.toAbsolute.lowered type least).2) = _
    rw [lookup_lowered]
    rfl
  | findRecords name type =>
    show (Reply.records (cache.lowered.findSets? now name.toAbsolute.lowered type .normal).1,
      (cache.lowered.findSets? now name.toAbsolute.lowered type .normal).2) = _
    rw [findSets?_lowered]
    rfl
  | findAnyRecords name type =>
    show (Reply.records (cache.lowered.findSets? now name.toAbsolute.lowered type .glue).1,
      (cache.lowered.findSets? now name.toAbsolute.lowered type .glue).2) = _
    rw [findSets?_lowered]
    rfl
  | flushName name => exact congrArg (Reply.done, ·) (flushName_lowered cache name.toAbsolute)
  | flushEntry name key =>
    exact congrArg (Reply.done, ·) (flushEntry_lowered cache name.toAbsolute key)
  | clear => exact congrArg (Reply.done, ·) (clear_lowered cache)

/-! ### Runs in plain form -/

/-- What an event gives: the reply to a call, how many entries were swept away, or the report of a
sweep of the whole cache. -/
inductive Answer where
  | reply (reply : Reply)
  | removed (count : Nat)
  | report (report : SweepReport)

/-- What an event gives, with the capitals of all names lowered. -/
def Answer.lowered : Answer → Answer
  | reply given => reply given.lowered
  | answer => answer

namespace Event

/-- What an event gives and leaves. -/
def perform : Event → Nat → Cache → Answer × Cache
  | call request, now, cache => (request.perform now cache).map Answer.reply id
  | sweepNames names, now, cache => (cache.sweepNames now names).map Answer.removed id
  | sweep, now, cache => (cache.sweep now).map Answer.report id

/-- An event with its call in plain form, or with all names in lower case. -/
def plain : Event → Event
  | call request => call request.plain
  | sweepNames names => sweepNames (names.map Name.lowered)
  | sweep => sweep

/-- An event in plain form does to a cache in lower case what the event does to the cache. -/
theorem perform_plain (event : Event) (coherent : event.operation.Coherent) (now : Nat)
    (cache : Cache) :
    event.plain.perform now cache.lowered =
      (event.perform now cache).map Answer.lowered lowered := by
  cases event with
  | call request =>
    exact congrArg (Prod.map Answer.reply id) (request.perform_plain coherent now cache)
  | sweepNames names =>
    exact congrArg (Prod.map Answer.removed id) (sweepNames_lowered cache now names)
  | sweep => exact congrArg (Prod.map Answer.report id) (sweep_lowered cache now)

end Event

/-- What each of some events gives and the cache that it leaves, one event after the other. -/
def trace : List (Nat × Event) → Cache → List (Answer × Cache)
  | [], _ => []
  | (now, event) :: rest, cache =>
    event.perform now cache :: trace rest (event.perform now cache).2

/-- Events with their times, in plain form. -/
def plainly (events : List (Nat × Event)) : List (Nat × Event) :=
  events.map (Prod.map id Event.plain)

/-- A run in plain form, from a cache in lower case, goes as the run itself. -/
theorem trace_plainly (events : List (Nat × Event))
    (coherent : ∀ event ∈ events, event.2.operation.Coherent) (cache : Cache) :
    trace (plainly events) cache.lowered =
      (trace events cache).map (Prod.map Answer.lowered lowered) := by
  induction events generalizing cache with
  | nil => rfl
  | cons timed rest inductionHypothesis =>
    obtain ⟨now, event⟩ := timed
    have here := event.perform_plain (coherent _ List.mem_cons_self) now cache
    show event.plain.perform now cache.lowered ::
        trace (plainly rest) (event.plain.perform now cache.lowered).2 = _
    rw [here]
    exact congrArg (_ :: ·) (inductionHypothesis
      (fun other later => coherent other (List.mem_cons_of_mem _ later)) _)

/-- Let the events of two runs differ only in the case of letters, and in the dot at the end of the
names that callers give, and let each happen at the same time as its counterpart. From caches that
differ only in the case of letters, each event then gives the same as its counterpart and leaves the
same cache, but for the case of letters. -/
theorem letterCase_unobservable {first second : List (Nat × Event)}
    (firstCoherent : ∀ event ∈ first, event.2.operation.Coherent)
    (secondCoherent : ∀ event ∈ second, event.2.operation.Coherent)
    (alike : plainly first = plainly second) {cache other : Cache}
    (same : cache.lowered = other.lowered) :
    (trace first cache).map (Prod.map Answer.lowered lowered) =
      (trace second other).map (Prod.map Answer.lowered lowered) :=
  calc
    (trace first cache).map (Prod.map Answer.lowered lowered) =
        trace (plainly first) cache.lowered := (trace_plainly first firstCoherent cache).symm
    _ = trace (plainly second) other.lowered := by rw [alike, same]
    _ = (trace second other).map (Prod.map Answer.lowered lowered) :=
      trace_plainly second secondCoherent other

/-- An alias is added, its owner is asked for an address, and the alias is swept away when it has
expired. -/
def aliasRun (owner asked target : Name) : List (Nat × Event) :=
  [(1000, .call (.addSet (RRset.ofRecord ⟨owner, .inet, 60, .cname target⟩) .normal)),
    (1030, .call (.lookup asked .a .normal)),
    (1060, .sweepNames [asked.toAbsolute])]

/-- The name `w.` stands for `x.`, and is asked for as `W` without the dot. -/
def softRun : List (Nat × Event) :=
  aliasRun (Name.ofOctets [0x77]) { Name.ofOctets [0x57] with absolute := false }
    (Name.ofOctets [0x78])

/-- The name `W`, without the dot, stands for `X.`, and is asked for as `w.`. -/
def loudRun : List (Nat × Event) :=
  aliasRun { Name.ofOctets [0x57] with absolute := false } (Name.ofOctets [0x77])
    (Name.ofOctets [0x58])

/-- In both runs the alias is found, and swept away in the end. -/
theorem softRun_like_loudRun :
    (trace softRun (Cache.new .inet ⟨0, none, 3600⟩)).map (Prod.map Answer.lowered lowered) =
        (trace loudRun (Cache.new .inet ⟨0, none, 3600⟩)).map
          (Prod.map Answer.lowered lowered) ∧
      (trace softRun (Cache.new .inet ⟨0, none, 3600⟩)).map Prod.fst =
        [.reply (.added (.ok ())),
          .reply (.found (.cname (RRset.ofRecord
            ⟨Name.ofOctets [0x77], .inet, 60, .cname (Name.ofOctets [0x78])⟩))),
          .removed 1] := by
  have coherent (owner asked target : Name) :
      ∀ event ∈ aliasRun owner asked target, event.2.operation.Coherent := by
    simp [aliasRun, Event.operation, Call.operation, Operation.Coherent, RRset.ofRecord_coherent]
  have softCoherent : ∀ event ∈ softRun, event.2.operation.Coherent := coherent _ _ _
  have loudCoherent : ∀ event ∈ loudRun, event.2.operation.Coherent := coherent _ _ _
  exact ⟨letterCase_unobservable softCoherent loudCoherent rfl rfl, rfl⟩

end Cache

end StubResolver
