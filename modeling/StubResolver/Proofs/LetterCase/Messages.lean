/-
This file carries lowering from names to all that names stand in: records, sets, messages and
outcomes. Lowering a record is not the same as taking its identity, since it keeps the lifetime;
two records with one lowered form agree in all but the case of letters.

How sets are put together takes no notice of case. A set accepts the same records, drops the same
ones as already present, and has the same lifetime. The sets of a lowered message are the lowered
sets of the message, in the same order.
-/

import StubResolver.Outcome
import StubResolver.Proofs.LetterCase.Names
import StubResolver.Proofs.RRset

namespace StubResolver

/-! ### Data -/

namespace RecordData

@[simp] theorem lowered_lowered (data : RecordData) : data.lowered.lowered = data.lowered := by
  cases data <;> simp [lowered, ZoneStart.lowered]

@[simp] theorem aliasTarget?_lowered (data : RecordData) :
    data.lowered.aliasTarget? = data.aliasTarget?.map Name.lowered := by
  cases data <;> rfl

@[simp] theorem additionalName?_lowered (data : RecordData) :
    data.lowered.additionalName? = data.additionalName?.map Name.lowered := by
  cases data <;> rfl

@[simp] theorem minimum?_lowered (data : RecordData) : data.lowered.minimum? = data.minimum? := by
  cases data <;> rfl

end RecordData

/-! ### Records -/

namespace Record

/-- A record with the capitals of its names lowered. It keeps its lifetime. -/
def lowered (record : Record) : Record :=
  { record with name := record.name.lowered, data := record.data.lowered }

variable (record : Record)

@[simp] theorem lowered_name : record.lowered.name = record.name.lowered := rfl

@[simp] theorem lowered_recordClass : record.lowered.recordClass = record.recordClass := rfl

@[simp] theorem lowered_ttl : record.lowered.ttl = record.ttl := rfl

@[simp] theorem lowered_data : record.lowered.data = record.data.lowered := rfl

@[simp] theorem type_lowered : record.lowered.type = record.type := by simp [type]

@[simp] theorem setType_lowered : record.lowered.setType = record.setType := by simp [setType]

@[simp] theorem isSignature_lowered : record.lowered.isSignature = record.isSignature := by
  simp [isSignature]

/-- Lowering makes no other record of a record. -/
@[simp] theorem identity_lowered : record.lowered.identity = record.identity := by
  simp [identity]

end Record

/-! ### Sets -/

namespace RRset

/-- A set with the capitals of all names lowered. -/
def lowered (set : RRset) : RRset :=
  { set with
    name := set.name.lowered
    records := set.records.map Record.lowered
    signatures := set.signatures.map Record.lowered }

variable (set : RRset)

@[simp] theorem lowered_name : set.lowered.name = set.name.lowered := rfl

@[simp] theorem lowered_type : set.lowered.type = set.type := rfl

@[simp] theorem lowered_recordClass : set.lowered.recordClass = set.recordClass := rfl

@[simp] theorem lowered_records : set.lowered.records = set.records.map Record.lowered := rfl

@[simp] theorem lowered_signatures :
    set.lowered.signatures = set.signatures.map Record.lowered := rfl

@[simp] theorem all_lowered : set.lowered.all = set.all.map Record.lowered := by simp [all]

@[simp] theorem accepts_lowered (record : Record) :
    set.lowered.accepts record.lowered = set.accepts record := by
  simp [accepts]

@[simp] theorem addUnlessPresent_lowered (records : List Record) (record : Record) :
    addUnlessPresent (records.map Record.lowered) record.lowered =
      (addUnlessPresent records record).map Record.lowered := by
  unfold addUnlessPresent
  simp [List.any_map, Function.comp_def, apply_ite (List.map Record.lowered)]

@[simp] theorem insert_lowered (record : Record) :
    set.lowered.insert record.lowered = (set.insert record).lowered := by
  cases signed : record.isSignature with
  | true => simp [insert, signed, lowered]
  | false => simp [insert, signed, lowered]

@[simp] theorem ofRecord_lowered (record : Record) :
    ofRecord record.lowered = (ofRecord record).lowered := by
  unfold ofRecord
  rw [← insert_lowered]
  simp [lowered]

theorem foldl_insert_lowered (records : List Record) :
    (records.map Record.lowered).foldl insert set.lowered = (records.foldl insert set).lowered := by
  induction records generalizing set with
  | nil => rfl
  | cons record rest inductionHypothesis =>
    rw [List.map_cons, List.foldl_cons, List.foldl_cons, insert_lowered, inductionHypothesis]

/-- A set is made absolute whatever the case of letters. -/
@[simp] theorem toAbsolute_lowered : set.lowered.toAbsolute = set.toAbsolute.lowered := by
  have renamed : (set.lowered.all.map fun record =>
        { record with name := set.lowered.name.toAbsolute }) =
      (set.all.map fun record => { record with name := set.name.toAbsolute }).map
        Record.lowered := by
    simp only [all_lowered, List.map_map]
    rfl
  unfold toAbsolute
  rw [renamed, lowered_name, Name.lowered_absolute]
  split
  · rfl
  · cases set.all.map fun record => { record with name := set.name.toAbsolute } with
    | nil => rfl
    | cons record rest => simp [foldl_insert_lowered]

theorem shortestTtl_lowered (records : List Record) :
    shortestTtl (records.map Record.lowered) = shortestTtl records := by
  cases records with
  | nil => rfl
  | cons first rest => simp [shortestTtl, List.foldl_map]

@[simp] theorem ttl_lowered : set.lowered.ttl = set.ttl := by
  by_cases bare : set.records = []
  · simp [ttl_eq, bare, shortestTtl_lowered]
  · simp [ttl_eq, bare, shortestTtl_lowered]

@[simp] theorem aliasTarget?_lowered :
    set.lowered.aliasTarget? = set.aliasTarget?.map Name.lowered := by
  unfold aliasTarget?
  rw [lowered_records, List.head?_map]
  cases set.records.head? <;> simp

end RRset

/-! ### Messages -/

namespace Message

/-- A message with the capitals of all names lowered. -/
def lowered (message : Message) : Message :=
  { message with
    question := message.question.map Question.lowered
    answers := message.answers.map Record.lowered
    authority := message.authority.map Record.lowered
    additional := message.additional.map Record.lowered }

@[simp] theorem records_lowered (message : Message) (part : Section) :
    message.lowered.records part = (message.records part).map Record.lowered := by
  cases part <;> rfl

@[simp] theorem placeRecord_lowered (record : Record) (sets : List RRset) :
    placeRecord record.lowered (sets.map RRset.lowered) =
      (placeRecord record sets).map RRset.lowered := by
  induction sets with
  | nil => simp [placeRecord]
  | cons set rest inductionHypothesis =>
    by_cases accepted : set.accepts record = true
    · simp [placeRecord, accepted]
    · simp [placeRecord, accepted, inductionHypothesis]

@[simp] theorem groupRecords_lowered (records : List Record) :
    groupRecords (records.map Record.lowered) = (groupRecords records).map RRset.lowered := by
  have grows (sets : List RRset) :
      (records.map Record.lowered).foldl (fun sets record => placeRecord record sets)
          (sets.map RRset.lowered) =
        (records.foldl (fun sets record => placeRecord record sets) sets).map RRset.lowered := by
    induction records generalizing sets with
    | nil => rfl
    | cons record rest inductionHypothesis => simp [inductionHypothesis]
  exact grows []

@[simp] theorem sets_lowered (message : Message) (part : Section) :
    message.lowered.sets part = (message.sets part).map RRset.lowered := by
  simp [sets]

end Message

/-! ### Outcomes -/

namespace Outcome

/-- An outcome with the capitals of all names lowered. -/
def lowered : Outcome → Outcome
  | delegation set => delegation set.lowered
  | cname set => cname set.lowered
  | dname set => dname set.lowered
  | successful sets => successful (sets.map RRset.lowered)
  | outcome => outcome

@[simp] theorem isUnknown_lowered (outcome : Outcome) :
    outcome.lowered.isUnknown = outcome.isUnknown := by
  cases outcome <;> rfl

end Outcome

/-- What a cache learned from a response, with the capitals of all names lowered. -/
def Ingested.lowered (ingested : Ingested) : Ingested :=
  ⟨ingested.outcome.lowered, ingested.aliases.map Name.lowered⟩

end StubResolver
