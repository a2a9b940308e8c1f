/-
This file says which records of an answer section reach the one who asked. A response is read by
sets, and a record that answers the question directly stands in a set at the name of the question.
Every such set ends the search for an answer at its first step, before any alias is looked at.

A signature stands in the set that it covers, and its own type is lost in this. So a question for
signatures is answered by none of them but those of signatures. A response that brings exactly the
signatures asked for is reported as having no data of the type.
-/

import StubResolver.Proofs.Cache.MetaTypes

namespace StubResolver.Cache

/-! ### Sets that answer at once -/

/-- The first step of the way through the answer section: sets at the name of the question end it.
-/
theorem trailOf_of_answered (question : Question) {answers : List RRset}
    (answered : answers.filter (answersQuestion question.name.toAbsolute question.type) ≠ []) :
    trailOf question answers = ⟨question.name.toAbsolute, [], [],
      answers.filter (answersQuestion question.name.toAbsolute question.type)⟩ := by
  unfold trailOf follow
  dsimp only
  split
  · rename_i unanswered
    exact absurd unanswered answered
  · rfl

theorem answersQuestion_iff {name : Name} {type : RecordType} {set : RRset} (single : type ≠ .any) :
    answersQuestion name type set = true ↔ set.name ≈ name ∧ set.type = type := by
  rw [answersQuestion, decide_eq_true_iff, or_iff_right single]

/-- A set of the answer section at the name of the question, and of the type asked for, is the only
one that answers. -/
theorem filter_answersQuestion {message : Message} {recordClass : RecordClass} {name : Name}
    {type : RecordType} (single : type ≠ .any) {set : RRset}
    (member : set ∈ setsInClass message .answer recordClass) (owner : set.name ≈ name)
    (ofType : set.type = type) :
    (setsInClass message .answer recordClass).filter (answersQuestion name type) = [set] := by
  have found : set ∈ (setsInClass message .answer recordClass).filter (answersQuestion name type) :=
    List.mem_filter.mpr ⟨member, (answersQuestion_iff single).mpr ⟨owner, ofType⟩⟩
  cases answers : (setsInClass message .answer recordClass).filter (answersQuestion name type) with
  | nil =>
    rw [answers] at found
    cases found
  | cons first rest =>
    obtain rfl := answers_unique single answers
    rw [answers] at found
    rw [List.mem_singleton.mp found]

/-- What is reported of a response with one set that answers directly. -/
theorem digestFor_ingested_of_direct {message : Message} {question : Question}
    (single : question.type ≠ .any) {set : RRset}
    (member : set ∈ setsInClass message .answer question.recordClass)
    (owner : set.name ≈ question.name.toAbsolute) (ofType : set.type = question.type) :
    (digestFor message question).ingested = ⟨.successful [set], []⟩ := by
  have found := filter_answersQuestion single member owner ofType
  have trail := trailOf_of_answered question (found ▸ List.cons_ne_nil set [])
  rw [found] at trail
  have answered : (trailThrough message question).finals ≠ [] := by
    rw [trailThrough, trail]
    exact List.cons_ne_nil set []
  rw [digestFor_ingested_of_finals message question answered, trailThrough, trail]

/-- The sets that a response is reported to answer with are coherent, and of the type asked for. -/
theorem type_of_digestFor_successful {message : Message} {question : Question}
    (single : question.type ≠ .any) {sets : List RRset}
    (reported : (digestFor message question).ingested.outcome = .successful sets) {set : RRset}
    (member : set ∈ sets) : set.Coherent ∧ set.type = question.type := by
  obtain ⟨rfl, _⟩ := digestFor_successful reported
  obtain ⟨present, answers⟩ := (trailOf_within question _).finals set member
  exact ⟨message.sets_coherent .answer set (mem_setsInClass present).2,
    ((answersQuestion_iff single).mp answers).2⟩

/-! ### Direct answers -/

/-- A response is reported as successful, without aliases and with a given record that answers the
question directly, unless the record is a signature and covers another type than its own. -/
theorem ingestResponse_direct_iff (cache : Cache) (now : Nat) {message : Message}
    {question : Question} {record : Record} (asked : message.question = some question)
    (cacheable : message.result = .noError ∨ message.result = .nxDomain)
    (absolute : question.name.absolute = true) (notMeta : question.type.isMeta = false)
    (present : record ∈ message.answers) (owner : record.name ≈ question.name)
    (ofClass : record.recordClass = question.recordClass) (ofType : record.type = question.type) :
    (∃ set, (cache.ingestResponse now message).1 = some ⟨.successful [set], []⟩ ∧
        ∃ member ∈ set.all, member ≈ record) ↔ record.setType = record.type := by
  have single : question.type ≠ .any := by
    intro all
    rw [all] at notMeta
    exact absurd notMeta (by decide)
  have said : (cache.ingestResponse now message).1 =
      some (digestFor message question).ingested := by
    have useful : message.result.isCacheable = true := by
      rw [ResponseCode.isCacheable, Bool.or_eq_true, decide_eq_true_iff, decide_eq_true_iff]
      exact cacheable
    rw [ingestResponse, digest?, asked]
    dsimp only
    rw [if_pos useful]
  rw [said]
  constructor
  · rintro ⟨set, reported, member, inside, same⟩
    have outcome : (digestFor message question).ingested.outcome = .successful [set] :=
      congrArg Ingested.outcome (Option.some_inj.mp reported)
    obtain ⟨coherent, setType⟩ :=
      type_of_digestFor_successful single outcome (List.mem_singleton.mpr rfl)
    have belongs := (RRset.accepts_iff set member).mp (coherent.belong member inside)
    rw [← Record.setType_eq_of_equiv member record same, belongs.2.2, setType, ofType]
  · intro ownType
    obtain ⟨set, member, accepted, inside⟩ := Message.groupRecords_mem present
    obtain ⟨setOwner, setClass, setType⟩ := (RRset.accepts_iff set record).mp accepted
    have inClass : set ∈ setsInClass message .answer question.recordClass :=
      List.mem_filter.mpr ⟨member, decide_eq_true (setClass.symm.trans ofClass)⟩
    have direct := digestFor_ingested_of_direct single inClass
      (by rw [question.name.toAbsolute_of_absolute absolute]
          exact Setoid.trans (Setoid.symm setOwner) owner)
      (setType.symm.trans (ownType.trans ofType))
    exact ⟨set, congrArg some direct, inside⟩

/-- The signature of the addresses of `w.`, and one of its signatures. -/
def signatureOf (covered : RecordType) : Record :=
  { Record.address 1 300 with data := .rrsig covered [1] }

/-- A response to a question for the signatures of `w.`. -/
def signaturesResponse (records : List Record) : Message :=
  { Message.responseTo (Message.query ⟨Name.ofOctets [0x77], .rrsig, .inet⟩) with
    answers := records }

/-- Of two signatures, that of signatures is reported, even where an alias comes first. -/
theorem signaturesResponse_direct :
    let aliasFirst : Record := ⟨Name.ofOctets [0x77], .inet, 300, .cname (Name.ofOctets [0x67])⟩
    let response := signaturesResponse [aliasFirst, signatureOf .a, signatureOf .rrsig]
    let reported := ((Cache.new .inet ⟨0, none, 3600⟩).ingestResponse 1000 response).1
    (∃ set, reported = some ⟨.successful [set], []⟩ ∧
        ∃ member ∈ set.all, member ≈ signatureOf .rrsig) ∧
      ¬ ∃ set, reported = some ⟨.successful [set], []⟩ ∧
        ∃ member ∈ set.all, member ≈ signatureOf .a := by
  intro aliasFirst response reported
  have direct {covered : RecordType} (present : signatureOf covered ∈ response.answers) :=
    ingestResponse_direct_iff (Cache.new .inet ⟨0, none, 3600⟩) 1000
      (show response.question = some ⟨Name.ofOctets [0x77], .rrsig, .inet⟩ from rfl) (Or.inl rfl)
      rfl (by decide) present (Setoid.refl _) rfl rfl
  exact ⟨(direct (by simp [response, signaturesResponse])).mpr rfl,
    fun given => absurd ((direct (by simp [response, signaturesResponse])).mp given) (by decide)⟩

/-- A response with the signature of addresses, asked for by type, is reported to say that there
are no signatures. -/
theorem signaturesResponse_unheard :
    let response := signaturesResponse [signatureOf .a]
    signatureOf .a ∈ response.answers ∧ (signatureOf .a).name = Name.ofOctets [0x77] ∧
      (signatureOf .a).type = .rrsig ∧ RecordType.rrsig.isMeta = false ∧
      ((Cache.new .inet ⟨0, none, 3600⟩).ingestResponse 1000 response).1 =
        some ⟨.nxRRset, []⟩ := by
  decide +kernel

end StubResolver.Cache
