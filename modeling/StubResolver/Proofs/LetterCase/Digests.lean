/-
This file proves that what a response says takes no notice of the case of letters. Names are
compared at every step on the way: to see which sets answer, which alias leads on, which zone the
end of the trail lies in and whose addresses matter. None of the comparisons sees the difference
between a response and the same response in lower case, and so the trail, its end and the writes are
the same, but for the case of letters.
-/

import StubResolver.Cache.Digest
import StubResolver.Proofs.LetterCase.Messages

namespace StubResolver

/-! ### Parts of a message -/

namespace Message

variable (message : Message)

@[simp] theorem lowered_authoritative : message.lowered.authoritative = message.authoritative := rfl

@[simp] theorem lowered_result : message.lowered.result = message.result := rfl

@[simp] theorem lowered_question :
    message.lowered.question = message.question.map Question.lowered := rfl

end Message

namespace Cache

/-! ### Parts of a digest in lower case -/

/-- Something to keep, with the capitals of all names lowered. -/
def Write.lowered : Write → Write
  | .set written credibility => .set written.lowered credibility
  | .absence name key zoneStart credibility =>
    .absence name.lowered key (zoneStart.map Record.lowered) credibility

/-- How far aliases have been followed, with the capitals of all names lowered. -/
def Trail.lowered (trail : Trail) : Trail where
  current := trail.current.lowered
  aliases := trail.aliases.map Name.lowered
  used := trail.used.map RRset.lowered
  finals := trail.finals.map RRset.lowered

/-- What the end of a trail adds, with the capitals of all names lowered. -/
def Ending.lowered (ending : Ending) : Ending where
  writes := ending.writes.map Write.lowered
  hosts := ending.hosts.map Name.lowered
  outcome := ending.outcome.lowered

/-- What a response says, with the capitals of all names lowered. -/
def Digest.lowered (digest : Digest) : Digest where
  writes := digest.writes.map Write.lowered
  ingested := digest.ingested.lowered

/-! ### Following aliases -/

section

variable (set : RRset) (name : Name)

@[simp] theorem isAliasFor_lowered : isAliasFor set.lowered name.lowered = isAliasFor set name := by
  simp [isAliasFor]

theorem aliasDestination?_eq :
    aliasDestination? set name = set.aliasTarget?.bind fun target =>
      if set.type = .dname then (name.substitute set.name target).toOption.map Name.toAbsolute
      else some target.toAbsolute := by
  unfold aliasDestination?
  cases set.aliasTarget? with
  | none => rfl
  | some target =>
    dsimp only [Option.bind_some]
    split
    · cases name.substitute set.name target <;> rfl
    · rfl

/-- An alias leads to the same name, or nowhere, whatever the case of letters. -/
@[simp] theorem aliasDestination?_lowered :
    aliasDestination? set.lowered name.lowered =
      (aliasDestination? set name).map Name.lowered := by
  rw [aliasDestination?_eq, aliasDestination?_eq, RRset.aliasTarget?_lowered]
  cases set.aliasTarget? with
  | none => rfl
  | some target =>
    by_cases redirects : set.type = .dname
    · simp [redirects, Name.substitute_lowered, Function.comp_def]
    · simp [redirects]

@[simp] theorem aliasOutcome_lowered : aliasOutcome set.lowered = (aliasOutcome set).lowered := by
  unfold aliasOutcome
  rw [RRset.lowered_type]
  split <;> rfl

@[simp] theorem answersQuestion_lowered (type : RecordType) :
    answersQuestion name.lowered type set.lowered = answersQuestion name type set := by
  simp [answersQuestion]

end

/-- Aliases are followed the same way, whatever the case of letters. -/
theorem follow_lowered (answers : List RRset) (type : RecordType) (hops : Nat)
    (unused : List RRset) (trail : Trail) :
    follow (answers.map RRset.lowered) type hops (unused.map RRset.lowered) trail.lowered =
      (follow answers type hops unused trail).lowered := by
  induction hops generalizing unused trail with
  | zero => rfl
  | succ hops inductionHypothesis =>
    have found : (answers.map RRset.lowered).filter (answersQuestion trail.lowered.current type) =
        (answers.filter (answersQuestion trail.current type)).map RRset.lowered := by
      rw [List.filter_map]
      congr 2
      funext set
      exact answersQuestion_lowered set trail.current type
    have leads (set : RRset) :
        isAliasFor set.lowered trail.lowered.current = isAliasFor set trail.current :=
      isAliasFor_lowered set trail.current
    unfold follow
    rw [found, List.find?_map]
    simp only [Function.comp_def, leads]
    cases answers.filter (answersQuestion trail.current type) with
    | cons first rest => rfl
    | nil =>
      cases unused.find? (isAliasFor · trail.current) with
      | none => rfl
      | some set =>
        have destination : aliasDestination? set.lowered trail.lowered.current =
            (aliasDestination? set trail.current).map Name.lowered :=
          aliasDestination?_lowered set trail.current
        have erased : (unused.map RRset.lowered).eraseP (isAliasFor · trail.lowered.current) =
            (unused.eraseP (isAliasFor · trail.current)).map RRset.lowered := by
          simp only [List.eraseP_map, Function.comp_def, leads]
        simp only [Option.map_some, List.map_nil, destination, erased]
        cases aliasDestination? set trail.current with
        | none => simp [Trail.lowered]
        | some next =>
          rw [Option.map_some, ← inductionHypothesis]
          simp [Trail.lowered]

@[simp] theorem trailOf_lowered (question : Question) (answers : List RRset) :
    trailOf question.lowered (answers.map RRset.lowered) = (trailOf question answers).lowered :=
  follow_lowered answers question.type (maxAliases + 1) answers
    ⟨question.name.toAbsolute, [], [], []⟩

/-! ### The end of a trail -/

section

variable (message : Message) (trail : Trail)

@[simp] theorem setsInClass_lowered (part : Section) (recordClass : RecordClass) :
    setsInClass message.lowered part recordClass =
      (setsInClass message part recordClass).map RRset.lowered := by
  rw [setsInClass, setsInClass, Message.sets_lowered, List.filter_map]
  rfl

@[simp] theorem covering?_lowered (authority : List RRset) (type : RecordType) (name : Name) :
    covering? (authority.map RRset.lowered) type name.lowered =
      (covering? authority type name).map RRset.lowered := by
  rw [covering?, covering?, List.find?_map]
  congr 2
  funext set
  show (decide (set.type = type) && name.lowered.isWithin set.name.lowered) = _
  rw [Name.isWithin_lowered]

@[simp] theorem namedHosts_lowered (set : RRset) :
    namedHosts set.lowered = (namedHosts set).map Name.lowered := by
  simp [namedHosts, List.filterMap_map, List.map_filterMap, Function.comp_def]

@[simp] theorem addressWrites_lowered (recordClass : RecordClass) (hosts : List Name) :
    addressWrites message.lowered recordClass (hosts.map Name.lowered) =
      (addressWrites message recordClass hosts).map Write.lowered := by
  have matter (set : RRset) :
      (hosts.map Name.lowered).any (· ≈ set.lowered.name) = hosts.any (· ≈ set.name) := by
    rw [List.any_map]
    congr 1
    funext host
    exact decide_eq_decide.mpr Name.lowered_equiv_lowered
  simp only [addressWrites, setsInClass_lowered, List.filter_map, List.map_map, Function.comp_def,
    matter]
  rfl

@[simp] theorem endWithAnswer_lowered (servers : Option RRset) :
    endWithAnswer message.lowered trail.lowered (servers.map RRset.lowered) =
      (endWithAnswer message trail servers).lowered := by
  have hosts : trail.lowered.finals.flatMap namedHosts =
      (trail.finals.flatMap namedHosts).map Name.lowered := by
    simp [Trail.lowered, List.flatMap_map, List.map_flatMap]
  unfold endWithAnswer
  rw [hosts]
  cases servers with
  | none => rfl
  | some set =>
    by_cases success : message.result = .noError
    · simp [success, Ending.lowered, Write.lowered, Outcome.lowered, Trail.lowered]
    · simp [success, Ending.lowered, Outcome.lowered, Trail.lowered]

@[simp] theorem firstAliasOr_lowered (outcome : Outcome) :
    firstAliasOr trail.lowered outcome.lowered = (firstAliasOr trail outcome).lowered := by
  unfold firstAliasOr
  cases used : trail.used with
  | nil => simp [Trail.lowered, used]
  | cons set rest => simp [Trail.lowered, used]

@[simp] theorem endWithAbsence_lowered (type : RecordType) (zone : Option RRset) :
    endWithAbsence message.lowered type trail.lowered (zone.map RRset.lowered) =
      (endWithAbsence message type trail zone).lowered := by
  have zoneStart : ((zone.map RRset.lowered).bind fun set => set.records.head?) =
      (zone.bind fun set => set.records.head?).map Record.lowered := by
    cases zone <;> simp
  have denied : firstAliasOr trail.lowered .nxDomain = (firstAliasOr trail .nxDomain).lowered :=
    firstAliasOr_lowered trail .nxDomain
  have missed : firstAliasOr trail.lowered .nxRRset = (firstAliasOr trail .nxRRset).lowered :=
    firstAliasOr_lowered trail .nxRRset
  have current : trail.lowered.current = trail.current.lowered := rfl
  unfold endWithAbsence
  dsimp only
  rw [zoneStart, current]
  by_cases missing : message.result = .nxDomain
  · simp [missing, denied, Ending.lowered, Write.lowered]
  · by_cases all : type = .any
    · simp [missing, missed, all, Ending.lowered]
    · simp [missing, missed, all, Ending.lowered, Write.lowered]

@[simp] theorem endWithServers_lowered (servers : RRset) :
    endWithServers message.lowered trail.lowered servers.lowered =
      (endWithServers message trail servers).lowered := by
  have outcome : firstAliasOr trail.lowered (.delegation servers.lowered) =
      (firstAliasOr trail (.delegation servers)).lowered :=
    firstAliasOr_lowered trail (.delegation servers)
  simp [endWithServers, Ending.lowered, Write.lowered, outcome]

/-- A trail ends the same way, whatever the case of letters. -/
@[simp] theorem endingOf_lowered (type : RecordType) (authority : List RRset) :
    endingOf message.lowered type trail.lowered (authority.map RRset.lowered) =
      (endingOf message type trail authority).lowered := by
  have finals : trail.lowered.finals.isEmpty = trail.finals.isEmpty := List.isEmpty_map
  have zone := covering?_lowered authority .soa trail.current
  have servers := covering?_lowered authority .ns trail.current
  unfold endingOf
  dsimp only
  rw [finals, show trail.lowered.current = trail.current.lowered from rfl, zone, servers]
  split
  · exact endWithAnswer_lowered message trail _
  · cases covering? authority .ns trail.current with
    | none => exact endWithAbsence_lowered message trail type _
    | some set =>
      simp only [Option.map_some, Message.lowered_result, Option.map_eq_none_iff]
      split
      · exact endWithServers_lowered message trail set
      · exact endWithAbsence_lowered message trail type _

end

/-! ### Responses -/

/-- A response says the same, whatever the case of letters. -/
@[simp] theorem digestFor_lowered (message : Message) (question : Question) :
    digestFor message.lowered question.lowered = (digestFor message question).lowered := by
  have recordClass : question.lowered.recordClass = question.recordClass := rfl
  have type : question.lowered.type = question.type := rfl
  unfold digestFor
  simp only [recordClass, type, setsInClass_lowered, trailOf_lowered, endingOf_lowered]
  generalize trailOf question (setsInClass message .answer question.recordClass) = trail
  generalize endingOf message question.type trail _ = ending
  have hosts : addressWrites message.lowered question.recordClass ending.lowered.hosts =
      (addressWrites message question.recordClass ending.hosts).map Write.lowered :=
    addressWrites_lowered message question.recordClass ending.hosts
  have aliases : (if trail.lowered.finals.isEmpty then [] else trail.lowered.aliases) =
      (if trail.finals.isEmpty then [] else trail.aliases).map Name.lowered := by
    simp [Trail.lowered, apply_ite (List.map Name.lowered)]
  rw [hosts, aliases]
  simp [Digest.lowered, Ingested.lowered, Trail.lowered, Ending.lowered, Write.lowered,
    Function.comp_def]

@[simp] theorem digest?_lowered (message : Message) :
    digest? message.lowered = (digest? message).map Digest.lowered := by
  unfold digest?
  rw [Message.lowered_question, Message.lowered_result]
  cases message.question with
  | none => rfl
  | some question =>
    simp only [Option.map_some, digestFor_lowered]
    split <;> rfl

end Cache

end StubResolver
