/-
This file says what the digest of a response is made of. The sets that it has kept are sets of the
message, of the class asked for, and none of them is more credible than an answer. The way through
the answer section is a chain of links, and the sets it ends at answer the question for the name
that the chain leads to.
-/

import StubResolver.Cache.Digest
import StubResolver.Proofs.Chain
import StubResolver.Proofs.RRset

namespace StubResolver

/-! ### Absolute names -/

/-- The names in the data of a record. -/
def RecordData.names : RecordData → List Name
  | .ns name | .cname name | .dname name | .ptr name | .mx _ name | .srv _ _ _ name => [name]
  | .soa start => [start.primary, start.mailbox]
  | _ => []

/-- All names of the records of a message are absolute, as they are in every message that comes from
the wire. -/
def Message.Absolute (message : Message) : Prop :=
  ∀ part, ∀ record ∈ message.records part,
    record.name.absolute = true ∧ ∀ name ∈ record.data.names, name.absolute = true

/-- The owner of a set is absolute, and so is what its first record stands for. -/
def RRset.Absolute (set : RRset) : Prop :=
  set.name.absolute = true ∧ ∀ target ∈ set.aliasTarget?, target.absolute = true

instance (set : RRset) : Decidable set.Absolute :=
  inferInstanceAs (Decidable (_ ∧ ∀ target ∈ set.aliasTarget?, target.absolute = true))

theorem RRset.From.absolute {set : RRset} {records : List Record} (source : set.From records)
    (absolute : ∀ record ∈ records,
      record.name.absolute = true ∧ ∀ name ∈ record.data.names, name.absolute = true) :
    set.Absolute := by
  obtain ⟨⟨owner, present, same⟩, members⟩ := source
  refine ⟨same ▸ (absolute owner present).1, fun target isTarget => ?_⟩
  obtain ⟨record, first, data⟩ := Option.bind_eq_some_iff.mp isTarget
  have inside : record ∈ set.all := List.mem_append_left _ (List.mem_of_head? first)
  refine (absolute record (members record inside)).2 target ?_
  unfold RecordData.aliasTarget? at data
  split at data
  · rename_i other isData
    cases data
    rw [isData]
    exact List.mem_singleton.mpr rfl
  · rename_i other isData
    cases data
    rw [isData]
    exact List.mem_singleton.mpr rfl
  · cases data

/-- An outcome that has neither records nor an alias to give. -/
def Outcome.LeadsNowhere : Outcome → Prop
  | .successful _ | .cname _ | .dname _ => False
  | _ => True

namespace Cache

/-! ### The way through the answer section -/

theorem isAliasFor_iff {set : RRset} {name : Name} :
    isAliasFor set name = true ↔ set.type = .cname ∧ set.name ≈ name ∨
      set.type = .dname ∧ ¬ set.name ≈ name ∧ name.isWithin set.name = true := by
  have differ : ¬ RecordType.cname = .dname := by decide
  unfold isAliasFor
  by_cases isCname : set.type = .cname
  · simp [isCname, differ]
  · by_cases isDname : set.type = .dname
    · simp [isDname, Ne.symm differ]
    · simp [isCname, isDname]

/-- An alias that the digest follows is a link. -/
theorem leadsTo_of_isAliasFor {set : RRset} {name next : Name} (absolute : name.absolute = true)
    (setAbsolute : set.Absolute) (standsFor : isAliasFor set name = true)
    (destination : aliasDestination? set name = some next) :
    (⟨name, set⟩ : Link).LeadsTo next ∧ next.absolute = true := by
  unfold aliasDestination? at destination
  cases isTarget : set.aliasTarget? with
  | none =>
    rw [isTarget] at destination
    cases destination
  | some target =>
    have targetAbsolute := setAbsolute.2 target isTarget
    rw [isTarget] at destination
    dsimp only at destination
    rcases isAliasFor_iff.mp standsFor with ⟨isCname, same⟩ | ⟨isDname, differ, _⟩
    · rw [if_neg (by rw [isCname]; decide), Name.toAbsolute_of_absolute _ targetAbsolute]
        at destination
      cases destination
      exact ⟨⟨_, isTarget, Or.inl ⟨isCname, same, rfl⟩⟩, targetAbsolute⟩
    · rw [if_pos isDname] at destination
      split at destination
      · rename_i moved substituted
        have movedAbsolute : moved.absolute = true :=
          ((Name.substitute_eq_ok_iff _ _ _ _).mp substituted).2.2.trans targetAbsolute
        rw [Name.toAbsolute_of_absolute _ movedAbsolute] at destination
        cases destination
        refine ⟨⟨target, isTarget, Or.inr ⟨isDname, differ, ?_, substituted⟩⟩, movedAbsolute⟩
        exact absolute.trans setAbsolute.1.symm
      · cases destination

/-- How one link is crossed: no set answers the question for the name, and an alias among the
answers leads on from it. -/
structure Crosses (answers : List RRset) (type : RecordType) (link : Link) (next : Name) :
    Prop where
  present : link.set ∈ answers
  unanswered : answers.filter (answersQuestion link.crossed type) = []
  standsFor : isAliasFor link.set link.crossed = true
  leads : aliasDestination? link.set link.crossed = some next

/-- A trail from a name: its aliases were crossed one after the other, and where it has come either
all that answers has been found, or nothing. In the latter case a last alias may have turned out to
lead nowhere. -/
structure Trail.Walks (trail : Trail) (answers : List RRset) (type : RecordType) (start : Name)
    (links : List Link) (stuck : Option RRset) : Prop where
  chain : Chain (Crosses answers type) start links trail.current
  aliases : trail.aliases = links.map Link.crossed
  used : trail.used = links.map Link.set ++ stuck.toList
  deadEnd : ∀ set ∈ stuck, set ∈ answers ∧
    answers.filter (answersQuestion trail.current type) = [] ∧
    isAliasFor set trail.current = true ∧ aliasDestination? set trail.current = none
  finals : trail.finals = [] ∨
    stuck = none ∧ trail.finals = answers.filter (answersQuestion trail.current type)

/-- Following aliases goes on with the walk. -/
theorem follow_walks {answers : List RRset} {type : RecordType} {start : Name} (hops : Nat)
    (unused : List RRset) (part : ∀ set ∈ unused, set ∈ answers) (trail : Trail)
    (links : List Link) (walks : trail.Walks answers type start links none)
    (unfinished : trail.finals = []) :
    ∃ links stuck,
      (follow answers type hops unused trail).Walks answers type start links stuck := by
  induction hops generalizing unused trail links with
  | zero => exact ⟨links, none, walks⟩
  | succ hops inductionHypothesis =>
    have used : trail.used = links.map Link.set := walks.used.trans (List.append_nil _)
    unfold follow
    split
    · rename_i unanswered
      split
      · exact ⟨links, none, walks⟩
      · rename_i set found
        have present := part set (List.mem_of_find?_eq_some found)
        have standsFor : isAliasFor set trail.current = true :=
          List.find?_some (p := (isAliasFor · trail.current)) found
        dsimp only
        split
        · rename_i nowhere
          refine ⟨links, some set, walks.chain, walks.aliases, by rw [used]; rfl, ?_,
            Or.inl unfinished⟩
          intro other isStuck
          cases isStuck
          exact ⟨present, unanswered, standsFor, nowhere⟩
        · rename_i next destination
          let link : Link := ⟨trail.current, set⟩
          have remain : ∀ other ∈ unused.eraseP (isAliasFor · trail.current), other ∈ answers :=
            fun other member => part other (List.mem_of_mem_eraseP member)
          refine inductionHypothesis _ remain _ (links ++ [link]) ?_ unfinished
          refine ⟨?_, ?_, ?_, fun _ none => (Option.not_mem_none _ none).elim, Or.inl unfinished⟩
          · exact walks.chain.snoc (Setoid.refl _) ⟨present, unanswered, standsFor, destination⟩
          · rw [walks.aliases, List.map_append]
            rfl
          · rw [used, List.map_append, Option.toList_none, List.append_nil]
            rfl
    · exact ⟨links, none, walks.chain, walks.aliases, walks.used, walks.deadEnd, Or.inr ⟨rfl, rfl⟩⟩

/-- The trail of a question is a walk from its name. -/
theorem trailOf_walks (question : Question) (answers : List RRset) :
    ∃ links stuck, (trailOf question answers).Walks answers question.type question.name.toAbsolute
      links stuck :=
  follow_walks _ answers (fun _ member => member) _ []
    ⟨Setoid.refl _, rfl, rfl, fun _ none => (Option.not_mem_none _ none).elim, Or.inl rfl⟩ rfl

/-- What a trail has made use of and ends at is among the answers, and the end answers the question
for the name that the trail has come to. -/
structure Trail.Within (trail : Trail) (answers : List RRset) (type : RecordType) : Prop where
  used : ∀ set ∈ trail.used, set ∈ answers
  finals : ∀ set ∈ trail.finals, set ∈ answers ∧ answersQuestion trail.current type set = true

theorem Trail.Walks.within {trail : Trail} {answers : List RRset} {type : RecordType} {start : Name}
    {links : List Link} {stuck : Option RRset}
    (walks : trail.Walks answers type start links stuck) : trail.Within answers type where
  used := by
    intro set member
    rw [walks.used] at member
    rcases List.mem_append.mp member with crossed | last
    · obtain ⟨link, inside, rfl⟩ := List.mem_map.mp crossed
      obtain ⟨_, crosses⟩ := walks.chain.each link inside
      exact crosses.present
    · exact (walks.deadEnd set (Option.mem_toList.mp last)).1
  finals := by
    intro set member
    rcases walks.finals with nothing | ⟨_, all⟩
    · rw [nothing] at member
      cases member
    · rw [all] at member
      exact List.mem_filter.mp member

theorem trailOf_within (question : Question) (answers : List RRset) :
    (trailOf question answers).Within answers question.type :=
  have ⟨_, _, walks⟩ := trailOf_walks question answers
  walks.within

/-- Where all names are absolute, the links that are crossed lead where links lead. -/
theorem leadsTo_of_crosses {answers : List RRset} (answersAbsolute : ∀ set ∈ answers, set.Absolute)
    {type : RecordType} {start last : Name} {links : List Link} (absolute : start.absolute = true)
    (chain : Chain (Crosses answers type) start links last) :
    Chain Link.LeadsTo start links last ∧ last.absolute = true := by
  induction links generalizing start with
  | nil => exact ⟨chain, (Name.absolute_of_equiv chain).symm.trans absolute⟩
  | cons link rest inductionHypothesis =>
    obtain ⟨starts, next, crosses, others⟩ := chain
    have crossedAbsolute := (Name.absolute_of_equiv starts).symm.trans absolute
    obtain ⟨leads, nextAbsolute⟩ := leadsTo_of_isAliasFor crossedAbsolute
      (answersAbsolute link.set crosses.present) crosses.standsFor crosses.leads
    obtain ⟨restLeads, lastAbsolute⟩ := inductionHypothesis nextAbsolute others
    exact ⟨⟨starts, next, leads, restLeads⟩, lastAbsolute⟩

/-- A trail from a name: the links crossed so far lead from the name to where it has come, and what
was made use of is the sets of the links, and maybe one more that leads nowhere. -/
structure Trail.Follows (trail : Trail) (start : Name) (links : List Link) : Prop where
  absolute : trail.current.absolute = true
  chain : Chain Link.LeadsTo start links trail.current
  aliases : trail.aliases = links.map Link.crossed
  used : trail.used = links.map Link.set ∨ trail.finals = [] ∧
    ∃ set, isAliasFor set trail.current = true ∧ trail.used = links.map Link.set ++ [set]

/-- The trail of a question is a chain from its name. -/
theorem trailOf_follows (question : Question) (absolute : question.name.absolute = true)
    {answers : List RRset} (answersAbsolute : ∀ set ∈ answers, set.Absolute) :
    ∃ links, (trailOf question answers).Follows question.name links := by
  obtain ⟨links, stuck, walks⟩ := trailOf_walks question answers
  rw [Name.toAbsolute_of_absolute _ absolute] at walks
  obtain ⟨chain, lastAbsolute⟩ := leadsTo_of_crosses answersAbsolute absolute walks.chain
  refine ⟨links, lastAbsolute, chain, walks.aliases, ?_⟩
  cases stuck with
  | none => exact Or.inl (walks.used.trans (List.append_nil _))
  | some set =>
    have unfinished : (trailOf question answers).finals = [] :=
      walks.finals.resolve_right fun finished => by cases finished.1
    exact Or.inr ⟨unfinished, set, (walks.deadEnd set rfl).2.2.1, walks.used⟩

/-! ### What is reported -/

/-- Without sets that answer, a response sends on to the servers of a zone, or tells what does not
exist. -/
theorem endingOf_of_open (message : Message) (type : RecordType) (trail : Trail)
    (authority : List RRset) (unanswered : trail.finals = []) :
    (∃ servers, covering? authority .ns trail.current = some servers ∧
        endingOf message type trail authority = endWithServers message trail servers) ∨
      endingOf message type trail authority =
        endWithAbsence message type trail (covering? authority .soa trail.current) := by
  unfold endingOf
  rw [unanswered]
  dsimp only
  rw [if_neg (by decide)]
  split
  · rename_i servers found
    split
    · exact Or.inl ⟨servers, found, rfl⟩
    · exact Or.inr rfl
  · exact Or.inr rfl

/-- What is reported then is the first alias, or an outcome that leads nowhere. -/
theorem endingOf_outcome_of_open (message : Message) (type : RecordType) (trail : Trail)
    (authority : List RRset) (unanswered : trail.finals = []) :
    ∃ otherwise, Outcome.LeadsNowhere otherwise ∧
      (endingOf message type trail authority).outcome = firstAliasOr trail otherwise := by
  obtain ⟨servers, _, ending⟩ | ending := endingOf_of_open message type trail authority unanswered
  · rw [ending]
    exact ⟨.delegation servers, trivial, rfl⟩
  · rw [ending]
    refine ⟨if message.result = .nxDomain then .nxDomain else .nxRRset, ?_, rfl⟩
    split <;> exact trivial

/-- Sets that answer are what is reported. -/
theorem endingOf_outcome_of_finals (message : Message) (type : RecordType) (trail : Trail)
    (authority : List RRset) (answered : trail.finals ≠ []) :
    (endingOf message type trail authority).outcome = .successful trail.finals := by
  have filled : (!trail.finals.isEmpty) = true := by
    rw [Bool.not_eq_true', List.isEmpty_eq_false_iff]
    exact answered
  unfold endingOf
  dsimp only
  rw [if_pos filled]
  unfold endWithAnswer
  dsimp only
  split
  · split <;> rfl
  · rfl

/-- The trail of a question through the answer section of a message. -/
abbrev trailThrough (message : Message) (question : Question) : Trail :=
  trailOf question (setsInClass message .answer question.recordClass)

/-- What a response comes to whose trail has found sets that answer. -/
theorem digestFor_ingested_of_finals (message : Message) (question : Question)
    (answered : (trailThrough message question).finals ≠ []) :
    (digestFor message question).ingested =
      ⟨.successful (trailThrough message question).finals,
        (trailThrough message question).aliases⟩ := by
  unfold digestFor
  dsimp only
  rw [endingOf_outcome_of_finals _ _ _ _ answered, if_neg (by rwa [List.isEmpty_iff])]

/-- What a response comes to whose trail has found none: the first alias, or an outcome that leads
nowhere. -/
theorem digestFor_ingested_of_open (message : Message) (question : Question)
    (unanswered : (trailThrough message question).finals = []) :
    ∃ otherwise, Outcome.LeadsNowhere otherwise ∧ (digestFor message question).ingested =
      ⟨firstAliasOr (trailThrough message question) otherwise, []⟩ := by
  obtain ⟨otherwise, nowhere, outcome⟩ := endingOf_outcome_of_open message question.type _
    (setsInClass message .authority question.recordClass) unanswered
  refine ⟨otherwise, nowhere, ?_⟩
  unfold digestFor
  dsimp only
  rw [outcome, unanswered, List.isEmpty_nil, if_pos rfl]

/-- An outcome that leads nowhere has found no records, and neither has an alias. -/
theorem firstAliasOr_ne_successful (trail : Trail) {otherwise : Outcome}
    (nowhere : otherwise.LeadsNowhere) (sets : List RRset) :
    firstAliasOr trail otherwise ≠ .successful sets := by
  unfold firstAliasOr
  split
  · intro same
    rw [same] at nowhere
    exact nowhere
  · unfold aliasOutcome
    split <;> exact nofun

/-- A response is successful with the sets that its trail ends at, and there are some. -/
theorem digestFor_successful {message : Message} {question : Question} {sets : List RRset}
    (found : (digestFor message question).ingested.outcome = .successful sets) :
    sets = (trailThrough message question).finals ∧ sets ≠ [] := by
  by_cases unanswered : (trailThrough message question).finals = []
  · obtain ⟨otherwise, nowhere, ingested⟩ := digestFor_ingested_of_open message question unanswered
    rw [ingested] at found
    exact absurd found (firstAliasOr_ne_successful _ nowhere sets)
  · rw [digestFor_ingested_of_finals message question unanswered] at found
    cases found
    exact ⟨rfl, unanswered⟩

/-! ### What is kept -/

/-- The credibility of what is written. -/
def Write.credibility : Write → Credibility
  | .set _ credibility => credibility
  | .absence _ _ _ credibility => credibility

/-- The set that is written, if it is one. -/
def Write.set? : Write → Option RRset
  | .set written _ => some written
  | .absence _ _ _ _ => none

/-- What a message has to say about a class: no more credible than an answer, and if it is a set,
one of the message and of the class. -/
structure Write.DrawnFrom (write : Write) (message : Message) (recordClass : RecordClass) :
    Prop where
  credible : write.credibility ≤ .ofSection .answer message.authoritative
  drawn : ∀ set ∈ write.set?, set.recordClass = recordClass ∧ ∃ part, set ∈ message.sets part

theorem mem_setsInClass {message : Message} {part : Section} {recordClass : RecordClass}
    {set : RRset} (member : set ∈ setsInClass message part recordClass) :
    set.recordClass = recordClass ∧ set ∈ message.sets part := by
  obtain ⟨present, same⟩ := List.mem_filter.mp member
  exact ⟨of_decide_eq_true same, present⟩

/-- Of the sets of a class in a section, no two are of the same name and type. -/
theorem setsInClass_apart {message : Message} {part : Section} {recordClass : RecordClass}
    {first second : RRset} (isFirst : first ∈ setsInClass message part recordClass)
    (isSecond : second ∈ setsInClass message part recordClass) (owner : first.name ≈ second.name)
    (type : first.type = second.type) : first = second := by
  obtain ⟨firstClass, firstIn⟩ := mem_setsInClass isFirst
  obtain ⟨secondClass, secondIn⟩ := mem_setsInClass isSecond
  exact Message.groupRecords_unique firstIn secondIn
    ⟨owner, firstClass.trans secondClass.symm, type⟩

/-- For one type there is at most one set that answers. -/
theorem answers_unique {message : Message} {recordClass : RecordClass} {name : Name}
    {type : RecordType} (single : type ≠ .any) {set : RRset} {rest : List RRset}
    (answers : (setsInClass message .answer recordClass).filter (answersQuestion name type) =
      set :: rest) : rest = [] := by
  have apart : (set :: rest).Pairwise fun first second => ¬ first.SamePlace second := by
    rw [← answers]
    exact ((Message.groupRecords_apart _).filter _).filter _
  have ofPlace (other : RRset) (member : other ∈ set :: rest) :
      other.recordClass = recordClass ∧ other.name ≈ name ∧ other.type = type := by
    rw [← answers] at member
    obtain ⟨present, answering⟩ := List.mem_filter.mp member
    obtain ⟨owner, wanted⟩ := of_decide_eq_true answering
    exact ⟨(mem_setsInClass present).1, owner, wanted.resolve_left single⟩
  have short : (set :: rest).length ≤ 1 :=
    short_of_pairwise apart fun first isFirst second isSecond => by
      obtain ⟨ofClass, owner, ofType⟩ := ofPlace first isFirst
      obtain ⟨otherClass, otherOwner, otherType⟩ := ofPlace second isSecond
      exact ⟨Setoid.trans owner (Setoid.symm otherOwner), ofClass.trans otherClass.symm,
        ofType.trans otherType.symm⟩
  exact List.length_eq_zero_iff.mp (Nat.le_zero.mp (Nat.le_of_succ_le_succ short))

theorem drawnFrom_of_mem {message : Message} {part : Section} {recordClass : RecordClass}
    {set : RRset} (member : set ∈ setsInClass message part recordClass)
    {credibility : Credibility}
    (credible : credibility ≤ .ofSection .answer message.authoritative) :
    (Write.set set credibility).DrawnFrom message recordClass := by
  refine ⟨credible, fun other isSet => ?_⟩
  cases isSet
  exact ⟨(mem_setsInClass member).1, part, (mem_setsInClass member).2⟩

/-- What came along with an answer is less credible than the answer. -/
theorem additional_le_answer (authoritative : Bool) :
    Credibility.ofSection .additional authoritative ≤ .ofSection .answer authoritative := by
  cases authoritative <;> decide

theorem covering?_eq_some {authority : List RRset} {type : RecordType} {name : Name} {set : RRset}
    (found : covering? authority type name = some set) :
    set ∈ authority ∧ set.type = type ∧ name.isWithin set.name = true := by
  have covers := List.find?_some found
  rw [Bool.and_eq_true, decide_eq_true_eq] at covers
  exact ⟨List.mem_of_find?_eq_some found, covers⟩

/-- The servers that a response gives for the end of a trail. -/
def serversAt? (message : Message) (recordClass : RecordClass) (name : Name) : Option RRset :=
  covering? (setsInClass message .authority recordClass) .ns name

/-- A set whose hosts matter: it answers, or it has the servers for the end of the trail. -/
def Trail.Points (trail : Trail) (message : Message) (recordClass : RecordClass) (set : RRset) :
    Prop :=
  set ∈ trail.finals ∨ serversAt? message recordClass trail.current = some set

/-- Why something is kept of a response. -/
inductive Write.Stems (message : Message) (question : Question) (trail : Trail) : Write → Prop where
  /-- It was made use of on the way, or it answers. -/
  | answer (set : RRset) (part : set ∈ trail.used ++ trail.finals) :
      Stems message question trail (.set set (.ofSection .answer message.authoritative))
  /-- It has the servers for the end of the way. -/
  | servers (set : RRset)
      (chosen : serversAt? message question.recordClass trail.current = some set) :
      Stems message question trail (.set set (.ofSection .authority message.authoritative))
  /-- It says that there is nothing at the end of the way. -/
  | absence (key : EntryKey) (zoneStart : Option Record) (incomplete : trail.finals = [])
      (about : key = .name ∨ key = .type question.type) :
      Stems message question trail
        (.absence trail.current key zoneStart (.ofSection .authority message.authoritative))
  /-- It has addresses of a host that matters. -/
  | address (set naming : RRset) (host : Name)
      (present : set ∈ setsInClass message .additional question.recordClass)
      (addresses : set.type = .a ∨ set.type = .aaaa)
      (points : trail.Points message question.recordClass naming)
      (named : host ∈ namedHosts naming) (same : host ≈ set.name) :
      Stems message question trail (.set set (.ofSection .additional message.authoritative))

/-- What an ending adds is kept for a reason, and its hosts are those of sets whose hosts matter. -/
structure Ending.Stems (ending : Ending) (message : Message) (question : Question) (trail : Trail) :
    Prop where
  writes : ∀ write ∈ ending.writes, write.Stems message question trail
  hosts : ∀ host ∈ ending.hosts, ∃ set, trail.Points message question.recordClass set ∧
    host ∈ namedHosts set

section

variable {message : Message} {question : Question} {trail : Trail}

theorem endWithAnswer_stems {servers : Option RRset}
    (chosen : serversAt? message question.recordClass trail.current = servers) :
    (endWithAnswer message trail servers).Stems message question trail := by
  have finalHosts : ∀ host ∈ trail.finals.flatMap namedHosts, ∃ set,
      trail.Points message question.recordClass set ∧ host ∈ namedHosts set := by
    intro host member
    obtain ⟨set, final, named⟩ := List.mem_flatMap.mp member
    exact ⟨set, Or.inl final, named⟩
  have alone : (⟨[], trail.finals.flatMap namedHosts, .successful trail.finals⟩ : Ending).Stems
      message question trail := ⟨fun _ none => absurd none List.not_mem_nil, finalHosts⟩
  unfold endWithAnswer
  cases servers with
  | none => exact alone
  | some set =>
    dsimp only
    split
    · refine ⟨fun write member => List.mem_singleton.mp member ▸ .servers set chosen, ?_⟩
      intro host member
      rcases List.mem_append.mp member with final | server
      · exact finalHosts host final
      · exact ⟨set, Or.inr chosen, server⟩
    · exact alone

theorem endWithServers_stems {set : RRset}
    (chosen : serversAt? message question.recordClass trail.current = some set) :
    (endWithServers message trail set).Stems message question trail :=
  ⟨fun _ member => List.mem_singleton.mp member ▸ .servers set chosen,
    fun _ named => ⟨set, Or.inr chosen, named⟩⟩

theorem endWithAbsence_stems (incomplete : trail.finals = []) (zone : Option RRset) :
    (endWithAbsence message question.type trail zone).Stems message question trail := by
  refine ⟨?_, fun _ none => absurd none List.not_mem_nil⟩
  have about : (if message.result = .nxDomain then EntryKey.name else .type question.type) =
      .name ∨ (if message.result = .nxDomain then EntryKey.name else .type question.type) =
      .type question.type := by
    split
    · exact Or.inl rfl
    · exact Or.inr rfl
  unfold endWithAbsence
  dsimp only
  generalize (if message.result = .nxDomain then EntryKey.name else .type question.type) = key
    at about
  split
  · exact fun _ none => absurd none List.not_mem_nil
  · exact fun _ member => List.mem_singleton.mp member ▸ .absence key _ incomplete about

/-- What the ending of a trail adds, whichever it is, is kept for a reason. -/
theorem endingOf_stems (message : Message) (question : Question) (trail : Trail) :
    (endingOf message question.type trail
      (setsInClass message .authority question.recordClass)).Stems message question trail := by
  unfold endingOf
  dsimp only
  split
  · exact endWithAnswer_stems rfl
  · rename_i unanswered
    have incomplete : trail.finals = [] := by simpa using unanswered
    split
    · rename_i set chosen
      split
      · exact endWithServers_stems chosen
      · exact endWithAbsence_stems incomplete _
    · exact endWithAbsence_stems incomplete _

end

/-- Everything that is kept of a response is kept for one of these reasons. -/
theorem digestFor_stems (message : Message) (question : Question) :
    let trail := trailOf question (setsInClass message .answer question.recordClass)
    ∀ write ∈ (digestFor message question).writes, write.Stems message question trail := by
  intro trail write member
  obtain ⟨endingStems, hosts⟩ := endingOf_stems message question trail
  rcases List.mem_append.mp member with early | address
  · rcases List.mem_append.mp early with answer | ending
    · obtain ⟨set, part, rfl⟩ := List.mem_map.mp answer
      exact .answer set part
    · exact endingStems write ending
  · obtain ⟨set, wanted, rfl⟩ := List.mem_map.mp address
    obtain ⟨present, isWanted⟩ := List.mem_filter.mp wanted
    simp only [Bool.and_eq_true, Bool.or_eq_true, decide_eq_true_eq, List.any_eq_true] at isWanted
    obtain ⟨addresses, host, matters, same⟩ := isWanted
    obtain ⟨naming, points, named⟩ := hosts host matters
    exact .address set naming host present addresses points named same

/-- Everything that is kept of a response is drawn from it. -/
theorem digestFor_drawn (message : Message) (question : Question) :
    ∀ write ∈ (digestFor message question).writes,
      write.DrawnFrom message question.recordClass := by
  intro write member
  have within := trailOf_within question (setsInClass message .answer question.recordClass)
  cases digestFor_stems message question write member with
  | answer set part =>
    have present : set ∈ setsInClass message .answer question.recordClass := by
      rcases List.mem_append.mp part with used | final
      · exact within.used set used
      · exact (within.finals set final).1
    exact drawnFrom_of_mem present (Nat.le_refl _)
  | servers set chosen => exact drawnFrom_of_mem (covering?_eq_some chosen).1 (Nat.le_refl _)
  | absence key zoneStart incomplete about => exact ⟨Nat.le_refl _, fun _ none => by cases none⟩
  | address set naming host present addresses points named same =>
    exact drawnFrom_of_mem present (additional_le_answer _)

/-- A message says something when it has a question and a result that can be learned from. -/
theorem digest?_eq_some {message : Message} {digest : Digest}
    (said : digest? message = some digest) :
    ∃ question, message.question = some question ∧ message.result.isCacheable = true ∧
      digest = digestFor message question := by
  unfold digest? at said
  split at said
  · rename_i question asked
    split at said
    · rename_i cacheable
      cases said
      exact ⟨question, asked, cacheable, rfl⟩
    · cases said
  · cases said

/-- Whatever a message says, what is kept of it is drawn from it. -/
theorem digest?_drawn {message : Message} {digest : Digest} (said : digest? message = some digest) :
    ∃ question, message.question = some question ∧ digest = digestFor message question ∧
      ∀ write ∈ digest.writes, write.DrawnFrom message question.recordClass := by
  obtain ⟨question, asked, _, rfl⟩ := digest?_eq_some said
  exact ⟨question, asked, rfl, digestFor_drawn message question⟩

end Cache

end StubResolver
