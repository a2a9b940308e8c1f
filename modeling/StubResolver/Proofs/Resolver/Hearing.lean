/-
This file says what a resolution hears about a name, from the cache or from the network. It is an
outcome that goes back to sets that were received. Sets that answer may be found behind aliases that
one response holds; the links to them were received, too, and each leads to the next. Of a response
that does not answer, only the first alias is told.
-/

import StubResolver.Proofs.Resolver.Tracing

namespace StubResolver

variable {log : List Exchange} {recordClass : RecordClass} {type : RecordType}

/-! ### Outcomes that are heard -/

/-- What is heard about a name: an outcome, with the aliases that were crossed to reach it. Only
sets that answer are found behind aliases. -/
inductive Heard (log : List Exchange) (recordClass : RecordClass) (name : Name)
    (type : RecordType) : Ingested → Prop where
  | plain (outcome : Outcome) (backed : Backed log recordClass name type outcome) :
      Heard log recordClass name type ⟨outcome, []⟩
  | through (links : List Link) (last : Name) (chain : Chain Link.LeadsTo name links last)
      (received : ∀ link ∈ links, Received log recordClass link.set) (sets : List RRset)
      (backed : Backed log recordClass last type (.successful sets)) :
      Heard log recordClass name type ⟨.successful sets, links.map Link.crossed⟩

/-- Whether a set can be the first alias that is met at a name. -/
def StandsFor (set : RRset) (name : Name) : Prop :=
  set.type = .cname ∧ set.name ≈ name ∨ set.type = .dname ∧ ¬ set.name ≈ name

theorem standsFor_of_isAliasFor {set : RRset} {name : Name}
    (standsFor : Cache.isAliasFor set name = true) : StandsFor set name := by
  rcases Cache.isAliasFor_iff.mp standsFor with own | ⟨isDname, differ, _⟩
  · exact Or.inl own
  · exact Or.inr ⟨isDname, differ⟩

theorem Link.LeadsTo.standsFor {link : Link} {next : Name} (leads : link.LeadsTo next) :
    StandsFor link.set link.crossed := by
  obtain ⟨_, _, ⟨type, owner, _⟩ | ⟨type, differ, _⟩⟩ := leads
  · exact Or.inl ⟨type, owner⟩
  · exact Or.inr ⟨type, differ⟩

theorem StandsFor.congr {set : RRset} {name other : Name} (standsFor : StandsFor set name)
    (same : name ≈ other) : StandsFor set other := by
  rcases standsFor with ⟨type, owner⟩ | ⟨type, differ⟩
  · exact Or.inl ⟨type, Setoid.trans owner same⟩
  · exact Or.inr ⟨type, fun owner => differ (Setoid.trans owner (Setoid.symm same))⟩

/-- The first alias, taken as an outcome. -/
theorem StandsFor.backed {set : RRset} {name : Name} (standsFor : StandsFor set name)
    (received : Received log recordClass set) :
    Backed log recordClass name type (Cache.aliasOutcome set) := by
  unfold Cache.aliasOutcome
  rcases standsFor with ⟨isCname, owner⟩ | ⟨isDname, differ⟩
  · rw [if_neg (by rw [isCname]; decide)]
    exact ⟨received, isCname, owner⟩
  · rw [if_pos isDname]
    exact ⟨received, isDname, differ⟩

namespace Cache

/-- Where a trail that follows links started, its first set stands for something. -/
theorem Trail.Follows.first_standsFor {trail : Trail} {start : Name} {links : List Link}
    (follows : trail.Follows start links) {set : RRset} {rest : List RRset}
    (used : trail.used = set :: rest) : StandsFor set start := by
  have chain := follows.chain
  cases links with
  | nil =>
    rcases follows.used with none | ⟨_, only, standsFor, last⟩
    · cases used.symm.trans none
    · cases used.symm.trans last
      exact (standsFor_of_isAliasFor standsFor).congr (Setoid.symm chain)
  | cons link others =>
    obtain ⟨starts, next, leads, _⟩ := chain
    have first : set = link.set := by
      rcases follows.used with all | ⟨_, only, _, last⟩
      · exact (List.cons.inj (used.symm.trans all)).1
      · exact (List.cons.inj (used.symm.trans last)).1
    rw [first]
    exact leads.standsFor.congr (Setoid.symm starts)

end Cache

/-- An outcome that leads nowhere needs nothing behind it. -/
theorem Outcome.LeadsNowhere.backed {outcome : Outcome} (nowhere : outcome.LeadsNowhere)
    {name : Name} : Backed log recordClass name type outcome := by
  cases outcome with
  | successful sets => exact nowhere.elim
  | cname set => exact nowhere.elim
  | dname set => exact nowhere.elim
  | _ => exact trivial

/-- What is heard of a response that was received and echoes the question. -/
theorem heard_of_digest {question echoed : Question} {response : Message}
    (member : ⟨Message.query question, response⟩ ∈ log) (absolute : AbsoluteLog log)
    (echoes : response.question = some echoed) (same : echoed ≈ question)
    (isAbsolute : question.name.absolute = true) {digest : Cache.Digest}
    (said : Cache.digest? response = some digest) :
    Heard log question.recordClass question.name question.type digest.ingested := by
  obtain ⟨asked, isQuestion, rfl, _⟩ := Cache.digest?_drawn said
  cases echoes.symm.trans isQuestion
  obtain ⟨sameName, sameType, sameClass⟩ := Question.equiv_iff.mp same
  have echoAbsolute : echoed.name.absolute = true :=
    (Name.absolute_of_equiv sameName).trans isAbsolute
  have received : ∀ set ∈ Cache.setsInClass response .answer echoed.recordClass,
      Received log question.recordClass set := by
    intro set present
    obtain ⟨ofClass, inside⟩ := Cache.mem_setsInClass present
    exact ⟨ofClass.trans sameClass, _, member, question, .answer, rfl, rfl, inside⟩
  have within := Cache.trailOf_within echoed
    (Cache.setsInClass response .answer echoed.recordClass)
  obtain ⟨links, follows⟩ := Cache.trailOf_follows echoed echoAbsolute fun set present =>
    (received set present).absolute absolute
  -- aliases are reported only with an answer, and only then were all of them crossed
  by_cases unanswered : (Cache.trailThrough response echoed).finals = []
  · obtain ⟨otherwise, nowhere, ingested⟩ :=
      Cache.digestFor_ingested_of_open response echoed unanswered
    rw [ingested]
    refine .plain _ ?_
    unfold Cache.firstAliasOr
    split
    · exact nowhere.backed
    · rename_i set rest used
      have present := within.used set (used ▸ List.mem_cons_self)
      exact ((follows.first_standsFor used).congr sameName).backed (received set present)
  · rw [Cache.digestFor_ingested_of_finals response echoed unanswered, follows.aliases]
    have used := follows.used.resolve_right fun stuck => unanswered stuck.1
    refine .through links _ (follows.chain.congr_start (Setoid.symm sameName)) ?_ _ ?_
    · intro link present
      exact received _ (within.used _ (used ▸ List.mem_map_of_mem present))
    · intro set final
      obtain ⟨present, answers⟩ := within.finals set final
      obtain ⟨owner, wanted⟩ := of_decide_eq_true answers
      exact ⟨received set present, owner, sameType ▸ wanted⟩

/-! ### Asking the network -/

/-- A response that is of use echoes the question. -/
theorem Failure.ofResponse?_eq_none {question : Question} {response : Message}
    (useful : Failure.ofResponse? question response = none) :
    ∃ echoed, response.question = some echoed ∧ echoed ≈ question := by
  unfold ofResponse? at useful
  split at useful
  · cases useful
  · split at useful
    · rename_i echoed echoes
      by_cases same : echoed ≈ question
      · exact ⟨echoed, echoes, same⟩
      · rw [if_neg same] at useful
        cases useful
    · cases useful

/-- A response that is of use has a result that can be learned from. -/
theorem Failure.isCacheable_of_useful {question : Question} {response : Message}
    (useful : Failure.ofResponse? question response = none) :
    response.result.isCacheable = true := by
  unfold ofResponse? at useful
  split at useful
  · cases useful
  · rename_i cacheable
    simpa using cacheable

namespace Faithful

variable {World : Type} {services : Services World} {sound : World → Prop}
  {log : World → List Exchange}

/-- What is learned from a response that echoes the question is heard. -/
theorem learn (faithful : Faithful services recordClass sound log) {world : World}
    (isSound : sound world) {question echoed : Question} {response : Message}
    (member : ⟨Message.query question, response⟩ ∈ log world)
    (ofClass : question.recordClass = recordClass) (echoes : response.question = some echoed)
    (same : echoed ≈ question) (isAbsolute : question.name.absolute = true)
    (credibility : Credibility) :
    sound (services.learn world question credibility response).2 ∧
      log world <+: log (services.learn world question credibility response).2 ∧
      Heard (log (services.learn world question credibility response).2) recordClass question.name
        question.type (services.learn world question credibility response).1 := by
  obtain ⟨soundThen, extended, reported⟩ :=
    faithful.ingest world question response echoed isSound member ofClass echoes same
  unfold Services.learn
  split
  · rename_i ingested learned said
    rw [said] at soundThen extended reported
    obtain ⟨digest, isDigest, rfl⟩ := Option.map_eq_some_iff.mp reported.symm
    rw [← ofClass]
    have later := extended.subset member
    exact ⟨soundThen, extended, heard_of_digest later (faithful.absolute _ soundThen) echoes same
      isAbsolute isDigest⟩
  · rename_i unchanged said
    rw [said] at soundThen extended
    obtain ⟨soundAfter, later, backed⟩ := faithful.lookup unchanged question.name question.type
      credibility soundThen isAbsolute
    exact ⟨soundAfter, extended.trans later, .plain _ backed⟩

/-- What comes of asking the network is heard. -/
theorem ask (faithful : Faithful services recordClass sound log) {world : World}
    (isSound : sound world) (question : Question) (ofClass : question.recordClass = recordClass)
    (isAbsolute : question.name.absolute = true) (credibility : Credibility) :
    sound (services.ask world question credibility).2 ∧
      log world <+: log (services.ask world question credibility).2 ∧
      ∀ ingested, (services.ask world question credibility).1 = .ok ingested →
        Heard (log (services.ask world question credibility).2) recordClass question.name
          question.type ingested := by
  obtain ⟨soundThen, extended, taken⟩ := faithful.send world (Message.query question) isSound
  unfold Services.ask
  split
  · rename_i error sent isSent
    rw [isSent] at soundThen extended
    refine ⟨soundThen, extended, fun ingested said => ?_⟩
    cases said
  · rename_i response sent isSent
    rw [isSent] at soundThen extended taken
    split
    · refine ⟨soundThen, extended, fun ingested said => ?_⟩
      cases said
    · rename_i useful
      obtain ⟨echoed, echoes, same⟩ := Failure.ofResponse?_eq_none useful
      obtain ⟨soundAfter, later, heard⟩ := faithful.learn soundThen (taken response rfl) ofClass
        echoes same isAbsolute credibility
      refine ⟨soundAfter, extended.trans later, fun ingested said => ?_⟩
      cases said
      exact heard

end Faithful

end StubResolver
