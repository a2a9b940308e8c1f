/-
This file says where the sets of a cache come from when nothing but resolutions has filled it. All
exchanges with servers are taken down, each as the query and the response to it. A cache is filled
by the exchanges in a log when it has learned from responses in the log and from nothing else. Then
every set in it was received: it stands in a response to a question of the class of the cache.
-/

import StubResolver.Proofs.Cache.Operations

namespace StubResolver

/-! ### Exchanges -/

/-- A query, and the response to it. -/
structure Exchange where
  query : Message
  response : Message

/-- A set of a class was received: it stands in a response to a question of that class. -/
def Received (log : List Exchange) (recordClass : RecordClass) (set : RRset) : Prop :=
  set.recordClass = recordClass ∧ ∃ exchange ∈ log, ∃ question part,
    exchange.query = Message.query question ∧ question.recordClass = recordClass ∧
      set ∈ exchange.response.sets part

/-- Names in the responses of a log are absolute. -/
def AbsoluteLog (log : List Exchange) : Prop := ∀ exchange ∈ log, exchange.response.Absolute

theorem Question.equiv_iff {question other : Question} : question ≈ other ↔
    question.name ≈ other.name ∧ question.type = other.type ∧
      question.recordClass = other.recordClass := by
  show question.lowered = other.lowered ↔ _
  unfold Question.lowered
  rw [Question.mk.injEq]
  rfl

theorem Received.mono {log longer : List Exchange} (extended : log <+: longer)
    {recordClass : RecordClass} {set : RRset} (received : Received log recordClass set) :
    Received longer recordClass set := by
  obtain ⟨ofClass, exchange, member, question, part, asked⟩ := received
  exact ⟨ofClass, exchange, extended.subset member, question, part, asked⟩

/-- What was received has an absolute owner, and stands for an absolute name if for any. -/
theorem Received.absolute {log : List Exchange} (absolute : AbsoluteLog log)
    {recordClass : RecordClass} {set : RRset} (received : Received log recordClass set) :
    set.Absolute := by
  obtain ⟨_, exchange, member, _, part, _, _, present⟩ := received
  exact (Message.groupRecords_from _ set present).absolute (absolute exchange member part)

namespace Cache

/-! ### Caches filled by resolutions -/

/-- The caches that responses in a log fill. A response is learned from only if it echoes the
question, which is of the class of the cache. Apart from that anything may be done that adds no
set. -/
inductive Filled (log : List Exchange) : Cache → Prop where
  | new (recordClass : RecordClass) (limits : CacheLimits) :
      Filled log (Cache.new recordClass limits)
  | learn {cache : Cache} (filled : Filled log cache) (now : Nat) (exchange : Exchange)
      (member : exchange ∈ log) (question echoed : Question)
      (asked : exchange.query = Message.query question)
      (ofClass : question.recordClass = cache.recordClass)
      (echoes : exchange.response.question = some echoed) (same : echoed ≈ question) :
      Filled log (cache.ingestResponse now exchange.response).2
  | step {cache : Cache} (filled : Filled log cache) (now : Nat) (change : Change)
      (nothing : change.brought? = none) : Filled log (change.apply now cache)

theorem Filled.mono {log longer : List Exchange} (extended : log <+: longer) {cache : Cache}
    (filled : Filled log cache) : Filled longer cache := by
  induction filled with
  | new recordClass limits => exact .new recordClass limits
  | learn filled now exchange member question echoed asked ofClass echoes same
      inductionHypothesis =>
    exact inductionHypothesis.learn now exchange (extended.subset member) question echoed asked
      ofClass echoes same
  | step filled now change nothing inductionHypothesis =>
    exact inductionHypothesis.step now change nothing

theorem Filled.reachable {log : List Exchange} {cache : Cache} (filled : Filled log cache) :
    Reachable cache := by
  induction filled with
  | new recordClass limits => exact .new recordClass limits
  | learn filled now exchange member question echoed asked ofClass echoes same
      inductionHypothesis =>
    exact inductionHypothesis.operation now (.ingest exchange.response) trivial
  | step filled now change nothing inductionHypothesis =>
    refine inductionHypothesis.step now change ?_
    cases change with
    | storeSet set credibility => cases nothing
    | _ => exact trivial

/-- Every set of a cache is of a kind. -/
def AllSets (cache : Cache) (kind : RRset → Prop) : Prop :=
  ∀ name key entry set, cache.entryAt? name key = some entry → entry.set? = some set → kind set

/-- A step that brings only sets of a kind leaves no others, if single records leave sets of the
kind as well. -/
theorem AllSets.step {cache : Cache} {kind : RRset → Prop} (all : AllSets cache kind)
    (tidy : cache.shelf.Tidy) (now : Nat) {change : Change}
    (joins : ∀ record credibility set, change = .addRecord record credibility → kind set →
      kind (set.insert (kept record)))
    (brings : ∀ set credibility, change.brought? = some (set, credibility) → kind set) :
    AllSets (change.apply now cache) kind := by
  intro name key entry set found isSet
  cases (apply_steps tidy now change).origin name key entry found with
  | stayed before => exact all name key entry set before isSet
  | brought other credibility isBrought owner type same =>
    rw [same] at isSet
    cases isSet
    exact brings set credibility isBrought
  | joined record standing adds cacheable owner type alive same =>
    rw [same] at isSet
    obtain ⟨before, stood, becomes⟩ := Entry.joined_set? isSet
    have wasKind := all name key standing before (live?_eq_some_iff.mp alive).1 stood
    rw [becomes]
    split
    · exact joins record _ before adds wasKind
    · exact wasKind
  | absence nothing =>
    rw [Entry.set?_eq_some, nothing] at isSet
    cases isSet

/-- The same of several steps, none of which changes the class. -/
theorem AllSets.applyAll {cache : Cache} {kind : RRset → Prop} (all : AllSets cache kind)
    (tidy : cache.shelf.Tidy) (now : Nat) (changes : List Change)
    (joins : ∀ change ∈ changes, ∀ record credibility set,
      change = .addRecord record credibility → kind set → kind (set.insert (kept record)))
    (brings : ∀ change ∈ changes, ∀ set credibility,
      change.brought? = some (set, credibility) → kind set) :
    AllSets (Change.applyAll now changes cache) kind ∧
      (Change.applyAll now changes cache).recordClass = cache.recordClass := by
  induction changes generalizing cache with
  | nil => exact ⟨all, rfl⟩
  | cons change rest inductionHypothesis =>
    have steps := apply_steps tidy now change
    obtain ⟨allLater, sameClass⟩ := inductionHypothesis
      (all.step tidy now (joins change List.mem_cons_self) (brings change List.mem_cons_self))
      steps.tidy (fun other later => joins other (List.mem_cons_of_mem _ later))
      (fun other later => brings other (List.mem_cons_of_mem _ later))
    exact ⟨allLater, sameClass.trans steps.recordClass⟩

/-- Everything in a cache that responses have filled was received. -/
theorem Filled.received {log : List Exchange} {cache : Cache} (filled : Filled log cache) :
    AllSets cache (Received log cache.recordClass) := by
  induction filled with
  | new recordClass limits =>
    intro name key entry set found
    cases found
  | @learn cache filled now exchange member question echoed asked ofClass echoes same
      inductionHypothesis =>
    -- all that a response brings is of the class it echoes, which is that of the cache
    have sameClass : echoed.recordClass = cache.recordClass :=
      (Question.equiv_iff.mp same).2.2.trans ofClass
    have asOperation := Operation.apply_eq (.ingest exchange.response) now cache
    show AllSets ((Operation.ingest exchange.response).apply now cache) (Received log
      ((Operation.ingest exchange.response).apply now cache).recordClass)
    rw [asOperation]
    have written : ∀ change ∈ (Operation.ingest exchange.response).changes now cache,
        ∃ write, change = Change.ofWrite write ∧
          write.DrawnFrom exchange.response cache.recordClass := by
      intro change present
      obtain ⟨other, write, isQuestion, becomes, drawn⟩ := Operation.mem_changes_ingest present
      cases echoes.symm.trans isQuestion
      exact ⟨write, becomes, sameClass ▸ drawn⟩
    -- it comes in whole sets, so that no record joins another set
    have joins : ∀ change ∈ (Operation.ingest exchange.response).changes now cache,
        ∀ record credibility set, change = .addRecord record credibility →
          Received log cache.recordClass set →
            Received log cache.recordClass (set.insert (kept record)) := by
      intro change present record credibility _ adds
      obtain ⟨write, becomes, _⟩ := written change present
      cases write <;> cases becomes.symm.trans adds
    have brings : ∀ change ∈ (Operation.ingest exchange.response).changes now cache,
        ∀ set credibility, change.brought? = some (set, credibility) →
          Received log cache.recordClass set := by
      intro change present set credibility isBrought
      obtain ⟨write, rfl, drawn⟩ := written change present
      cases write with
      | absence name key zoneStart _ => cases isBrought
      | set other _ =>
        cases isBrought
        obtain ⟨setClass, part, inside⟩ := drawn.drawn set rfl
        exact ⟨setClass, exchange, member, question, part, asked, ofClass, inside⟩
    obtain ⟨all, classKept⟩ :=
      inductionHypothesis.applyAll filled.reachable.tidy now _ joins brings
    rw [classKept]
    exact all
  | @step cache filled now change nothing inductionHypothesis =>
    have tidy := filled.reachable.tidy
    rw [(apply_steps tidy now change).recordClass]
    refine inductionHypothesis.step tidy now ?_ ?_
    · rintro record credibility _ rfl
      cases nothing
    · intro set credibility isBrought
      rw [nothing] at isBrought
      cases isBrought

end Cache

end StubResolver
