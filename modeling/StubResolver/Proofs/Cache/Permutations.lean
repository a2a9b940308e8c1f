/-
This file proves that the order of an answer section does not matter, as long as the answers are
unambiguous: no set redirects a subtree, a name has one alias at most, and no record comes with two
lifetimes. Otherwise it does matter, since of several aliases the first is followed, and of several
lifetimes the first is kept.

Two orders of the same answers are read as sets of the same contents. At each step the way through
them has no choice, so that it crosses the same names and makes use of the same sets one after the
other; only the sets that it ends at may come in another order. These are written last, each to a
place of its own. So every place has the same bids in the same order.

The case of letters would be in the way, as a set takes its spelling from the record that comes
first. But a cache takes no notice of case, and it is enough to look at answers in lower case.
-/

import StubResolver.Proofs.Cache.Repetition
import StubResolver.Proofs.Contents
import StubResolver.Proofs.LetterCase.Caches

namespace StubResolver

/-! ### Unambiguous answers -/

/-- Answers that leave no choice to whoever reads them. -/
structure Record.Unambiguous (records : List Record) : Prop where
  /-- No record belongs to a set that redirects a subtree. -/
  direct : ∀ record ∈ records, record.setType ≠ .dname
  /-- A name stands for one other name at most. -/
  oneAlias : ∀ first ∈ records, ∀ second ∈ records, first.type = .cname → second.type = .cname →
    first.name ≈ second.name → first.recordClass = second.recordClass → first ≈ second
  /-- The same record does not come with two lifetimes. -/
  oneTtl : ∀ first ∈ records, ∀ second ∈ records, first ≈ second → first.ttl = second.ttl

theorem Record.Unambiguous.perm {records others : List Record} (clear : Unambiguous records)
    (reordered : records.Perm others) : Unambiguous others where
  direct record member := clear.direct record (reordered.mem_iff.mpr member)
  oneAlias first isFirst second isSecond :=
    clear.oneAlias first (reordered.mem_iff.mpr isFirst) second (reordered.mem_iff.mpr isSecond)
  oneTtl first isFirst second isSecond :=
    clear.oneTtl first (reordered.mem_iff.mpr isFirst) second (reordered.mem_iff.mpr isSecond)

theorem Record.Unambiguous.lowered {records : List Record} (clear : Unambiguous records) :
    Unambiguous (records.map Record.lowered) where
  direct := by
    intro record member
    obtain ⟨original, present, rfl⟩ := List.mem_map.mp member
    rw [setType_lowered]
    exact clear.direct original present
  oneAlias := by
    intro first isFirst second isSecond firstType secondType owner ofClass
    obtain ⟨original, present, rfl⟩ := List.mem_map.mp isFirst
    obtain ⟨other, otherPresent, rfl⟩ := List.mem_map.mp isSecond
    rw [type_lowered] at firstType secondType
    rw [lowered_equiv_lowered]
    exact clear.oneAlias original present other otherPresent firstType secondType
      (Name.lowered_equiv_lowered.mp owner) ofClass
  oneTtl := (oneForm_lowered clear.oneTtl).oneTtl

/-- What is no signature belongs to the sets of its own type. -/
theorem Record.setType_of_unsigned {record : Record} (unsigned : record.isSignature = false) :
    record.setType = record.type := by
  unfold isSignature type at unsigned
  unfold setType
  cases data : record.data with
  | rrsig covered octets =>
    rw [data] at unsigned
    cases unsigned
  | _ => rfl

/-! ### What is reported and what is kept -/

/-- What an outcome comes to when no order means anything. -/
structure Outcome.Content where
  kind : String
  sets : Multiset RRset.Content

/-- The contents of an outcome. -/
def Outcome.content (outcome : Outcome) : Outcome.Content :=
  ⟨outcome.kind, outcome.sets.map RRset.content⟩

/-- What a report comes to when no order means anything but that of the aliases. -/
structure Ingested.Content where
  outcome : Outcome.Content
  aliases : List Name

/-- The contents of a report. -/
def Ingested.content (ingested : Ingested) : Ingested.Content :=
  ⟨ingested.outcome.content, ingested.aliases⟩

namespace Cache

/-- What an entry comes to when the order of records means nothing. An absence has no set. -/
structure Entry.Content where
  set : Option RRset.Content
  credibility : Credibility
  expiresAt : Nat

/-- The contents of an entry. -/
def Entry.content (entry : Entry) : Entry.Content :=
  ⟨entry.set?.map RRset.content, entry.credibility, entry.expiresAt⟩

/-! ### One step of the way -/

theorem isAliasFor_of_content {first second : RRset} (same : first.content = second.content)
    (name : Name) : isAliasFor first name = isAliasFor second name := by
  obtain ⟨owner, type, _⟩ := RRset.content_eq_iff.mp same
  simp only [isAliasFor, owner, type]

theorem answersQuestion_factorsThrough (name : Name) (type : RecordType) :
    (answersQuestion name type).FactorsThrough RRset.content := by
  intro first second same
  obtain ⟨owner, ofType, _⟩ := RRset.content_eq_iff.mp same
  simp only [answersQuestion, owner, ofType]

/-- A list with at most one element has no other order. -/
theorem eq_of_perm_of_short {Element : Type} {first second : List Element}
    (reordered : first.Perm second) (short : second.length ≤ 1) : first = second := by
  match second with
  | [] => exact reordered.eq_nil
  | [_] => exact reordered.eq_singleton
  | _ :: _ :: _ => simp at short

/-- Sets of at most one record that have the same contents lead to the same name. -/
theorem aliasDestination?_of_content {first second : RRset} (same : first.content = second.content)
    (short : second.records.length ≤ 1) (name : Name) :
    aliasDestination? first name = aliasDestination? second name := by
  obtain ⟨owner, type, _, records, _⟩ := RRset.content_eq_iff.mp same
  have target : first.aliasTarget? = second.aliasTarget? := by
    unfold RRset.aliasTarget?
    rw [eq_of_perm_of_short records short]
  rw [aliasDestination?_eq, aliasDestination?_eq, target, owner, type]

/-- Answers among which a name has at most one alias, and that is one record. -/
structure SingleAliases (answers : List RRset) : Prop where
  one : ∀ first ∈ answers, ∀ second ∈ answers, ∀ name,
    isAliasFor first name = true → isAliasFor second name = true → first = second
  short : ∀ set ∈ answers, ∀ name, isAliasFor set name = true → set.records.length ≤ 1

/-- Unambiguous answers have single aliases. -/
theorem singleAliases_of_unambiguous {message : Message}
    (clear : Record.Unambiguous message.answers) (recordClass : RecordClass) :
    SingleAliases (setsInClass message .answer recordClass) := by
  have isCname {set : RRset} (member : set ∈ setsInClass message .answer recordClass) {name : Name}
      (standsFor : isAliasFor set name = true) : set.type = .cname ∧ set.name ≈ name := by
    obtain named | ⟨isDname, _⟩ := isAliasFor_iff.mp standsFor
    · exact named
    · have present := (mem_setsInClass member).2
      have coherent := message.sets_coherent .answer set present
      obtain ⟨record, inside⟩ := List.exists_mem_of_ne_nil _ coherent.filled
      have belongs := (RRset.accepts_iff set record).mp (coherent.belong record inside)
      have source := (Message.groupRecords_from _ set present).2 record inside
      exact absurd (belongs.2.2.trans isDname) (clear.direct record source)
  constructor
  · intro first isFirst second isSecond name firstStands secondStands
    obtain ⟨firstType, firstName⟩ := isCname isFirst firstStands
    obtain ⟨secondType, secondName⟩ := isCname isSecond secondStands
    exact setsInClass_apart isFirst isSecond (Setoid.trans firstName (Setoid.symm secondName))
      (firstType.trans secondType.symm)
  · intro set member name standsFor
    have present := (mem_setsInClass member).2
    have coherent := message.sets_coherent .answer set present
    have ofSet {record : Record} (inside : record ∈ set.records) :
        record ∈ message.answers ∧ record.type = .cname ∧ record.name ≈ set.name ∧
          record.recordClass = set.recordClass := by
      obtain ⟨owner, ofClass, ofType⟩ := coherent.record inside
      rw [Record.setType_of_unsigned (coherent.records record inside)] at ofType
      exact ⟨(Message.groupRecords_from _ set present).2 record (List.mem_append_left _ inside),
        ofType.trans (isCname member standsFor).1, owner, ofClass⟩
    refine short_of_pairwise coherent.distinct fun first inside second alsoInside => ?_
    obtain ⟨isFirst, firstType, firstName, firstClass⟩ := ofSet inside
    obtain ⟨isSecond, secondType, secondName, secondClass⟩ := ofSet alsoInside
    exact clear.oneAlias first isFirst second isSecond firstType secondType
      (Setoid.trans firstName (Setoid.symm secondName)) (firstClass.trans secondClass.symm)

/-! ### The way through two orders of the answers -/

/-- The element that is found and what is left without it are the whole list. -/
theorem perm_cons_eraseP {Element : Type} {wanted : Element → Bool} {elements : List Element}
    {element : Element} (found : elements.find? wanted = some element) :
    elements.Perm (element :: elements.eraseP wanted) := by
  induction elements with
  | nil => cases found
  | cons first rest inductionHypothesis =>
    by_cases isFirst : wanted first = true
    · rw [List.find?_cons_of_pos isFirst] at found
      cases found
      rw [List.eraseP_cons_of_pos isFirst]
    · rw [List.find?_cons_of_neg isFirst] at found
      rw [List.eraseP_cons_of_neg isFirst]
      exact ((inductionHypothesis found).cons first).trans (.swap ..)

section

variable {answers others unused left : List RRset}

/-- In two lists of the same contents the same alias is found, or none, and what is left has the
same contents. -/
theorem find?_isAliasFor_content (single : SingleAliases left)
    (same : (unused.map RRset.content).Perm (left.map RRset.content)) (name : Name) :
    unused.find? (isAliasFor · name) = none ∧ left.find? (isAliasFor · name) = none ∨
      ∃ set other, unused.find? (isAliasFor · name) = some set ∧
        left.find? (isAliasFor · name) = some other ∧ set.content = other.content ∧
        ((unused.eraseP (isAliasFor · name)).map RRset.content).Perm
          ((left.eraseP (isAliasFor · name)).map RRset.content) := by
  cases found : unused.find? (isAliasFor · name) with
  | none =>
    refine .inl ⟨rfl, List.find?_eq_none.mpr fun other member standsFor => ?_⟩
    obtain ⟨set, present, content⟩ := RRset.exists_of_content_perm same.symm member
    exact List.find?_eq_none.mp found set present
      ((isAliasFor_of_content content name).symm.trans standsFor)
  | some set =>
    obtain ⟨twin, twinIn, content⟩ :=
      RRset.exists_of_content_perm same (List.mem_of_find?_eq_some found)
    have twinStands : isAliasFor twin name = true :=
      (isAliasFor_of_content content name).symm.trans
        (List.find?_some (p := (isAliasFor · name)) found)
    cases otherFound : left.find? (isAliasFor · name) with
    | none => exact absurd twinStands (List.find?_eq_none.mp otherFound twin twinIn)
    | some other =>
      obtain rfl : twin = other := single.one twin twinIn other
        (List.mem_of_find?_eq_some otherFound) name twinStands
        (List.find?_some (p := (isAliasFor · name)) otherFound)
      refine .inr ⟨set, twin, rfl, rfl, content, ?_⟩
      have whole := ((perm_cons_eraseP found).map RRset.content).symm.trans
        (same.trans ((perm_cons_eraseP otherFound).map RRset.content))
      rw [List.map_cons, List.map_cons, content] at whole
      exact whole.cons_inv

/-- Trails that come to the same: only the sets that answer may have another order. -/
structure Trail.Agrees (first second : Trail) : Prop where
  current : first.current = second.current
  aliases : first.aliases = second.aliases
  used : first.used.map RRset.content = second.used.map RRset.content
  finals : (first.finals.map RRset.content).Perm (second.finals.map RRset.content)

theorem SingleAliases.sublist (single : SingleAliases answers) (part : left.Sublist answers) :
    SingleAliases left where
  one first isFirst second isSecond :=
    single.one first (part.mem isFirst) second (part.mem isSecond)
  short set member := single.short set (part.mem member)

/-- Aliases are followed the same way through two orders of the answers. -/
theorem follow_agrees (type : RecordType)
    (same : (answers.map RRset.content).Perm (others.map RRset.content)) (hops : Nat)
    (single : SingleAliases left)
    (remain : (unused.map RRset.content).Perm (left.map RRset.content)) {trail other : Trail}
    (agrees : trail.Agrees other) :
    (follow answers type hops unused trail).Agrees (follow others type hops left other) := by
  induction hops generalizing unused left trail other with
  | zero => exact agrees
  | succ hops inductionHypothesis =>
    have finals := RRset.filter_content_perm
      (answersQuestion_factorsThrough other.current type) same
    unfold follow
    rw [agrees.current]
    cases otherFinals : others.filter (answersQuestion other.current type) with
    | cons first rest =>
      rw [otherFinals] at finals
      cases answered : answers.filter (answersQuestion other.current type) with
      | nil =>
        rw [answered] at finals
        cases finals.symm.eq_nil
      | cons _ _ =>
        rw [answered] at finals
        exact ⟨rfl, agrees.aliases, agrees.used, finals⟩
    | nil =>
      rw [otherFinals] at finals
      rw [List.map_eq_nil_iff.mp finals.eq_nil]
      dsimp only
      obtain ⟨none, otherNone⟩ | ⟨set, twin, found, twinFound, content, less⟩ :=
        find?_isAliasFor_content single remain other.current
      · rw [none, otherNone]
        exact agrees
      · have short := single.short twin (List.mem_of_find?_eq_some twinFound) other.current
          (List.find?_some (p := (isAliasFor · other.current)) twinFound)
        have used : (trail.used ++ [set]).map RRset.content =
            (other.used ++ [twin]).map RRset.content := by
          rw [List.map_append, List.map_append, agrees.used, List.map_singleton,
            List.map_singleton, content]
        rw [found, twinFound]
        dsimp only
        rw [aliasDestination?_of_content content short]
        cases aliasDestination? twin other.current with
        | none => exact ⟨rfl, agrees.aliases, used, agrees.finals⟩
        | some next =>
          refine inductionHypothesis (single.sublist List.eraseP_sublist) less
            ⟨rfl, ?_, used, agrees.finals⟩
          rw [agrees.aliases]

end

/-- The trails through two orders of the answers come to the same. -/
theorem trailOf_agrees (question : Question) {answers others : List RRset}
    (single : SingleAliases others)
    (same : (answers.map RRset.content).Perm (others.map RRset.content)) :
    (trailOf question answers).Agrees (trailOf question others) :=
  follow_agrees question.type same (maxAliases + 1) single same ⟨rfl, rfl, rfl, .nil⟩

/-! ### The end of the way -/

theorem mem_namedHosts_of_content {first second : RRset} (same : first.content = second.content)
    (host : Name) : host ∈ namedHosts first ↔ host ∈ namedHosts second := by
  obtain ⟨_, _, _, records, _⟩ := RRset.content_eq_iff.mp same
  exact (records.filterMap _).mem_iff

/-- Which hosts are named by a list of sets does not depend on any order. -/
theorem mem_flatMap_namedHosts {sets others : List RRset}
    (same : (sets.map RRset.content).Perm (others.map RRset.content)) (host : Name) :
    host ∈ sets.flatMap namedHosts ↔ host ∈ others.flatMap namedHosts := by
  have part {sets others : List RRset}
      (same : (sets.map RRset.content).Perm (others.map RRset.content))
      (named : host ∈ sets.flatMap namedHosts) : host ∈ others.flatMap namedHosts := by
    obtain ⟨set, member, names⟩ := List.mem_flatMap.mp named
    obtain ⟨other, present, content⟩ := RRset.exists_of_content_perm same member
    exact List.mem_flatMap.mpr ⟨other, present, (mem_namedHosts_of_content content host).mp names⟩
  exact ⟨part same, part same.symm⟩

/-- Of the addresses that came along, those of the same hosts are kept. -/
theorem addressWrites_congr (message : Message) (recordClass : RecordClass)
    {hosts others : List Name} (same : ∀ host, host ∈ hosts ↔ host ∈ others) :
    addressWrites message recordClass hosts = addressWrites message recordClass others := by
  have matter (name : Name) : hosts.any (· ≈ name) = others.any (· ≈ name) := by
    rw [Bool.eq_iff_iff, List.any_eq_true, List.any_eq_true]
    simp only [same]
  unfold addressWrites
  simp only [matter]

/-- Endings that come to the same. -/
structure Ending.Agrees (first second : Ending) : Prop where
  writes : first.writes = second.writes
  hosts : ∀ host, host ∈ first.hosts ↔ host ∈ second.hosts
  outcome : first.outcome.content = second.outcome.content

theorem aliasOutcome_of_content {first second : RRset} (same : first.content = second.content) :
    (aliasOutcome first).content = (aliasOutcome second).content := by
  obtain ⟨_, type, _⟩ := RRset.content_eq_iff.mp same
  unfold aliasOutcome
  rw [type]
  split <;> simp [Outcome.content, Outcome.kind, Outcome.sets, same]

section

variable {trail other : Trail}

theorem Trail.Agrees.firstAliasOr_content (agrees : trail.Agrees other) (otherwise : Outcome) :
    (firstAliasOr trail otherwise).content = (firstAliasOr other otherwise).content := by
  have used := agrees.used
  unfold firstAliasOr
  cases crossed : trail.used with
  | nil =>
    rw [crossed, List.map_nil] at used
    rw [List.map_eq_nil_iff.mp used.symm]
  | cons set rest =>
    rw [crossed, List.map_cons] at used
    obtain ⟨twin, others, otherUsed, content, _⟩ := List.map_eq_cons_iff.mp used.symm
    rw [otherUsed]
    exact aliasOutcome_of_content content.symm

theorem Trail.Agrees.isEmpty_eq (agrees : trail.Agrees other) :
    trail.finals.isEmpty = other.finals.isEmpty := by
  have same := agrees.finals.isEmpty_eq
  rwa [List.isEmpty_map, List.isEmpty_map] at same

theorem endWithAnswer_agrees (agrees : trail.Agrees other) (message : Message)
    (servers : Option RRset) :
    (endWithAnswer message trail servers).Agrees (endWithAnswer message other servers) := by
  have hosts := mem_flatMap_namedHosts agrees.finals
  have outcome : (Outcome.successful trail.finals).content =
      (Outcome.successful other.finals).content :=
    congrArg (Outcome.Content.mk "successful") (Multiset.coe_eq_coe.mpr agrees.finals)
  unfold endWithAnswer
  cases servers with
  | none => exact ⟨rfl, hosts, outcome⟩
  | some set =>
    dsimp only
    split
    · refine ⟨rfl, fun host => ?_, outcome⟩
      rw [List.mem_append, List.mem_append, hosts]
    · exact ⟨rfl, hosts, outcome⟩

/-- Trails that come to the same end the same way. -/
theorem endingOf_agrees (agrees : trail.Agrees other) (message : Message) (type : RecordType)
    (authority : List RRset) :
    (endingOf message type trail authority).Agrees (endingOf message type other authority) := by
  have absence (zone : Option RRset) :
      (endWithAbsence message type trail zone).Agrees (endWithAbsence message type other zone) := by
    unfold endWithAbsence
    rw [agrees.current]
    exact ⟨rfl, fun _ => Iff.rfl, agrees.firstAliasOr_content _⟩
  have servers (set : RRset) :
      (endWithServers message trail set).Agrees (endWithServers message other set) :=
    ⟨rfl, fun _ => Iff.rfl, agrees.firstAliasOr_content _⟩
  unfold endingOf
  rw [agrees.current, agrees.isEmpty_eq]
  dsimp only
  split
  · exact endWithAnswer_agrees agrees message _
  · split
    · split
      · exact servers _
      · exact absence _
    · exact absence _

end

/-! ### Bids -/

/-- What a bid comes to when the order of records means nothing. -/
structure Bid.Content where
  fresh : Option Entry.Content
  credibility : Credibility

/-- The contents of a bid. -/
def Bid.content (bid : Bid) : Bid.Content := ⟨bid.fresh.map Entry.content, bid.credibility⟩

theorem Entry.content_eq_iff {first second : Entry} :
    first.content = second.content ↔ first.set?.map RRset.content = second.set?.map RRset.content ∧
      first.credibility = second.credibility ∧ first.expiresAt = second.expiresAt := by
  simp [content]

/-- What depends on contents alone keeps the same of what stands in a place. -/
theorem filter_entry_content {keep : Entry → Bool} (respects : keep.FactorsThrough Entry.content)
    {standing other : Option Entry} (same : standing.map Entry.content = other.map Entry.content) :
    (standing.filter keep).map Entry.content = (other.filter keep).map Entry.content := by
  obtain ⟨test, rfl⟩ := (Function.factorsThrough_iff keep).mp respects
  rw [← Option.filter_map, ← Option.filter_map, same]

/-- Bids of the same contents come to the same. -/
theorem Bid.results_content (now : Nat) {bids others : List Bid}
    (same : bids.map content = others.map content) {standing other : Option Entry}
    (stands : standing.map Entry.content = other.map Entry.content) :
    (results now standing bids).map Entry.content =
      (results now other others).map Entry.content := by
  induction bids generalizing others standing other with
  | nil =>
    rw [List.map_eq_nil_iff.mp same.symm]
    exact stands
  | cons bid rest inductionHypothesis =>
    obtain ⟨twin, later, rfl, content, restSame⟩ := List.map_eq_cons_iff.mp same.symm
    refine inductionHypothesis restSame.symm ?_
    obtain ⟨fresh, credibility⟩ := Bid.Content.mk.inj content
    have alive : (fun entry : Entry => !entry.isExpired now).FactorsThrough Entry.content := by
      intro first second same
      simp only [Entry.isExpired, (Entry.content_eq_iff.mp same).2.2]
    have outranks : (fun entry : Entry => decide (bid.credibility < entry.credibility))
        |>.FactorsThrough Entry.content := by
      intro first second same
      simp only [(Entry.content_eq_iff.mp same).2.1]
    unfold result settled
    rw [Option.map_or, Option.map_or, fresh, credibility,
      filter_entry_content outranks (filter_entry_content alive stands)]

/-- Whether a set stands in a place. -/
def standsAt (name : Name) (key : EntryKey) (set : RRset) : Bool :=
  set.name ≈ name ∧ EntryKey.type set.type = key

section

variable (limits : CacheLimits) (now : Nat) (credibility : Credibility) (name : Name)
  (key : EntryKey)

theorem standsAt_factorsThrough : (standsAt name key).FactorsThrough RRset.content := by
  intro first second same
  obtain ⟨owner, type, _⟩ := RRset.content_eq_iff.mp same
  simp only [standsAt, owner, type]

/-- Writes of the same bids are as good as each other in front of further writes. -/
theorem bidsAt_append_content {writes others : List Write}
    (same : (bidsAt limits now writes name key).map Bid.content =
      (bidsAt limits now others name key).map Bid.content) (rest : List Write) :
    (bidsAt limits now (writes ++ rest) name key).map Bid.content =
      (bidsAt limits now (others ++ rest) name key).map Bid.content := by
  have splits (writes : List Write) : bidsAt limits now (writes ++ rest) name key =
      bidsAt limits now writes name key ++ bidsAt limits now rest name key := by
    simp [bidsAt]
  rw [splits, splits, List.map_append, List.map_append, same]

/-- Sets of the same contents bid the same. -/
theorem bid_content_factorsThrough :
    (fun set => ((Write.set set credibility).bid limits now).content).FactorsThrough
      RRset.content := by
  intro first second same
  have ttl := RRset.ttl_eq_of_content same
  have fresh : (entryOfSet? limits now first credibility).map Entry.content =
      (entryOfSet? limits now second credibility).map Entry.content := by
    unfold entryOfSet?
    rw [ttl]
    split
    · rfl
    · exact congrArg some (Entry.content_eq_iff.mpr
        ⟨congrArg some same, rfl, by simp only [Entry.ofSet, ttl]⟩)
  exact congrArg (Bid.Content.mk · credibility) fresh

theorem bidsAt_sets_content {sets others : List RRset}
    (same : (sets.filter (standsAt name key)).map RRset.content =
      (others.filter (standsAt name key)).map RRset.content) :
    (bidsAt limits now (sets.map fun set => .set set credibility) name key).map Bid.content =
      (bidsAt limits now (others.map fun set => .set set credibility) name key).map
        Bid.content := by
  have bids (sets : List RRset) :
      (bidsAt limits now (sets.map fun set => .set set credibility) name key).map Bid.content =
        (sets.filter (standsAt name key)).map
          fun set => ((Write.set set credibility).bid limits now).content := by
    unfold bidsAt
    rw [List.filter_map, List.map_map, List.map_map]
    rfl
  rw [bids, bids]
  exact RRset.map_eq_of_content (bid_content_factorsThrough limits now credibility) same

/-- Trails that come to the same make the same bids for a place, if no more than one of the sets
that answer stands there. -/
theorem Trail.Agrees.bidsAt_content {trail other : Trail} (agrees : trail.Agrees other)
    (short : (other.finals.filter (standsAt name key)).length ≤ 1) :
    (bidsAt limits now ((trail.used ++ trail.finals).map fun set => .set set credibility)
        name key).map Bid.content =
      (bidsAt limits now ((other.used ++ other.finals).map fun set => .set set credibility)
        name key).map Bid.content := by
  have respects := standsAt_factorsThrough name key
  have used := RRset.filter_content respects agrees.used
  have finals : (trail.finals.filter (standsAt name key)).map RRset.content =
      (other.finals.filter (standsAt name key)).map RRset.content := by
    refine eq_of_perm_of_short (RRset.filter_content_perm respects agrees.finals) ?_
    rw [List.length_map]
    exact short
  refine bidsAt_sets_content limits now credibility name key ?_
  rw [List.filter_append, List.filter_append, List.map_append, List.map_append, used, finals]

end

/-- No two of the sets that answer stand in one place. -/
theorem finals_short (message : Message) (question : Question) (name : Name) (key : EntryKey) :
    ((trailThrough message question).finals.filter (standsAt name key)).length ≤ 1 := by
  obtain ⟨_, _, walks⟩ := trailOf_walks question
    (setsInClass message .answer question.recordClass)
  have part : (trailThrough message question).finals.Sublist (message.sets .answer) := by
    obtain nothing | ⟨_, answering⟩ := walks.finals
    · exact nothing ▸ List.nil_sublist _
    · exact answering ▸ List.filter_sublist.trans List.filter_sublist
  have ofPlace {set : RRset}
      (member : set ∈ (trailThrough message question).finals.filter (standsAt name key)) :
      set.recordClass = question.recordClass ∧ set.name ≈ name ∧ EntryKey.type set.type = key := by
    obtain ⟨final, stands⟩ := List.mem_filter.mp member
    exact ⟨(mem_setsInClass (walks.within.finals set final).1).1, of_decide_eq_true stands⟩
  refine short_of_pairwise ((Message.groupRecords_apart _).sublist
    (List.filter_sublist.trans part)) fun first isFirst second isSecond => ?_
  obtain ⟨firstClass, firstName, firstType⟩ := ofPlace isFirst
  obtain ⟨secondClass, secondName, secondType⟩ := ofPlace isSecond
  exact ⟨Setoid.trans firstName (Setoid.symm secondName), firstClass.trans secondClass.symm,
    EntryKey.type.inj (firstType.trans secondType.symm)⟩

/-! ### Responses -/

section

variable {message : Message} {answers : List Record}

/-- The trails of a question through a response and through the same response with its answers in
another order. -/
theorem trailThrough_agrees (reordered : message.answers.Perm answers)
    (oneForm : Record.OneForm message.answers) (clear : Record.Unambiguous message.answers)
    (question : Question) :
    (trailThrough message question).Agrees
      (trailThrough { message with answers := answers } question) := by
  have ofClass : (fun set : RRset => decide (set.recordClass = question.recordClass))
      |>.FactorsThrough RRset.content := by
    intro first second same
    simp only [(RRset.content_eq_iff.mp same).2.2.1]
  exact trailOf_agrees question
    (singleAliases_of_unambiguous (clear.perm reordered) question.recordClass)
    (RRset.filter_content_perm ofClass (oneForm.groupRecords_content reordered))

/-- What a response bids for a place, and what is reported of it, does not depend on the order of
its answers. -/
theorem digestFor_content (reordered : message.answers.Perm answers)
    (oneForm : Record.OneForm message.answers) (clear : Record.Unambiguous message.answers)
    (question : Question) :
    let first := digestFor message question
    let second := digestFor { message with answers := answers } question
    first.ingested.content = second.ingested.content ∧
      ∀ limits now name key, (bidsAt limits now first.writes name key).map Bid.content =
        (bidsAt limits now second.writes name key).map Bid.content := by
  intro first second
  let trail := trailThrough message question
  let other := trailThrough { message with answers := answers } question
  let authority := setsInClass message .authority question.recordClass
  have agrees : trail.Agrees other := trailThrough_agrees reordered oneForm clear question
  have ending : (endingOf message question.type trail authority).Agrees
      (endingOf message question.type other authority) :=
    endingOf_agrees agrees message question.type authority
  constructor
  · have aliases : first.ingested.aliases = second.ingested.aliases := by
      show (if trail.finals.isEmpty then [] else trail.aliases) =
        if other.finals.isEmpty then [] else other.aliases
      rw [agrees.isEmpty_eq, agrees.aliases]
    exact congrArg₂ Ingested.Content.mk ending.outcome aliases
  · intro limits now name key
    have answers := agrees.bidsAt_content limits now (.ofSection .answer message.authoritative)
      name key (finals_short _ question name key)
    have addresses := addressWrites_congr message question.recordClass ending.hosts
    show (bidsAt limits now (List.map _ (trail.used ++ trail.finals) ++
        (endingOf message question.type trail authority).writes ++
        addressWrites message question.recordClass
          (endingOf message question.type trail authority).hosts) name key).map Bid.content =
      (bidsAt limits now (List.map _ (other.used ++ other.finals) ++
        (endingOf message question.type other authority).writes ++
        addressWrites message question.recordClass
          (endingOf message question.type other authority).hosts) name key).map Bid.content
    rw [ending.writes, addresses, List.append_assoc, List.append_assoc]
    exact bidsAt_append_content limits now name key answers _

theorem digest?_content (reordered : message.answers.Perm answers)
    (oneForm : Record.OneForm message.answers) (clear : Record.Unambiguous message.answers) :
    let first := digest? message
    let second := digest? { message with answers := answers }
    first.map (fun digest => digest.ingested.content) =
        second.map (fun digest => digest.ingested.content) ∧
      ∀ limits now name key,
        (bidsAt limits now ((first.map Digest.writes).getD []) name key).map Bid.content =
          (bidsAt limits now ((second.map Digest.writes).getD []) name key).map Bid.content := by
  unfold digest?
  cases message.question with
  | none => exact ⟨rfl, fun _ _ _ _ => rfl⟩
  | some question =>
    obtain ⟨ingested, bids⟩ := digestFor_content reordered oneForm clear question
    dsimp only
    split
    · exact ⟨congrArg some ingested, bids⟩
    · exact ⟨rfl, fun _ _ _ _ => rfl⟩

/-- What a cache with room for all names learns of a response, and what it reports of it, does not
depend on the order of the answers, if they are in one form. -/
theorem ingestResponse_content {cache : Cache} (tidy : cache.shelf.Tidy)
    (unbounded : cache.limits.capacity = 0) (now : Nat)
    (reordered : message.answers.Perm answers) (oneForm : Record.OneForm message.answers)
    (clear : Record.Unambiguous message.answers) :
    let first := cache.ingestResponse now message
    let second := cache.ingestResponse now { message with answers := answers }
    first.1.map Ingested.content = second.1.map Ingested.content ∧
      ∀ name key, (first.2.entryAt? name key).map Entry.content =
        (second.2.entryAt? name key).map Entry.content := by
  obtain ⟨ingested, bids⟩ := digest?_content reordered oneForm clear
  intro first second
  refine ⟨?_, fun name key => ?_⟩
  · show (cache.ingestResponse now message).1.map Ingested.content =
      (cache.ingestResponse now { message with answers := answers }).1.map Ingested.content
    rw [ingestResponse_eq, ingestResponse_eq, Option.map_map, Option.map_map]
    exact ingested
  · show ((cache.ingestResponse now message).2.entryAt? name key).map Entry.content =
      ((cache.ingestResponse now { message with answers := answers }).2.entryAt? name key).map
        Entry.content
    rw [ingestResponse_eq, ingestResponse_eq, entryAt?_writeAll tidy unbounded,
      entryAt?_writeAll tidy unbounded]
    exact Bid.results_content now (bids _ now name key) rfl

end

/-- A cache with room for all names that hears a response whose answers are unambiguous reports the
same kind of outcome with the same sets and the same aliases, whatever the order of the answers, and
has the same records and signatures in every place, with the same credibility and the same end.
Lowered contents are the same if all is the same but for the case of letters and the order of
records. -/
theorem ingestResponse_reordered {cache : Cache} (reachable : Reachable cache)
    (unbounded : cache.limits.capacity = 0) (now : Nat) {message : Message} {answers : List Record}
    (clear : Record.Unambiguous message.answers) (reordered : message.answers.Perm answers) :
    let first := cache.ingestResponse now message
    let second := cache.ingestResponse now { message with answers := answers }
    first.1.map (fun ingested => ingested.lowered.content) =
        second.1.map (fun ingested => ingested.lowered.content) ∧
      ∀ name key, (first.2.entryAt? name key).map (fun entry => entry.lowered.content) =
        (second.2.entryAt? name key).map fun entry => entry.lowered.content := by
  have tidy : cache.lowered.shelf.Tidy := reachable.tidy.lowered
  have plainly : message.lowered.answers.Perm (answers.map Record.lowered) := reordered.map _
  obtain ⟨ingested, entries⟩ := ingestResponse_content tidy unbounded now plainly
    (Record.oneForm_lowered clear.oneTtl) clear.lowered
  have lowered : { message.lowered with answers := answers.map Record.lowered } =
    { message with answers := answers }.lowered := rfl
  rw [lowered, ingestResponse_lowered, ingestResponse_lowered] at ingested entries
  intro first second
  refine ⟨?_, fun name key => ?_⟩
  · rw [Prod.map_fst, Prod.map_fst, Option.map_map, Option.map_map] at ingested
    exact ingested
  · have found := entries name.lowered key
    rw [Prod.map_snd, Prod.map_snd, entryAt?_lowered, entryAt?_lowered, Option.map_map,
      Option.map_map] at found
    exact found

/-- An alias of `w.` and what it leads to: an address, another one under `W.`, and a signature. -/
def chainAnswers : List Record :=
  [⟨Name.ofOctets [0x67], .inet, 60, .cname (Name.ofOctets [0x77])⟩, Record.address 1 300,
    { Record.address 2 200 with name := Name.ofOctets [0x57] },
    { Record.address 1 300 with data := .rrsig .a [1] }]

/-- A response with an alias that has the servers of the zone, too. -/
def chainResponse (answers : List Record) : Message :=
  { Message.responseTo (Message.query ⟨Name.ofOctets [0x67], .a, .inet⟩) with
    answers := answers
    authority := [⟨Name.ofOctets [0x77], .inet, 300, .ns (Name.ofOctets [0x67])⟩] }

/-- The chain is followed from the end as well as from the start. What is reported differs only in
the case of letters and the order of the addresses. -/
theorem chainAnswers_reordered :
    let first := zoneHint.ingestResponse 1000 (chainResponse chainAnswers)
    let second := zoneHint.ingestResponse 1000 (chainResponse chainAnswers.reverse)
    Reachable zoneHint ∧ zoneHint.limits.capacity = 0 ∧ Record.Unambiguous chainAnswers ∧
      chainAnswers.Perm chainAnswers.reverse ∧ first.1 ≠ second.1 ∧
      first.1.map (fun ingested => ingested.lowered.content) =
        second.1.map (fun ingested => ingested.lowered.content) ∧
      second.1.map Ingested.aliases = some [Name.ofOctets [0x67]] ∧
      (first.2.entryAt? (Name.ofOctets [0x77]) (.type .a)).map (fun entry =>
          entry.lowered.content) =
        (second.2.entryAt? (Name.ofOctets [0x77]) (.type .a)).map (fun entry =>
          entry.lowered.content) ∧
      (second.2.entryAt? (Name.ofOctets [0x77]) (.type .a)).map Entry.expiresAt = some 1200 := by
  have reachable : Reachable zoneHint :=
    (Reachable.new .inet ⟨0, none, 3600⟩).step 1000 _ (RRset.ofRecord_coherent _)
  have clear : Record.Unambiguous (chainResponse chainAnswers).answers :=
    ⟨by decide +kernel, by decide +kernel, by decide +kernel⟩
  have reordered := (List.reverse_perm chainAnswers).symm
  obtain ⟨ingested, entries⟩ := ingestResponse_reordered reachable rfl 1000 clear reordered
  exact ⟨reachable, rfl, clear, reordered, by decide +kernel, ingested, by decide +kernel,
    entries _ _, by decide +kernel⟩

end Cache

end StubResolver
