/-
This file settles that a cache repeats what it has reported of a response, where the response has
neither records nor an alias to give. The report is made of the response as it stands: by what its
authority section tells of the zone, and by its result. A lookup that asks the same question at the
same time knows nothing of this. It finds entries at its levels, and has rules of its own for them.

From such a response an empty cache learns one thing that can be used, since addresses that come
along are not credible enough. It is the servers of a zone, at the name where the zone starts, or an
absence, at the name of the question. A lookup comes by the first on its climb and finds the second
where it sets out. An absence is learned only from a response that tells how long it may be
remembered; after any other, nothing is known.
-/

import StubResolver.Proofs.Cache.Ancestry
import StubResolver.Proofs.Cache.Denial
import StubResolver.Proofs.Cache.Repetition
import StubResolver.Proofs.Cache.Zone

namespace StubResolver

namespace Cache

/-! ### Responses without records and aliases -/

/-- What was made use of stays so. -/
theorem follow_keeps_used {answers : List RRset} {type : RecordType} {hops : Nat}
    {unused used : List RRset} {trail : Trail} (part : used <+: trail.used) :
    used <+: (follow answers type hops unused trail).used := by
  induction hops generalizing unused trail with
  | zero => exact part
  | succ hops inductionHypothesis =>
    unfold follow
    split
    · split
      · exact part
      · dsimp only
        split
        · exact part.trans (List.prefix_append _ _)
        · exact inductionHypothesis (part.trans (List.prefix_append _ _))
    · exact part

/-- Following aliases makes use of one, or does nothing but look for sets that answer. -/
theorem follow_straight_or_used (answers : List RRset) (type : RecordType) (hops : Nat)
    (unused : List RRset) (trail : Trail) :
    (∃ finals, follow answers type hops unused trail = { trail with finals := finals }) ∨
      (follow answers type hops unused trail).used ≠ [] := by
  have notNil (set : RRset) {used : List RRset} (grown : trail.used ++ [set] <+: used) :
      used ≠ [] := by
    rintro rfl
    exact List.append_ne_nil_of_right_ne_nil _ (List.cons_ne_nil set []) (List.prefix_nil.mp grown)
  cases hops with
  | zero => exact .inl ⟨_, rfl⟩
  | succ hops =>
    unfold follow
    split
    · split
      · exact .inl ⟨_, rfl⟩
      · rename_i set _
        dsimp only
        split
        · exact .inr (notNil set List.prefix_rfl)
        · exact .inr (notNil set (follow_keeps_used List.prefix_rfl))
    · exact .inl ⟨_, rfl⟩

/-- The trail of a question that has led from its name to nothing. -/
def Trail.fruitless (question : Question) : Trail := ⟨question.name.toAbsolute, [], [], []⟩

/-- An outcome that leads nowhere is reported only of a response whose trail has led to nothing. -/
theorem trail_of_leadsNowhere {message : Message} {question : Question}
    (nowhere : (digestFor message question).ingested.outcome.LeadsNowhere) :
    trailThrough message question = .fruitless question := by
  have unanswered : (trailThrough message question).finals = [] := by
    refine Classical.byContradiction fun answered => ?_
    rw [digestFor_ingested_of_finals message question answered] at nowhere
    exact nowhere
  have unused : (trailThrough message question).used = [] := by
    obtain ⟨otherwise, _, ingested⟩ := digestFor_ingested_of_open message question unanswered
    rw [ingested, firstAliasOr] at nowhere
    cases used : (trailThrough message question).used with
    | nil => rfl
    | cons set rest =>
      rw [used] at nowhere
      dsimp only [aliasOutcome] at nowhere
      split at nowhere <;> exact nowhere.elim
  obtain ⟨finals, straight⟩ :=
    (follow_straight_or_used _ _ _ _ _).resolve_right (not_not_intro unused)
  have none : finals = [] := (congrArg Trail.finals straight).symm.trans unanswered
  rw [none] at straight
  exact straight

/-- What is kept of a response whose trail has led to nothing is what its end adds. -/
theorem digestFor_of_fruitless {message : Message} {question : Question}
    (fruitless : trailThrough message question = .fruitless question) :
    let ending := endingOf message question.type (.fruitless question)
      (setsInClass message .authority question.recordClass)
    (digestFor message question).ingested.outcome = ending.outcome ∧
      (digestFor message question).writes =
        ending.writes ++ addressWrites message question.recordClass ending.hosts := by
  unfold digestFor
  dsimp only
  rw [show trailOf question _ = .fruitless question from fruitless]
  exact ⟨rfl, rfl⟩

/-- A response that sends on to the servers of a zone has named those that cover the name of the
question, and they are kept. -/
theorem digestFor_of_delegation {message : Message} {question : Question} {servers : RRset}
    (reported : (digestFor message question).ingested.outcome = .delegation servers) :
    serversAt? message question.recordClass question.name.toAbsolute = some servers ∧
      (digestFor message question).writes =
        .set servers (.ofSection .authority message.authoritative) ::
          addressWrites message question.recordClass (namedHosts servers) := by
  have nowhere : (digestFor message question).ingested.outcome.LeadsNowhere := by
    rw [reported]
    exact trivial
  obtain ⟨outcome, writes⟩ := digestFor_of_fruitless (trail_of_leadsNowhere nowhere)
  rw [reported] at outcome
  obtain ⟨named, covers, ending⟩ | ending := endingOf_of_open message question.type
    (.fruitless question) (setsInClass message .authority question.recordClass) rfl
  · rw [ending] at outcome writes
    cases outcome
    exact ⟨covers, writes⟩
  · rw [ending] at outcome
    unfold endWithAbsence firstAliasOr at outcome
    dsimp only [Trail.fruitless] at outcome
    split at outcome <;> cases outcome

/-- Without hosts that matter, no address does. -/
theorem addressWrites_nil (message : Message) (recordClass : RecordClass) :
    addressWrites message recordClass [] = [] := by
  unfold addressWrites
  rw [List.map_eq_nil_iff, List.filter_eq_nil_iff]
  intro set _
  rw [List.any_nil, Bool.and_false]
  exact Bool.false_ne_true

/-- Where the absence that an outcome reports is kept. -/
def absenceKey? (type : RecordType) : Outcome → Option EntryKey
  | .nxDomain => some .name
  | .nxRRset => some (.type type)
  | _ => none

/-- A response that reports an absence is kept as one, attested by the zone that covers the name of
the question. -/
theorem digestFor_of_absence {message : Message} {question : Question} {key : EntryKey}
    (single : question.type ≠ .any)
    (reported : absenceKey? question.type (digestFor message question).ingested.outcome =
      some key) :
    (digestFor message question).writes = [.absence question.name.toAbsolute key
      ((covering? (setsInClass message .authority question.recordClass) .soa
        question.name.toAbsolute).bind fun set => set.records.head?)
      (.ofSection .authority message.authoritative)] := by
  have nowhere : (digestFor message question).ingested.outcome.LeadsNowhere := by
    cases outcome : (digestFor message question).ingested.outcome with
    | successful _ | cname _ | dname _ =>
      rw [outcome] at reported
      cases reported
    | _ => trivial
  obtain ⟨outcome, writes⟩ := digestFor_of_fruitless (trail_of_leadsNowhere nowhere)
  rw [outcome] at reported
  obtain ⟨named, covers, ending⟩ | ending := endingOf_of_open message question.type
    (.fruitless question) (setsInClass message .authority question.recordClass) rfl
  · rw [ending] at reported
    cases reported
  · rw [ending] at reported writes
    have hosts : (endWithAbsence message question.type (.fruitless question)
        (covering? (setsInClass message .authority question.recordClass) .soa
          question.name.toAbsolute)).hosts = [] := rfl
    rw [writes, show (Trail.fruitless question).current = question.name.toAbsolute from rfl, hosts,
      addressWrites_nil, List.append_nil]
    unfold endWithAbsence at reported ⊢
    dsimp only [Trail.fruitless, firstAliasOr] at reported ⊢
    by_cases missing : message.result = .nxDomain
    · rw [if_pos missing] at reported
      cases reported
      rw [if_pos missing, if_neg nofun]
    · rw [if_neg missing] at reported
      cases reported
      rw [if_neg missing, if_neg fun all => single (EntryKey.type.inj all)]

/-! ### What an empty cache learns -/

section

variable {now : Nat} {least credibility : Credibility} {cache before after : Cache} {name : Name}
  {key : EntryKey}

/-- Writes of no use to those who ask with a greater credibility change nothing for them. -/
theorem usable?_writeAll_weak (tidy : cache.shelf.Tidy) (unbounded : cache.limits.capacity = 0)
    {writes : List Write} (weak : ∀ write ∈ writes, write.credibility < least) :
    (cache.writeAll now writes).usable? now least = cache.usable? now least := by
  induction writes generalizing cache with
  | nil => rfl
  | cons write rest inductionHypothesis =>
    have settles := write_settles_bid tidy now write
    have ofBid : (write.bid cache.limits now).credibility = write.credibility := by
      cases write <;> rfl
    have first := usable?_of_settled_weak unbounded
      (ofBid ▸ weak write List.mem_cons_self) (write.bid cache.limits now).honest settles
    refine Eq.trans ?_ first
    exact inductionHypothesis settles.tidy (settles.limits ▸ unbounded) fun later member =>
      weak later (List.mem_cons_of_mem _ member)

/-- Nothing is alive in a cache that is empty. -/
theorem Fresh.live? (fresh : cache.Fresh) (now : Nat) (name : Name) (key : EntryKey) :
    cache.live? now name key = none := by
  rw [Cache.live?, entryAt?, fresh.empty]
  rfl

/-- What can be used at names where one entry can be used, if any, and that in one place. -/
def lone (name : Name) (key : EntryKey) (entry : Option Entry) : Name → Level :=
  fun level other => if name ≈ level ∧ key = other then entry else none

/-- An entry that has been put somewhere, if it is alive and credible enough to be used. -/
def ifUsable (now : Nat) (least : Credibility) (entry : Option Entry) : Option Entry :=
  (entry.filter fun entry => !entry.isExpired now).filter fun entry => least ≤ entry.credibility

theorem ifUsable_some {entry : Entry} (alive : entry.isExpired now = false)
    (credible : least ≤ entry.credibility) : ifUsable now least (some entry) = some entry := by
  rw [ifUsable, Option.filter_some, alive, Bool.not_false, if_pos rfl, Option.filter_some,
    if_pos (decide_eq_true credible)]

/-- What can be used after one write in an empty cache. -/
theorem Fresh.usable?_of_settles (fresh : cache.Fresh) {new : Option Entry}
    (settles : Settles cache after name key
      (settled (cache.live? now name key) new credibility)) (least : Credibility) :
    after.usable? now least = lone name key (ifUsable now least new) := by
  funext level other
  rw [usable?, settles.live? fresh.unbounded, fresh.live?, fresh.live?, settled, Option.filter_none,
    Option.none_or, lone]
  split <;> rfl

end

/-! ### What one entry decides -/

/-- If all levels that say something say the same, then that is the decision. -/
theorem decision_of_unanimous {levels : List (Name × Option Outcome)} {outcome : Outcome}
    (each : ∀ level ∈ levels, level.2 = none ∨ level.2 = some outcome)
    (spoken : ∃ level ∈ levels, level.2 = some outcome) : decision levels = outcome := by
  obtain ⟨first, said⟩ := Option.isSome_iff_exists.mp (List.findSome?_isSome_iff.mpr
    (show ∃ rule ∈ levels.map Prod.snd, (id rule).isSome by
      obtain ⟨level, member, speaks⟩ := spoken
      exact ⟨level.2, List.mem_map_of_mem member, speaks ▸ rfl⟩))
  obtain ⟨level, member, speaks⟩ := List.mem_map.mp (firstToSpeak_mem said)
  rw [decision, firstToSpeak, said, Option.getD_some]
  obtain silent | same := each level member
  · rw [silent] at speaks
    cases speaks
  · exact Option.some_inj.mp (speaks.symm.trans same)

theorem lone_self (name : Name) (key other : EntryKey) (entry : Option Entry) :
    lone name key entry name other = if key = other then entry else none := by
  unfold lone
  by_cases same : key = other
  · rw [if_pos ⟨Setoid.refl name, same⟩, if_pos same]
  · rw [if_neg fun there => same there.2, if_neg same]

/-- The servers of a zone are all that is known. -/
theorem lone_servers_speak {servers : RRset} {entry : Entry} (isSet : entry.set? = some servers)
    (level : Name) :
    let known := lone servers.name (.type .ns) (some entry) level
    let said := if servers.name ≈ level then some (Outcome.delegation servers) else none
    firstToSpeak known.ancestorRules = said ∧
      ∀ type, type ≠ .any → type ≠ .ns → firstToSpeak (known.exactRules type) = said := by
  intro known said
  have elsewhere {key : EntryKey} (apart : key ≠ .type .ns) : known key = none :=
    if_neg fun there => apart there.2.symm
  have noAlias : known.set? .cname = none := by
    rw [Level.set?, elsewhere (by decide), Option.bind_none]
  have noRedirection : known.set? .dname = none := by
    rw [Level.set?, elsewhere (by decide), Option.bind_none]
  have delegates : known.delegates? = said := by
    rw [Level.delegates?, Level.set?]
    by_cases starts : servers.name ≈ level
    · rw [show known (.type .ns) = some entry from if_pos ⟨starts, rfl⟩, Option.bind_some, isSet]
      exact (if_pos starts).symm
    · rw [show known (.type .ns) = none from if_neg fun there => starts there.1]
      exact (if_neg starts).symm
  constructor
  · rw [Level.ancestorRules, Level.redirects?, noRedirection, delegates]
    cases said <;> rfl
  · intro type single notServers
    rw [Level.exactRules, if_neg single, Level.answer?,
      elsewhere fun same => notServers (EntryKey.type.inj same), Level.standsFor?, noAlias,
      delegates, Level.denies?, show known .name = none from elsewhere (by simp)]
    cases said <;> rfl

/-- A search that comes by the start of a zone, and knows no more than its servers, ends there. -/
theorem decision_of_servers {servers : RRset} {entry : Entry} (isSet : entry.set? = some servers)
    {name : Name} (passes : ∃ level ∈ climb name, level ≈ servers.name) {type : RecordType}
    (single : type ≠ .any) (notServers : type ≠ .ns) :
    decision (verdicts (lone servers.name (.type .ns) (some entry)) name type) =
      .delegation servers := by
  have each {level : Name × Option Outcome}
      (member : level ∈ verdicts (lone servers.name (.type .ns) (some entry)) name type) :
      level.2 = if servers.name ≈ level.1 then some (Outcome.delegation servers) else none := by
    obtain rfl | above := List.mem_cons.mp member
    · exact (lone_servers_speak isSet name).2 type single notServers
    · obtain ⟨ancestor, _, rfl⟩ := List.mem_map.mp above
      exact (lone_servers_speak isSet ancestor).1
  -- Rules differ between the name and those above it; here all of them say the same.
  refine decision_of_unanimous (fun level member => ?_) ?_
  · rw [each member]
    by_cases starts : servers.name ≈ level.1
    · exact .inr (if_pos starts)
    · exact .inl (if_neg starts)
  · obtain ⟨met, onTheWay, same⟩ := passes
    rw [← map_fst_verdicts (lone servers.name (.type .ns) (some entry)) name type] at onTheWay
    obtain ⟨level, member, rfl⟩ := List.mem_map.mp onTheWay
    exact ⟨level, member, (each member).trans (if_pos (Setoid.symm same))⟩

/-- Where no set is known, a level can only deny something. -/
theorem exactRules_of_setless {level : Level} (setless : ∀ type, level.set? type = none)
    (type : RecordType) :
    firstToSpeak (level.exactRules type) =
      if type ≠ .any ∧ level (.type type) ≠ none then some .nxRRset else level.denies? := by
  by_cases all : type = .any
  · have noSets : level.sets = [] := by
      rw [Level.sets_eq_nil_iff]
      rintro ⟨other, set, found⟩
      rw [setless other] at found
      cases found
    rw [Level.exactRules, if_pos all, Level.answersAll?, if_pos noSets,
      if_neg fun both => both.1 all]
    cases level.denies? <;> rfl
  · rw [Level.exactRules, if_neg all, Level.standsFor?, setless, Level.delegates?, setless,
      Level.answer?]
    cases held : level (.type type) with
    | none =>
      rw [if_neg fun both => both.2 rfl]
      cases level.denies? <;> rfl
    | some entry =>
      have noSet : entry.set? = none := by
        have nothing := setless type
        rwa [Level.set?, held, Option.bind_some] at nothing
      rw [if_pos ⟨all, Option.some_ne_none entry⟩, Option.map_some, noSet]
      rfl

/-- Where no set is known anywhere, the name itself decides. -/
theorem decision_of_setless {view : Name → Level}
    (setless : ∀ level type, (view level).set? type = none) (name : Name) (type : RecordType) :
    decision (verdicts view name type) =
      (if type ≠ .any ∧ view name (.type type) ≠ none then some .nxRRset
        else (view name).denies?).getD .unknown := by
  have above : firstToSpeak ((ancestorVerdicts view (shortened name name.labelCount)).map Prod.snd) = none := by
    refine List.findSome?_eq_none_iff.mpr fun rule member => ?_
    obtain ⟨level, isLevel, rfl⟩ := List.mem_map.mp member
    obtain ⟨ancestor, _, rfl⟩ := List.mem_map.mp isLevel
    rw [Level.ancestorRules, Level.redirects?, setless, Level.delegates?, setless]
    rfl
  rw [← exactRules_of_setless (setless name), decision, verdicts, List.map_cons, firstToSpeak,
    List.findSome?_cons]
  cases firstToSpeak ((view name).exactRules type) with
  | some outcome => rfl
  | none => exact congrArg (Option.getD · Outcome.unknown) above

/-! ### What was reported is found -/

/-- The owners in the authority section of a message are absolute and begin with no wildcard, and
none of its records is gone at once. -/
structure OrderlyAuthority (message : Message) : Prop where
  absolute : ∀ record ∈ message.authority, record.name.absolute = true
  plain : ∀ record ∈ message.authority, record.name.startsWild = false
  lasting : ∀ record ∈ message.authority, record.ttl ≠ 0

/-- The first set of the authority section that tells where a zone starts in which the name of the
question lies. -/
def zoneOf? (message : Message) (question : Question) : Option RRset :=
  (message.sets .authority).find? fun set =>
    set.recordClass = question.recordClass ∧ set.type = .soa ∧ question.name.EndsIn set.name

/-- That set lets absences be remembered. -/
def AttestsAbsence (message : Message) (question : Question) : Prop :=
  ∃ set record start, zoneOf? message question = some set ∧ set.records.head? = some record ∧
    record.data = .soa start ∧ start.minimum ≠ 0

variable {message : Message} {question : Question}

theorem OrderlyAuthority.set (orderly : OrderlyAuthority message) {set : RRset}
    (member : set ∈ message.sets .authority) :
    set.name.absolute = true ∧ set.name.startsWild = false ∧ set.ttl ≠ 0 ∧
      ∀ record ∈ set.all, record.ttl ≠ 0 := by
  obtain ⟨⟨owner, present, same⟩, members⟩ := Message.groupRecords_from message.authority set member
  have lasting : ∀ record ∈ set.all, record.ttl ≠ 0 := fun record inside =>
    orderly.lasting record (members record inside)
  obtain ⟨record, inside, shortest⟩ :=
    RRset.exists_ttl_eq (message.sets_coherent .authority set member).filled
  exact ⟨same ▸ orderly.absolute owner present, same ▸ orderly.plain owner present,
    shortest ▸ lasting record inside, lasting⟩

/-- Without wildcards, the set that covers a name is the first whose owner the name ends in. -/
theorem covering?_soa_eq (orderly : OrderlyAuthority message)
    (plain : question.name.startsWild = false) :
    covering? (setsInClass message .authority question.recordClass) .soa question.name =
      zoneOf? message question := by
  rw [covering?, setsInClass, List.find?_filter, zoneOf?, ← List.head?_filter, ← List.head?_filter]
  refine congrArg List.head? (List.filter_congr fun set member => decide_eq_decide.mpr ?_)
  rw [Bool.and_eq_true, decide_eq_true_iff, decide_eq_true_iff,
    Name.isWithin_iff_endsIn (plain.trans (orderly.set member).2.1.symm)]

theorem ingestResponse_of_reported {cache : Cache} {now : Nat} {outcome : Outcome}
    (asked : message.question = some question)
    (reported : (cache.ingestResponse now message).1.map Ingested.outcome = some outcome) :
    (digestFor message question).ingested.outcome = outcome ∧
      (cache.ingestResponse now message).2 =
        cache.writeAll now (digestFor message question).writes := by
  have digest : digest? message = some (digestFor message question) := by
    cases said : digest? message with
    | none =>
      rw [ingestResponse, said] at reported
      cases reported
    | some digest =>
      obtain ⟨other, isOther, same, _⟩ := digest?_drawn said
      cases asked.symm.trans isOther
      exact congrArg some same
  rw [ingestResponse, digest] at reported ⊢
  exact ⟨Option.some_inj.mp reported, rfl⟩

variable {cache : Cache} {now : Nat}

/-- After a response that sends on to the servers of a zone, these are all that can be used. -/
theorem Fresh.usable?_of_delegation (fresh : cache.Fresh) (inTime : now < lastSecond)
    (orderly : OrderlyAuthority message) {servers : RRset}
    (reported : (digestFor message question).ingested.outcome = .delegation servers) :
    ∃ entry, entry.set? = some servers ∧
      (cache.writeAll now (digestFor message question).writes).usable? now .normal =
        lone servers.name (.type .ns) (some entry) := by
  obtain ⟨covers, writes⟩ := digestFor_of_delegation reported
  obtain ⟨member, isNs, _⟩ := covering?_eq_some covers
  obtain ⟨_, _, lasts, _⟩ := orderly.set (mem_setsInClass member).2
  have weak : ∀ write ∈ addressWrites message question.recordClass (namedHosts servers),
      write.credibility < .normal := by
    intro write isAddress
    obtain ⟨set, _, rfl⟩ := List.mem_map.mp isAddress
    show Credibility.ofSection .additional message.authoritative < .normal
    cases message.authoritative <;> decide
  have settles := storeSet_settles fresh.reachable.tidy now servers
    (.ofSection .authority message.authoritative)
  have first := fresh.usable?_of_settles settles .normal
  have credible : .normal ≤ (Entry.ofSet servers (.ofSection .authority message.authoritative) now
      cache.limits.longestPositive).credibility := (normal_le_ofSection message.authoritative).2
  rw [isNs, entryOfSet?, if_neg (not_or.mpr ⟨lasts, fresh.keepsSets⟩),
    ifUsable_some (ofSet_alive inTime lasts fresh.keepsSets _) credible] at first
  refine ⟨_, rfl, Eq.trans ?_ first⟩
  rw [writes]
  exact usable?_writeAll_weak settles.tidy (settles.limits ▸ fresh.unbounded) weak

/-- After a response that reports an absence, at most that can be used. -/
theorem Fresh.usable?_of_absence (fresh : cache.Fresh) (single : question.type ≠ .any)
    {key : EntryKey}
    (reported : absenceKey? question.type (digestFor message question).ingested.outcome =
      some key) :
    (cache.writeAll now (digestFor message question).writes).usable? now .normal =
      lone question.name.toAbsolute key (ifUsable now .normal (entryOfAbsence? cache.limits now
        ((covering? (setsInClass message .authority question.recordClass) .soa
          question.name.toAbsolute).bind fun set => set.records.head?)
        (.ofSection .authority message.authoritative))) := by
  rw [digestFor_of_absence single reported]
  exact fresh.usable?_of_settles (storeAbsence_settles fresh.reachable.tidy now _ key _ _) .normal

/-- An absence that a zone attests is kept and can be used. -/
theorem entryOfAbsence?_of_attested {limits : CacheLimits} (inTime : now < lastSecond)
    (remembers : limits.longestNegative ≠ 0) {record : Record} {start : ZoneStart}
    (lasts : record.ttl ≠ 0) (isStart : record.data = .soa start) (attests : start.minimum ≠ 0)
    (authoritative : Bool) :
    ifUsable now .normal
        (entryOfAbsence? limits now (some record) (.ofSection .authority authoritative)) =
      some (Entry.ofAbsence start.minimum (.ofSection .authority authoritative) now
        limits.longestNegative) := by
  have minimum : record.data.minimum?.getD record.ttl = start.minimum := by
    rw [isStart]
    rfl
  rw [entryOfAbsence?, if_neg lasts, minimum]
  exact ifUsable_some (ofAbsence_alive inTime attests remembers _)
    (normal_le_ofSection authoritative).2

/-- An entry without a set makes no set known. -/
theorem lone_setless {name : Name} {key : EntryKey} {entry : Option Entry}
    (isAbsence : entry.bind Entry.set? = none) (level : Name) (type : RecordType) :
    (lone name key entry level).set? type = none := by
  unfold Level.set? lone
  split
  · exact isAbsence
  · rfl

/-- An absence that is known denies what it is about. -/
theorem decision_of_absence {name : Name} {key : EntryKey} {entry : Entry}
    (isAbsence : entry.set? = none) (type : RecordType) :
    decision (verdicts (lone name key (some entry)) name type) =
      if type ≠ .any ∧ key = .type type then .nxRRset
      else if key = .name then .nxDomain
      else .unknown := by
  rw [decision_of_setless (lone_setless (show (some entry).bind Entry.set? = none from isAbsence)),
    Level.denies?, lone_self, lone_self]
  by_cases ofType : key = .type type
  · subst ofType
    by_cases single : type ≠ .any <;> simp [single]
  · by_cases ofName : key = .name <;> simp [ofType, ofName]

theorem decision_of_nothing (name : Name) (key : EntryKey) (type : RecordType) :
    decision (verdicts (lone name key none) name type) = .unknown := by
  rw [decision_of_setless (lone_setless rfl), Level.denies?, lone_self, lone_self, ite_self,
    ite_self, if_neg fun both => both.2 rfl]
  rfl

section

variable (fresh : cache.Fresh) (orderly : OrderlyAuthority message)
  (asked : message.question = some question) (absolute : question.name.absolute = true)
  (plain : question.name.startsWild = false) (single : question.type ≠ .any) {outcome : Outcome}
  {key : EntryKey}
  (reported : (cache.ingestResponse now message).1.map Ingested.outcome = some outcome)
  (isAbsence : absenceKey? question.type outcome = some key)

include fresh orderly asked absolute plain single reported isAbsence

/-- What can be used after a response that was reported to tell of an absence. -/
theorem Fresh.usable?_of_reported :
    (cache.ingestResponse now message).2.usable? now .normal = lone question.name key
      (ifUsable now .normal (entryOfAbsence? cache.limits now
        ((zoneOf? message question).bind fun set => set.records.head?)
        (.ofSection .authority message.authoritative))) := by
  obtain ⟨same, after⟩ := ingestResponse_of_reported asked reported
  rw [← same] at isAbsence
  have view : (cache.writeAll now (digestFor message question).writes).usable? now .normal = _ :=
    fresh.usable?_of_absence single isAbsence
  rw [question.name.toAbsolute_of_absolute absolute, covering?_soa_eq orderly plain] at view
  rw [after, view]

/-- If a zone attests the absence, that can be used. -/
theorem Fresh.usable?_of_attested (remembers : cache.limits.longestNegative ≠ 0)
    (inTime : now < lastSecond) (attested : AttestsAbsence message question) :
    ∃ entry, entry.set? = none ∧ (cache.ingestResponse now message).2.usable? now .normal =
      lone question.name key (some entry) := by
  obtain ⟨set, record, start, found, first, isStart, attests⟩ := attested
  have member : set ∈ message.sets .authority := List.mem_of_find?_eq_some found
  have lasts : record.ttl ≠ 0 := (orderly.set member).2.2.2 record
    (List.mem_append_left _ (List.mem_of_head? first))
  have view := fresh.usable?_of_reported orderly asked absolute plain single reported isAbsence
  rw [found, Option.bind_some, first,
    entryOfAbsence?_of_attested inTime remembers lasts isStart attests] at view
  exact ⟨_, rfl, view⟩

/-- If no zone attests it, nothing can be used. -/
theorem Fresh.usable?_of_unattested (unattested : zoneOf? message question = none) :
    (cache.ingestResponse now message).2.usable? now .normal = lone question.name key none := by
  rw [fresh.usable?_of_reported orderly asked absolute plain single reported isAbsence, unattested]
  rfl

end

/-- A lookup repeats what was reported of a response without records and aliases that an empty cache
has learned from: that servers have to be asked, and, if the start of the zone attests it, that the
name does not exist, or that it has no records of the type. In the last case nothing is known about
other types. If no zone attests it, nothing is known at all. -/
theorem lookup_repeats (fresh : cache.Fresh) (remembers : cache.limits.longestNegative ≠ 0)
    (inTime : now < lastSecond) (orderly : OrderlyAuthority message)
    (asked : message.question = some question) (absolute : question.name.absolute = true)
    (plain : question.name.startsWild = false) (single : question.type ≠ .any)
    (notServers : question.type ≠ .ns) :
    let result := cache.ingestResponse now message
    let reports (outcome : Outcome) := result.1.map Ingested.outcome = some outcome
    let finds (type : RecordType) := (result.2.lookup now question.name type .normal).1
    (∀ servers, reports (.delegation servers) → finds question.type = .delegation servers) ∧
      (reports .nxDomain → AttestsAbsence message question → ∀ type, finds type = .nxDomain) ∧
      (reports .nxRRset → AttestsAbsence message question → finds question.type = .nxRRset ∧
        ∀ type, type ≠ question.type → finds type = .unknown) ∧
      (reports .nxDomain ∨ reports .nxRRset → zoneOf? message question = none →
        ∀ type, finds type = .unknown) := by
  intro result reports finds
  have reachable : Reachable result.2 := fresh.reachable.operation now (.ingest message) trivial
  have decided {view : Name → Level} (usable : result.2.usable? now .normal = view)
      (type : RecordType) : finds type = decision (verdicts view question.name type) := by
    have outcome := (lookup_eq reachable.tidy reachable.inPlace now question.name type .normal).1
    rwa [question.name.toAbsolute_of_absolute absolute, usable] at outcome
  refine ⟨fun servers reported => ?_, fun reported attested type => ?_,
    fun reported attested => ?_, fun reported unattested type => ?_⟩
  · obtain ⟨same, after⟩ := ingestResponse_of_reported asked reported
    obtain ⟨entry, isSet, view⟩ := fresh.usable?_of_delegation inTime orderly same
    obtain ⟨member, _, within⟩ := covering?_eq_some (digestFor_of_delegation same).1
    obtain ⟨ownerAbsolute, ownerPlain, _⟩ := orderly.set (mem_setsInClass member).2
    rw [question.name.toAbsolute_of_absolute absolute,
      Name.isWithin_iff_endsIn (plain.trans ownerPlain.symm)] at within
    -- The climb leaves a name out only below a wildcard, and the question is for none.
    have passes := (mem_climb_iff absolute ownerAbsolute).mpr ⟨within, fun passed => by
      rw [passed.1] at plain
      cases plain⟩
    rw [← after] at view
    exact (decided view question.type).trans (decision_of_servers isSet passes single notServers)
  · obtain ⟨entry, isAbsence, view⟩ := fresh.usable?_of_attested orderly asked absolute plain
      single reported rfl remembers inTime attested
    rw [decided view, decision_of_absence isAbsence, if_neg fun both => nomatch both.2]
    exact if_pos rfl
  · obtain ⟨entry, isAbsence, view⟩ := fresh.usable?_of_attested orderly asked absolute plain
      single reported rfl remembers inTime attested
    refine ⟨?_, fun type other => ?_⟩
    · rw [decided view, decision_of_absence isAbsence, if_pos ⟨single, rfl⟩]
    · rw [decided view, decision_of_absence isAbsence,
        if_neg fun both => other (EntryKey.type.inj both.2).symm, if_neg nofun]
  · have nothing {outcome : Outcome} {key : EntryKey} (reported : reports outcome)
        (isAbsence : absenceKey? question.type outcome = some key) : finds type = .unknown :=
      (decided (fresh.usable?_of_unattested orderly asked absolute plain single reported isAbsence
        unattested) type).trans (decision_of_nothing _ _ _)
    exact reported.elim (nothing · rfl) (nothing · rfl)

/-- A response to a question for the addresses of `w.` that has no answer. -/
def emptyResponse (result : ResponseCode) (authority additional : List Record) : Message :=
  { Message.responseTo (Message.query addressQuestion) with
    result := result
    authority := authority
    additional := additional }

/-- The server of the root. -/
def rootServer : Record := ⟨Name.root, .inet, 300, .ns (Name.ofOctets [0x77])⟩

/-- After a denial by the root, the name is denied for all types; after a referral to its server,
which has the name of the question, a lookup refers to it in spite of the address that comes along.
-/
theorem lookup_repeats_root :
    let cache := Cache.new .inet ⟨0, none, 3600⟩
    let denied := (cache.ingestResponse 1000 (emptyResponse .nxDomain [rootStart] [])).2
    let referred := (cache.ingestResponse 1000
      (emptyResponse .noError [rootServer] [Record.address 1 300])).2
    (denied.lookup 1000 (Name.ofOctets [0x77]) .any .normal).1 = .nxDomain ∧
      (referred.lookup 1000 (Name.ofOctets [0x77]) .a .normal).1 =
        .delegation (RRset.ofRecord rootServer) := by
  intro cache denied referred
  have fresh : cache.Fresh := ⟨Reachable.new .inet _, rfl, rfl, nofun⟩
  have orderly (record : Record) (owner : record.name = Name.root) (lasting : record.ttl ≠ 0)
      (result : ResponseCode) (additional : List Record) :
      OrderlyAuthority (emptyResponse result [record] additional) := by
    constructor <;> intro other member <;> obtain rfl := List.mem_singleton.mp member
    · rw [owner]
      rfl
    · rw [owner]
      rfl
    · exact lasting
  have repeats {message : Message} (orderly : OrderlyAuthority message)
      (asked : message.question = some addressQuestion) :=
    lookup_repeats fresh (by decide) (show 1000 < lastSecond by decide) orderly asked rfl
      (by decide) (by decide) (by decide)
  have attests : AttestsAbsence (emptyResponse .nxDomain [rootStart] []) addressQuestion :=
    ⟨RRset.ofRecord rootStart, rootStart, _, by decide +kernel, rfl, rfl, by decide⟩
  have denial := (repeats (orderly rootStart rfl (by decide) .nxDomain []) rfl).2.1
  have referral := (repeats (orderly rootServer rfl (by decide) .noError
    [Record.address 1 300]) rfl).1
  exact ⟨denial (by decide +kernel) attests .any, referral _ (by decide +kernel)⟩

end Cache

end StubResolver
