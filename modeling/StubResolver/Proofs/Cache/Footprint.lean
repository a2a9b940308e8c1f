/-
This file bounds what a response can do to a cache. Who sends a response decides what stands in its
sections, and a record that gets into the cache without having been asked for is poison. What can be
touched is what the way through the answer section, its end, and the hosts named there account for:
five kinds of places, and the question and the sections decide which. All other entries are exactly
what they were, also those that have expired.

The bound is read off the writes. Each of them was made for a reason and concerns one place, and in
a cache with room for all names a write changes nothing elsewhere.
-/

import StubResolver.Proofs.Cache.Operations
import StubResolver.Proofs.Name.Letters

namespace StubResolver

/-! ### Records of other classes -/

/-- A message without its records of other classes. -/
def Message.ofClass (message : Message) (recordClass : RecordClass) : Message :=
  { message with
    answers := message.answers.filter fun record => record.recordClass = recordClass
    authority := message.authority.filter fun record => record.recordClass = recordClass
    additional := message.additional.filter fun record => record.recordClass = recordClass }

theorem Message.ofClass_records (message : Message) (recordClass : RecordClass) (part : Section) :
    (message.ofClass recordClass).records part =
      (message.records part).filter fun record => record.recordClass = recordClass := by
  cases part <;> rfl

/-- A record of the class takes the same place among sets of the class as among all sets. -/
theorem Message.filter_placeRecord_same {recordClass : RecordClass} {record : Record}
    (same : record.recordClass = recordClass) (sets : List RRset) :
    ((placeRecord record sets).filter fun set => set.recordClass = recordClass) =
      placeRecord record (sets.filter fun set => set.recordClass = recordClass) := by
  induction sets with
  | nil => simp [placeRecord, same]
  | cons set rest inductionHypothesis =>
    by_cases accepted : set.accepts record = true
    · have setClass : set.recordClass = recordClass :=
        (((RRset.accepts_iff set record).mp accepted).2.1.symm.trans same)
      simp [placeRecord, accepted, setClass]
    · by_cases setClass : set.recordClass = recordClass
      · simp [placeRecord, accepted, setClass, inductionHypothesis]
      · rw [placeRecord, if_neg accepted, List.filter_cons_of_neg (by simpa using setClass),
          List.filter_cons_of_neg (by simpa using setClass), inductionHypothesis]

/-- A record of another class does not change the sets of the class. -/
theorem Message.filter_placeRecord_other {recordClass : RecordClass} {record : Record}
    (other : record.recordClass ≠ recordClass) (sets : List RRset) :
    ((placeRecord record sets).filter fun set => set.recordClass = recordClass) =
      sets.filter fun set => set.recordClass = recordClass := by
  induction sets with
  | nil => simp [placeRecord, other]
  | cons set rest inductionHypothesis =>
    unfold placeRecord
    by_cases accepted : set.accepts record = true
    · have setClass : set.recordClass ≠ recordClass := fun same =>
        other (((RRset.accepts_iff set record).mp accepted).2.1.trans same)
      simp [accepted, setClass]
    · simp [accepted, List.filter_cons, inductionHypothesis]

/-- The sets of a class are those that its records make, whatever stands between them. -/
theorem Message.groupRecords_filter (records : List Record) (recordClass : RecordClass) :
    groupRecords (records.filter fun record => record.recordClass = recordClass) =
      (groupRecords records).filter fun set => set.recordClass = recordClass := by
  have grows (sets : List RRset) :
      (records.filter fun record => record.recordClass = recordClass).foldl
          (fun sets record => placeRecord record sets)
          (sets.filter fun set => set.recordClass = recordClass) =
        (records.foldl (fun sets record => placeRecord record sets) sets).filter fun set =>
          set.recordClass = recordClass := by
    induction records generalizing sets with
    | nil => rfl
    | cons record rest inductionHypothesis =>
      by_cases same : record.recordClass = recordClass
      · rw [List.filter_cons_of_pos (by simpa using same), List.foldl_cons, List.foldl_cons,
          ← filter_placeRecord_same same, inductionHypothesis]
      · rw [List.filter_cons_of_neg (by simpa using same), List.foldl_cons,
          ← filter_placeRecord_other same, inductionHypothesis]
  exact grows []

namespace Cache

theorem setsInClass_ofClass (message : Message) (recordClass : RecordClass) (part : Section) :
    setsInClass (message.ofClass recordClass) part recordClass =
      setsInClass message part recordClass := by
  unfold setsInClass Message.sets
  rw [Message.ofClass_records, Message.groupRecords_filter, List.filter_filter]
  simp only [Bool.and_self]

/-- What a response says about its question does not depend on records of other classes. -/
theorem digestFor_ofClass (message : Message) (question : Question) :
    digestFor (message.ofClass question.recordClass) question = digestFor message question := by
  have sameAddresses (hosts : List Name) :
      addressWrites (message.ofClass question.recordClass) question.recordClass hosts =
        addressWrites message question.recordClass hosts := by
    unfold addressWrites
    rw [setsInClass_ofClass]
    rfl
  unfold digestFor
  rw [setsInClass_ofClass, setsInClass_ofClass]
  dsimp only
  rw [sameAddresses]
  rfl

theorem ingestResponse_ofClass (cache : Cache) (now : Nat) {message : Message} {question : Question}
    (asked : message.question = some question) :
    cache.ingestResponse now (message.ofClass question.recordClass) =
      cache.ingestResponse now message := by
  have sameDigest : digest? (message.ofClass question.recordClass) = digest? message := by
    have sameQuestion : (message.ofClass question.recordClass).question = some question := asked
    unfold digest?
    rw [asked, sameQuestion]
    dsimp only
    rw [digestFor_ofClass]
    rfl
  unfold ingestResponse
  rw [sameDigest]

/-! ### Where writes go -/

/-- The name that a write is about. -/
def Write.owner : Write → Name
  | .set written _ => written.name
  | .absence name _ _ _ => name

/-- The key that a write is about. -/
def Write.key : Write → EntryKey
  | .set written _ => .type written.type
  | .absence _ key _ _ => key

/-- A write settles what stands in its place. -/
theorem write_settles {cache : Cache} (tidy : cache.shelf.Tidy) (now : Nat) (write : Write) :
    ∃ result, Settles cache (cache.write now write) write.owner write.key result := by
  cases write with
  | set set credibility => exact ⟨_, storeSet_settles tidy now set credibility⟩
  | absence name key zoneStart credibility =>
    exact ⟨_, storeAbsence_settles tidy now name key zoneStart credibility⟩

/-- Writes elsewhere leave an entry as it is, in a cache with room for all names. -/
theorem writeAll_elsewhere {cache : Cache} (tidy : cache.shelf.Tidy)
    (unbounded : cache.limits.capacity = 0) (now : Nat) (writes : List Write) {name : Name}
    {key : EntryKey} (apart : ∀ write ∈ writes, ¬ (write.owner ≈ name ∧ write.key = key)) :
    (cache.writeAll now writes).entryAt? name key = cache.entryAt? name key := by
  induction writes generalizing cache with
  | nil => rfl
  | cons write rest inductionHypothesis =>
    obtain ⟨result, settles⟩ := write_settles tidy now write
    have first := settles.elsewhere_eq unbounded name key (apart write List.mem_cons_self)
    have others := inductionHypothesis settles.tidy (settles.limits ▸ unbounded) fun other later =>
      apart other (List.mem_cons_of_mem _ later)
    exact others.trans first

/-! ### What a response may touch -/

/-- The names that a trail passes through, the last of them where it ends. -/
def Trail.names (trail : Trail) : List Name := trail.aliases ++ [trail.current]

/-- A set that was made use of is among the answers, and an alias for a name passed through. -/
theorem Trail.Walks.used_standsFor {trail : Trail} {answers : List RRset} {type : RecordType}
    {start : Name} {links : List Link} {stuck : Option RRset}
    (walks : trail.Walks answers type start links stuck) {set : RRset} (used : set ∈ trail.used) :
    ∃ crossed ∈ trail.names, set ∈ answers ∧ isAliasFor set crossed = true := by
  rw [walks.used] at used
  rcases List.mem_append.mp used with crossed | last
  · obtain ⟨link, inside, rfl⟩ := List.mem_map.mp crossed
    obtain ⟨_, crosses⟩ := walks.chain.each link inside
    refine ⟨link.crossed, ?_, crosses.present, crosses.standsFor⟩
    rw [Trail.names, walks.aliases]
    exact List.mem_append_left _ (List.mem_map_of_mem inside)
  · obtain ⟨present, _, standsFor, _⟩ := walks.deadEnd set (Option.mem_toList.mp last)
    exact ⟨trail.current, List.mem_append_right _ (List.mem_singleton.mpr rfl), present, standsFor⟩

/-- The places that a response may touch, where `trail` is the way through its answer section. -/
inductive MayTouch (message : Message) (question : Question) (trail : Trail) (name : Name) :
    EntryKey → Prop where
  /-- A set of the answer section at a name passed through, which was made use of or has the type
  asked for. -/
  | answer (set : RRset) (passed : ∃ crossed ∈ trail.names, crossed ≈ name)
      (present : set ∈ setsInClass message .answer question.recordClass) (owner : set.name ≈ name)
      (part : set ∈ trail.used ∨ question.type = .any ∨ set.type = question.type) :
      MayTouch message question trail name (.type set.type)
  /-- A redirection of the answer section that was made use of, at a name above one passed
  through. -/
  | redirection (set : RRset) (crossed : Name) (passed : crossed ∈ trail.names)
      (present : set ∈ setsInClass message .answer question.recordClass) (owner : set.name ≈ name)
      (isDname : set.type = .dname) (used : set ∈ trail.used) (apart : ¬ name ≈ crossed)
      (below : crossed.isWithin set.name = true) : MayTouch message question trail name (.type .dname)
  /-- Servers from the authority section, for a zone that the end of the trail lies in. -/
  | servers (set : RRset) (present : set ∈ setsInClass message .authority question.recordClass)
      (owner : set.name ≈ name) (isNs : set.type = .ns)
      (below : trail.current.isWithin set.name = true) :
      MayTouch message question trail name (.type .ns)
  /-- The absence of what was asked for at the end of the trail, where nothing answers. -/
  | absence (key : EntryKey) (last : trail.current ≈ name) (incomplete : trail.finals = [])
      (about : key = .name ∨ key = .type question.type) : MayTouch message question trail name key
  /-- Addresses from the additional section, of a host that is named by an answer or by the servers
  of the zone. -/
  | address (set naming : RRset) (host : Name)
      (present : set ∈ setsInClass message .additional question.recordClass)
      (owner : set.name ≈ name) (addresses : set.type = .a ∨ set.type = .aaaa)
      (points : trail.Points message question.recordClass naming)
      (named : host ∈ namedHosts naming) (same : host ≈ name) :
      MayTouch message question trail name (.type set.type)

/-- A set that a name is crossed by, at the name itself or above it, may be kept. -/
theorem mayTouch_of_isAliasFor {message : Message} {question : Question} {trail : Trail}
    {name crossed : Name} {set : RRset}
    (present : set ∈ setsInClass message .answer question.recordClass) (used : set ∈ trail.used)
    (passed : crossed ∈ trail.names) (standsFor : isAliasFor set crossed = true)
    (owner : set.name ≈ name) : MayTouch message question trail name (.type set.type) := by
  rcases isAliasFor_iff.mp standsFor with ⟨_, same⟩ | ⟨isDname, apart, below⟩
  · exact .answer set ⟨crossed, passed, Setoid.trans (Setoid.symm same) owner⟩ present owner
      (Or.inl used)
  · rw [isDname]
    exact .redirection set crossed passed present owner isDname used
      (fun same => apart (Setoid.trans owner same)) below

/-- Whatever is kept of a response stands in a place that the response may touch. -/
theorem Write.Stems.mayTouch {message : Message} {question : Question} {trail : Trail}
    {start name : Name} {links : List Link} {stuck : Option RRset}
    (walks : trail.Walks (setsInClass message .answer question.recordClass) question.type start
      links stuck)
    {write : Write} (stems : write.Stems message question trail) (owner : write.owner ≈ name) :
    MayTouch message question trail name write.key := by
  cases stems with
  | answer set part =>
    rcases List.mem_append.mp part with used | final
    · obtain ⟨crossed, passed, present, standsFor⟩ := walks.used_standsFor used
      exact mayTouch_of_isAliasFor present used passed standsFor owner
    · obtain ⟨present, answers⟩ := walks.within.finals set final
      obtain ⟨same, matching⟩ := of_decide_eq_true answers
      exact .answer set ⟨trail.current, List.mem_append_right _ (List.mem_singleton.mpr rfl),
        Setoid.trans (Setoid.symm same) owner⟩ present owner (Or.inr matching)
  | servers set chosen =>
    obtain ⟨present, isNs, below⟩ := covering?_eq_some chosen
    show MayTouch _ _ _ _ (.type set.type)
    rw [isNs]
    exact .servers set present owner isNs below
  | absence key zoneStart incomplete about => exact .absence key owner incomplete about
  | address set naming host present addresses points named same =>
    exact .address set naming host present owner addresses points named (Setoid.trans same owner)

/-- In a cache with room for all names, a response leaves every entry exactly as it is, but for
those in the places it may touch. The way through its answer section starts from the name of the
question and crosses one alias after the other. Records of another class than the question's make no
difference at all, and without a question nothing happens. -/
theorem ingest_keeps_to_footprint {cache : Cache} (reachable : Reachable cache)
    (unbounded : cache.limits.capacity = 0) (now : Nat) (message : Message) :
    (message.question = none → cache.ingestResponse now message = (none, cache)) ∧
    ∀ question, message.question = some question →
      let answers := setsInClass message .answer question.recordClass
      let trail := trailOf question answers
      (∃ links stuck,
        trail.Walks answers question.type question.name.toAbsolute links stuck) ∧
      (∀ name key, ¬ MayTouch message question trail name key →
        (cache.ingestResponse now message).2.entryAt? name key = cache.entryAt? name key) ∧
      cache.ingestResponse now (message.ofClass question.recordClass) =
        cache.ingestResponse now message := by
  refine ⟨fun unasked => ?_, fun question asked => ?_⟩
  · unfold ingestResponse digest?
    rw [unasked]
  · intro answers trail
    obtain ⟨links, stuck, walks⟩ := trailOf_walks question answers
    refine ⟨⟨links, stuck, walks⟩, fun name key untouched => ?_,
      ingestResponse_ofClass cache now asked⟩
    unfold ingestResponse
    cases said : digest? message with
    | none => rfl
    | some digest =>
      obtain ⟨_, isQuestion, rfl, _⟩ := digest?_drawn said
      cases asked.symm.trans isQuestion
      refine writeAll_elsewhere reachable.tidy unbounded now _ fun write written there => ?_
      have stems := digestFor_stems message question write written
      exact untouched (there.2 ▸ stems.mayTouch walks there.1)

/-- A question for the addresses of `w.`. -/
def addressQuestion : Question := ⟨Name.ofOctets [0x77], .a, .inet⟩

/-- A response with the address of `w.`, and with one of `b.` that nobody has asked for. -/
def intrusiveResponse : Message :=
  { Message.responseTo (Message.query addressQuestion) with
    answers := [Record.address 1 300]
    additional := [{ Record.address 66 300 with name := Name.ofOctets [0x62] }] }

/-- A cache that has an address of `b.` as no more than a hint. -/
def hintedCache : Cache :=
  (Change.storeSet (RRset.ofRecord { Record.address 2 300 with name := Name.ofOctets [0x62] })
    .hint).apply 1000 (Cache.new .inet ⟨0, none, 3600⟩)

theorem intrusiveResponse_mayTouch_not (key : EntryKey) :
    ¬ MayTouch intrusiveResponse addressQuestion
      (trailOf addressQuestion (setsInClass intrusiveResponse .answer .inet))
      (Name.ofOctets [0x62]) key := by
  have names : ∀ crossed ∈ (trailOf addressQuestion
      (setsInClass intrusiveResponse .answer .inet)).names,
      ¬ crossed ≈ Name.ofOctets [0x62] := by decide +kernel
  have owners : ∀ set ∈ setsInClass intrusiveResponse .answer .inet,
      ¬ set.name ≈ Name.ofOctets [0x62] := by decide +kernel
  have noHosts : ∀ set ∈ (trailOf addressQuestion
      (setsInClass intrusiveResponse .answer .inet)).finals, namedHosts set = [] := by
    decide +kernel
  intro touches
  cases touches with
  | answer set passed present owner part => exact owners set present owner
  | redirection set crossed passed present owner isDname used apart below =>
    exact owners set present owner
  | servers set present owner isNs below => cases present
  | absence key last incomplete about =>
    exact names _ (List.mem_append_right _ (List.mem_singleton.mpr rfl)) last
  | address set naming host present owner addresses points named same =>
    rcases points with final | chosen
    · rw [noHosts naming final] at named
      cases named
    · cases chosen

/-- The address of `w.` is learned, and the hint about `b.` stays as it is. -/
theorem hintedCache_keeps_hint :
    (hintedCache.ingestResponse 1000 intrusiveResponse).2.entryAt? (Name.ofOctets [0x77])
        (.type .a) ≠ none ∧
      (hintedCache.ingestResponse 1000 intrusiveResponse).2.entryAt? (Name.ofOctets [0x62])
        (.type .a) = some ⟨.positive (RRset.ofRecord { Record.address 2 300 with
          name := Name.ofOctets [0x62] }), .hint, 1300⟩ := by
  have reachable : Reachable hintedCache :=
    (Reachable.new .inet ⟨0, none, 3600⟩).step 1000 _ (RRset.ofRecord_coherent _)
  obtain ⟨_, keeps⟩ := ingest_keeps_to_footprint reachable rfl 1000 intrusiveResponse
  obtain ⟨_, kept, _⟩ := keeps addressQuestion rfl
  exact ⟨by decide +kernel,
    (kept _ _ (intrusiveResponse_mayTouch_not _)).trans (by decide +kernel)⟩

end Cache

end StubResolver
