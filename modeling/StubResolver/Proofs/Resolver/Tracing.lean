/-
This file says what a resolution can rely on when the caches it uses were filled by resolutions
only, and all messages carry absolute names. Whatever a cache says of a name then goes back to sets
that were received, and whatever a response says goes back to sets of the response. The log of
exchanges that this is said about only ever grows.

Other resolutions may use the same caches at the same time. They act between the calls that a
resolution makes, and the clock moves. All that is asked of them is that they, too, fill caches only
with what was received, and that their exchanges are in the log.
-/

import StubResolver.Proofs.Cache.Provenance
import StubResolver.Resolver.Resolve

namespace StubResolver

/-! ### What an outcome goes back to -/

/-- An outcome of a question for a name and a type goes back to sets that were received. -/
def Backed (log : List Exchange) (recordClass : RecordClass) (name : Name) (type : RecordType) :
    Outcome → Prop
  | .successful sets => ∀ set ∈ sets, Received log recordClass set ∧ set.name ≈ name ∧
      (type = .any ∨ set.type = type)
  | .cname set => Received log recordClass set ∧ set.type = .cname ∧ set.name ≈ name
  | .dname set => Received log recordClass set ∧ set.type = .dname ∧ ¬ set.name ≈ name
  | _ => True

/-- What a cache supports goes back to what has filled it. -/
theorem backed_of_supports {log : List Exchange} {cache : Cache} (filled : cache.Filled log)
    {now : Nat} {least : Credibility} {name : Name} {type : RecordType} {outcome : Outcome}
    (supports : cache.Supports now least name type outcome) :
    Backed log cache.recordClass name type outcome := by
  have inPlace := filled.reachable.inPlace
  have received := filled.received
  have place {level : Name} {key : Cache.EntryKey} {set : RRset}
      (offers : cache.Offers now least level key set) : Received log cache.recordClass set ∧
        set.name ≈ level ∧ key = .type set.type := by
    obtain ⟨entry, alive, _, isSet⟩ := offers
    have found := (Cache.live?_eq_some_iff.mp alive).1
    exact ⟨received level key entry set found isSet, (inPlace level key entry set found isSet).2⟩
  cases outcome with
  | successful sets =>
    intro set member
    obtain ⟨key, offers, wanted⟩ := supports set member
    obtain ⟨setReceived, owner, rfl⟩ := place offers
    exact ⟨setReceived, owner, wanted.imp_right Cache.EntryKey.type.inj⟩
  | cname set =>
    obtain ⟨setReceived, owner, type⟩ := place supports
    exact ⟨setReceived, (Cache.EntryKey.type.inj type).symm, owner⟩
  | dname set =>
    obtain ⟨above, visited, offers⟩ := supports
    obtain ⟨setReceived, owner, type⟩ := place offers
    refine ⟨setReceived, (Cache.EntryKey.type.inj type).symm, fun same => ?_⟩
    exact Cache.not_equiv_of_mem_ancestorsOf visited (Setoid.trans (Setoid.symm owner) same)
  | _ => exact trivial

/-! ### Services that can be relied on -/

/-- Services that stay sound, extend a log, and whose reports go back to what is in it. -/
structure Faithful {World : Type} (services : Services World) (recordClass : RecordClass)
    (sound : World → Prop) (log : World → List Exchange) : Prop where
  absolute : ∀ world, sound world → AbsoluteLog (log world)
  lookup : ∀ world name type least, sound world → name.absolute = true →
    sound (services.lookup world name type least).2 ∧
      log world <+: log (services.lookup world name type least).2 ∧
      Backed (log (services.lookup world name type least).2) recordClass name type
        (services.lookup world name type least).1
  send : ∀ world query, sound world →
    sound (services.send world query).2 ∧ log world <+: log (services.send world query).2 ∧
      ∀ response, (services.send world query).1 = .ok response →
        ⟨query, response⟩ ∈ log (services.send world query).2
  ingest : ∀ world question response echoed, sound world →
    ⟨Message.query question, response⟩ ∈ log world → question.recordClass = recordClass →
    response.question = some echoed → echoed ≈ question →
    sound (services.ingest world response).2 ∧
      log world <+: log (services.ingest world response).2 ∧
      (services.ingest world response).1 = (Cache.digest? response).map Cache.Digest.ingested

/-! ### The services of a registry -/

variable {Network : Type}

/-- A sender that takes down every exchange. -/
def Sender.recorded (send : Sender Network) : Sender (Network × List Exchange) :=
  fun (network, log) query =>
    match send network query with
    | (.ok response, later) => (.ok response, later, log ++ [⟨query, response⟩])
    | (.error error, later) => (.error error, later, log)

/-- A sender whose messages carry absolute names. -/
def Sender.Absolute (send : Sender Network) : Prop :=
  ∀ network query response, (send network query).1 = .ok response → response.Absolute

/-- What the exchanges of a log are found in. -/
abbrev Recorded (Network : Type) := Registry × Network × List Exchange

/-- The exchanges taken down so far. -/
def Recorded.log (world : Recorded Network) : List Exchange := world.2.2

/-- All caches of a registry were filled by the exchanges in a log. -/
def Registry.Filled (registry : Registry) (log : List Exchange) : Prop :=
  ∀ swept ∈ registry.caches, swept.cache.Filled log

/-- All caches were filled by exchanges that were taken down, and names in them are absolute. -/
def Recorded.Sound (world : Recorded Network) : Prop :=
  world.1.Filled world.log ∧ AbsoluteLog world.log

theorem Registry.Filled.mono {registry : Registry} {log longer : List Exchange}
    (extended : log <+: longer) (filled : registry.Filled log) : registry.Filled longer :=
  fun swept member => (filled swept member).mono extended

theorem SweptCache.retune_cache (swept : SweptCache) (canRun : Bool) (interval : Option Nat) :
    (swept.retune canRun interval).cache = swept.cache := by
  unfold retune
  split
  · rfl
  · split <;> rfl

theorem SweptCache.setInterval_cache {swept later : SweptCache} {canRun : Bool} {minutes : Int64}
    (isSet : swept.setInterval canRun minutes = .ok later) : later.cache = swept.cache := by
  unfold setInterval at isSet
  cases counted : sweepInterval minutes with
  | error overflow =>
    rw [counted] at isSet
    cases isSet
  | ok interval =>
    rw [counted] at isSet
    cases isSet
    exact swept.retune_cache canRun _

/-- The cache of a class is the one that is there. Otherwise it is a new one, whether it is swept or
not. -/
theorem Registry.opened_cases (registry : Registry) (recordClass : RecordClass) :
    (∃ swept, registry.get? recordClass = some swept ∧
        registry.opened recordClass = (swept, registry)) ∨
      registry.get? recordClass = none ∧
        ∃ swept made, registry.opened recordClass = (swept, made) ∧
          swept.cache = Cache.new recordClass registry.settings.limits ∧
          (made = registry ∨ made = registry.put swept) := by
  unfold opened getOrCreate
  cases found : registry.get? recordClass with
  | some swept => exact Or.inl ⟨swept, rfl, rfl⟩
  | none =>
    refine Or.inr ⟨rfl, ?_⟩
    cases made : SweptCache.new recordClass registry.settings true with
    | error overflow => exact ⟨_, _, rfl, rfl, Or.inl rfl⟩
    | ok swept => exact ⟨swept, _, rfl, SweptCache.setInterval_cache made, Or.inr rfl⟩

/-- All caches of a registry have a property. -/
def Registry.Each (holds : Cache → Prop) (registry : Registry) : Prop :=
  ∀ swept ∈ registry.caches, holds swept.cache

namespace Registry.Each

variable {holds : Cache → Prop} {registry : Registry} {recordClass : RecordClass}

/-- The cache of a class has a property that all caches of a registry have, and that new ones have.
-/
theorem opened (each : registry.Each holds)
    (fresh : ∀ limits, holds (Cache.new recordClass limits)) :
    holds (registry.opened recordClass).1.cache ∧
      (registry.opened recordClass).1.cache.recordClass = recordClass ∧
      (registry.opened recordClass).2.Each holds := by
  rcases registry.opened_cases recordClass with
    ⟨swept, found, there⟩ | ⟨_, swept, made, isNew, cache, unchanged | added⟩
  · rw [there]
    have same := List.find?_some found
    exact ⟨each swept (List.mem_of_find?_eq_some found), of_decide_eq_true same, each⟩
  · rw [isNew, cache, unchanged]
    exact ⟨fresh _, rfl, each⟩
  · rw [isNew, cache, added]
    refine ⟨fresh _, rfl, fun other member => ?_⟩
    rcases List.mem_append.mp member with before | new
    · exact each other (List.mem_filter.mp before).1
    · rw [List.mem_singleton.mp new, cache]
      exact fresh _

/-- A change of the cache of a class keeps a property of all caches, if it does so for this one. -/
theorem withCache (each : registry.Each holds)
    (fresh : ∀ limits, holds (Cache.new recordClass limits)) {Report : Type}
    (change : Cache → Report × Cache)
    (keeps : ∀ cache, holds cache → cache.recordClass = recordClass → holds (change cache).2) :
    (registry.withCache recordClass change).2.Each holds ∧
      ∃ cache, holds cache ∧ cache.recordClass = recordClass ∧
        (registry.withCache recordClass change).1 = (change cache).1 := by
  obtain ⟨cacheHolds, ofClass, others⟩ := each.opened fresh
  unfold Registry.withCache
  dsimp only
  refine ⟨fun swept member => ?_, _, cacheHolds, ofClass, rfl⟩
  rcases List.mem_append.mp member with other | changed
  · exact others swept (List.mem_filter.mp other).1
  · rw [List.mem_singleton.mp changed]
    exact keeps _ cacheHolds ofClass

end Registry.Each

/-- Changing the cache of a class leaves all caches filled, if it does so with this one. -/
theorem Registry.withCache_filled {registry : Registry} {log : List Exchange}
    (filled : registry.Filled log) (recordClass : RecordClass) {Report : Type}
    (change : Cache → Report × Cache)
    (keeps : ∀ cache, cache.Filled log → cache.recordClass = recordClass →
      (change cache).2.Filled log) :
    (registry.withCache recordClass change).2.Filled log ∧
      ∃ cache, cache.Filled log ∧ cache.recordClass = recordClass ∧
        (registry.withCache recordClass change).1 = (change cache).1 := by
  have each : registry.Each fun cache => cache.Filled log := filled
  exact each.withCache (fun limits => .new recordClass limits) change keeps

/-- Taking down an exchange keeps everything sound. -/
theorem Recorded.Sound.send {registry : Registry} {network : Network} {log : List Exchange}
    (sound : Recorded.Sound (registry, network, log)) {send : Sender Network}
    (absolute : send.Absolute) (query : Message) :
    Recorded.Sound (registry, (send.recorded (network, log) query).2) ∧
      log <+: (send.recorded (network, log) query).2.2 ∧
      ∀ response, (send.recorded (network, log) query).1 = .ok response →
        ⟨query, response⟩ ∈ (send.recorded (network, log) query).2.2 := by
  have fromSender := absolute network query
  unfold Sender.recorded
  dsimp only
  split
  · rename_i response later sent
    rw [sent] at fromSender
    have extended := List.prefix_append log [⟨query, response⟩]
    refine ⟨⟨sound.1.mono extended, fun exchange member => ?_⟩, extended, fun other same => ?_⟩
    · rcases List.mem_append.mp member with old | new
      · exact sound.2 exchange old
      · rw [List.mem_singleton.mp new]
        exact fromSender response rfl
    · cases same
      exact List.mem_append_right _ (List.mem_singleton.mpr rfl)
  · refine ⟨sound, List.prefix_rfl, fun response same => ?_⟩
    cases same

/-- The services of a registry and a sender can be relied on. -/
theorem Registry.services_faithful (recordClass : RecordClass) (now : Nat)
    {send : Sender Network} (absolute : send.Absolute) :
    Faithful (Registry.services recordClass now send.recorded) recordClass Recorded.Sound
      Recorded.log where
  absolute := fun _ sound => sound.2
  lookup := by
    rintro ⟨registry, network, log⟩ name type least sound isAbsolute
    obtain ⟨filled, cache, cacheFilled, ofClass, reported⟩ := withCache_filled sound.1 recordClass
      (fun cache => cache.lookup now name type least)
      fun cache cacheFilled _ => cacheFilled.step now (.lookup name type least) rfl
    refine ⟨⟨filled, sound.2⟩, List.prefix_rfl, ?_⟩
    have supports := (Cache.lookup_spec cacheFilled.reachable.tidy now name type least).2
    rw [Name.toAbsolute_of_absolute _ isAbsolute] at supports
    have backed := backed_of_supports cacheFilled supports
    rw [ofClass, ← reported] at backed
    exact backed
  send := by
    rintro ⟨registry, network, log⟩ query sound
    exact sound.send absolute query
  ingest := by
    rintro ⟨registry, network, log⟩ question response echoed sound member ofClass echoes same
    obtain ⟨filled, cache, _, _, reported⟩ := withCache_filled sound.1 recordClass
      (fun cache => cache.ingestResponse now response)
      fun cache cacheFilled cacheClass => cacheFilled.learn now _ member question echoed rfl
        (ofClass.trans cacheClass.symm) echoes same
    refine ⟨⟨filled, sound.2⟩, List.prefix_rfl, reported.trans ?_⟩
    unfold Cache.ingestResponse
    cases Cache.digest? response <;> rfl

/-! ### Sharing caches with others -/

/-- The services of a registry and a sender as a resolution meets them that is not alone: before
every call others have acted, and the clock shows another time. -/
def Registry.sharedServices (recordClass : RecordClass) (send : Sender Network)
    (others : Recorded Network → Recorded Network) (clock : Recorded Network → Nat) :
    Services (Recorded Network) where
  lookup := fun world name type least =>
    (Registry.services recordClass (clock world) send.recorded).lookup (others world) name type
      least
  ingest := fun world message =>
    (Registry.services recordClass (clock world) send.recorded).ingest (others world) message
  send := fun world query =>
    (Registry.services recordClass (clock world) send.recorded).send (others world) query

/-- Others fill caches only with what was received, and their exchanges are taken down. -/
def Honest (others : Recorded Network → Recorded Network) : Prop :=
  ∀ world, world.Sound → (others world).Sound ∧ world.log <+: (others world).log

theorem Honest.id : Honest (fun world : Recorded Network => world) :=
  fun _ sound => ⟨sound, List.prefix_rfl⟩

/-- Shared services can be relied on as well. -/
theorem Registry.sharedServices_faithful (recordClass : RecordClass) {send : Sender Network}
    (absolute : send.Absolute) {others : Recorded Network → Recorded Network}
    (honest : Honest others) (clock : Recorded Network → Nat) :
    Faithful (Registry.sharedServices recordClass send others clock) recordClass Recorded.Sound
      Recorded.log where
  absolute := fun _ sound => sound.2
  lookup := by
    intro world name type least sound isAbsolute
    obtain ⟨soundThen, extended⟩ := honest world sound
    obtain ⟨soundAfter, later, backed⟩ := (services_faithful recordClass (clock world)
      absolute).lookup (others world) name type least soundThen isAbsolute
    exact ⟨soundAfter, extended.trans later, backed⟩
  send := by
    intro world query sound
    obtain ⟨soundThen, extended⟩ := honest world sound
    obtain ⟨soundAfter, later, taken⟩ := (services_faithful recordClass (clock world)
      absolute).send (others world) query soundThen
    exact ⟨soundAfter, extended.trans later, taken⟩
  ingest := by
    intro world question response echoed sound member ofClass echoes same
    obtain ⟨soundThen, extended⟩ := honest world sound
    obtain ⟨soundAfter, later, reported⟩ := (services_faithful recordClass (clock world)
      absolute).ingest (others world) question response echoed soundThen (extended.subset member)
        ofClass echoes same
    exact ⟨soundAfter, extended.trans later, reported⟩

end StubResolver
