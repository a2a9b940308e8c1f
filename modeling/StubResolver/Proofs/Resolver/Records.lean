/-
This file settles when a successful resolution has records. It has those of the last outcome that it
heard, and outcomes are successful with sets of signatures alone where the cache holds such sets or
where responses bring them. So the records are there as long as neither is the case, and from a
resolution to the next it stays so.
-/

import StubResolver.Proofs.Cache.Signatures
import StubResolver.Proofs.Resolver.Returning

namespace StubResolver

namespace Cache

/-! ### Responses that are successful -/

/-- A response is successful without records of a set exactly if all that its answer section has for
the set is signatures. -/
theorem ingest_bare_iff (cache : Cache) (now : Nat) (message : Message) {ingested : Ingested}
    (said : (cache.ingestResponse now message).1 = some ingested) {sets : List RRset}
    (found : ingested.outcome = .successful sets) :
    sets ≠ [] ∧ ∀ set ∈ sets, (set.Bare ↔ ∀ record ∈ message.answers,
      set.accepts record = true → record.isSignature = true) := by
  unfold ingestResponse at said
  cases isDigest : digest? message with
  | none =>
    rw [isDigest] at said
    cases said
  | some digest =>
    rw [isDigest] at said
    cases said
    obtain ⟨question, _, _, rfl⟩ := digest?_eq_some isDigest
    obtain ⟨rfl, filled⟩ := digestFor_successful found
    refine ⟨filled, fun set final => ?_⟩
    have within := trailOf_within question (setsInClass message .answer question.recordClass)
    have present : set ∈ message.sets .answer := (mem_setsInClass (within.finals set final).1).2
    exact Message.bare_iff_of_mem_sets present

/-- A response that brings no signatures alone has data where it is successful. -/
theorem digest?_hasData {message : Message} (filled : ∀ set, ¬ message.BringsBare set)
    {digest : Digest} (said : digest? message = some digest) : digest.ingested.outcome.HasData := by
  obtain ⟨question, asked, cacheable, rfl⟩ := digest?_eq_some said
  intro sets found
  obtain ⟨rfl, some⟩ := digestFor_successful found
  refine ⟨some, fun set final bare => filled set ?_⟩
  have part : set ∈ (trailThrough message question).used ++ (trailThrough message question).finals :=
    List.mem_append_right _ final
  exact ⟨question, .ofSection .answer message.authoritative, asked, cacheable,
    List.mem_append_left _ (List.mem_append_left _ (List.mem_map_of_mem part)), bare⟩

end Cache

/-! ### Services that give data -/

/-- Services that stay sound, are sent no signatures alone, and have data where they are
successful. -/
structure GivesData {World : Type} (services : Services World) (sound : World → Prop) : Prop where
  lookup : ∀ world name type least, sound world →
    sound (services.lookup world name type least).2 ∧
      (services.lookup world name type least).1.HasData
  send : ∀ world query, sound world →
    sound (services.send world query).2 ∧
      ∀ response, (services.send world query).1 = .ok response →
        ∀ set, ¬ response.BringsBare set
  ingest : ∀ world response, sound world → (∀ set, ¬ response.BringsBare set) →
    sound (services.ingest world response).2 ∧
      ∀ ingested, (services.ingest world response).1 = some ingested → ingested.outcome.HasData

section

variable {World : Type} {services : Services World} {sound : World → Prop}

theorem GivesData.learn (gives : GivesData services sound) {world : World} (isSound : sound world)
    (question : Question) (credibility : Credibility) {response : Message}
    (filled : ∀ set, ¬ response.BringsBare set) :
    sound (services.learn world question credibility response).2 ∧
      (services.learn world question credibility response).1.outcome.HasData := by
  obtain ⟨soundThen, reported⟩ := gives.ingest world response isSound filled
  unfold Services.learn
  split
  · rename_i ingested learned said
    rw [said] at soundThen reported
    exact ⟨soundThen, reported ingested rfl⟩
  · rename_i unchanged said
    rw [said] at soundThen
    exact gives.lookup unchanged question.name question.type credibility soundThen

theorem GivesData.ask (gives : GivesData services sound) {world : World} (isSound : sound world)
    (question : Question) (credibility : Credibility) :
    sound (services.ask world question credibility).2 ∧
      ∀ ingested, (services.ask world question credibility).1 = .ok ingested →
        ingested.outcome.HasData := by
  obtain ⟨soundThen, filled⟩ := gives.send world (Message.query question) isSound
  unfold Services.ask
  split
  · rename_i error sent isSent
    rw [isSent] at soundThen
    exact ⟨soundThen, nofun⟩
  · rename_i response sent isSent
    rw [isSent] at soundThen filled
    split
    · exact ⟨soundThen, nofun⟩
    · obtain ⟨soundAfter, learned⟩ :=
        gives.learn soundThen question credibility (filled response rfl)
      refine ⟨soundAfter, fun ingested said => ?_⟩
      cases said
      exact learned

namespace Progress

/-- A resolution that has succeeded has found sets, and none of them is of signatures alone. -/
def FindsData (progress : Progress) : Prop :=
  progress.Succeeded → progress.answers ≠ [] ∧ ∀ set ∈ progress.answers, ¬ set.Bare

theorem FindsData.congr {progress later : Progress} (finds : progress.FindsData)
    (verdict : later.verdict = progress.verdict) (answers : later.answers = progress.answers) :
    later.FindsData := by
  unfold FindsData Succeeded at finds ⊢
  rwa [verdict, answers]

/-- An alias decides against the resolution, or decides nothing. -/
theorem FindsData.followAlias {progress : Progress} (finds : progress.FindsData)
    (target old : Name) : (progress.followAlias target old).1.FindsData := by
  unfold Progress.followAlias
  dsimp only
  split
  · exact nofun
  · exact finds.congr rfl rfl

/-- A resolution finds data as long as it hears outcomes that have data. -/
theorem FindsData.respond {progress : Progress} (finds : progress.FindsData) (current : Name)
    {outcome : Outcome} (hasData : outcome.HasData) (chain : List Name) :
    (progress.respond current outcome chain).1.FindsData := by
  unfold Progress.respond
  cases outcome with
  | successful sets =>
    intro succeeded
    dsimp only at succeeded ⊢
    rw [(succeed_spec succeeded).2]
    exact hasData sets rfl
  | nxDomain =>
    dsimp only
    unfold missName
    split
    · exact nofun
    · exact finds.congr rfl rfl
  | nxRRset => exact nofun
  | cname set =>
    dsimp only
    split
    · exact finds.followAlias _ _
    · exact finds
  | dname set =>
    dsimp only
    split
    · unfold followRedirection
      split
      · exact finds.followAlias _ _
      · exact nofun
    · exact finds
  | delegation set => exact finds.congr rfl rfl
  | unknown => exact finds

variable {request : Request}

theorem networkRound_findsData (gives : GivesData services sound) (current : Name)
    {progress : Progress} (finds : progress.FindsData) {world : World} (isSound : sound world) :
    let heard := networkRound services request current progress world
    heard.progress.FindsData ∧ sound heard.world := by
  obtain ⟨soundThen, reported⟩ := gives.ask isSound
    ⟨current, request.type, request.recordClass⟩ request.options.credibility
  unfold networkRound
  dsimp only
  split
  · rename_i failure asked isAsked
    rw [isAsked] at soundThen
    cases failure <;> exact ⟨finds.congr rfl rfl, soundThen⟩
  · rename_i ingested asked isAsked
    rw [isAsked] at soundThen reported
    have after := finds.respond current (reported ingested rfl) ingested.aliases
    split
    all_goals
      rename_i responded
      rw [responded] at after
      exact ⟨after, soundThen⟩

theorem round_findsData (gives : GivesData services sound) (current : Name) {progress : Progress}
    (finds : progress.FindsData) {world : World} (isSound : sound world) :
    let heard := round services request current progress world
    heard.progress.FindsData ∧ sound heard.world := by
  obtain ⟨soundThen, hasData⟩ := gives.lookup world current request.type
    request.options.credibility isSound
  unfold round
  generalize services.lookup world current request.type request.options.credibility = answer
    at soundThen hasData ⊢
  have after := finds.respond current hasData []
  obtain ⟨outcome, looked⟩ := answer
  dsimp only at after soundThen ⊢
  split
  all_goals
    rename_i responded
    rw [responded] at after
  · exact ⟨after, soundThen⟩
  · exact ⟨after, soundThen⟩
  · exact networkRound_findsData gives current after soundThen

/-- An attempt finds data, since each of its rounds does. -/
theorem attempt_findsData (gives : GivesData services sound) (current : Name)
    {progress : Progress} (finds : progress.FindsData) {world : World} (isSound : sound world) :
    (attempt services request current progress world).1.FindsData ∧
      sound (attempt services request current progress world).2 :=
  attempt_induction services request
    (fun _ progress world => progress.FindsData ∧ sound world)
    (fun progress world => progress.FindsData ∧ sound world)
    (fun current _ _ _ before _ => round_findsData gives current before.1 before.2)
    (fun current _ _ before _ => round_findsData gives current before.1 before.2)
    current progress world ⟨finds, isSound⟩

/-- A search finds data, since each of its attempts does. -/
theorem search_findsData (gives : GivesData services sound) (request : Request) {world : World}
    (isSound : sound world) :
    (search (attempt services request) request world).1.FindsData ∧
      sound (search (attempt services request) request world).2 := by
  have spends : Spends (attempt services request)
      fun _ progress world => progress.FindsData ∧ sound world :=
    ⟨fun _ name _ _ before => attempt_findsData gives name before.1 before.2,
      fun _ _ _ before => ⟨before.1.congr rfl rfl, before.2⟩⟩
  have atStart : start.FindsData := nofun
  obtain ⟨_, after⟩ := spends.search request ⟨atStart, isSound⟩
  exact after

end Progress

/-- With services that give data, a successful resolution has sets, each of them has records, and
the services go on to give data. -/
theorem Request.resolve_findsData (gives : GivesData services sound) (request : Request)
    {world : World} (isSound : sound world) :
    sound (request.resolve services world).2 ∧
      ((request.resolve services world).1.status = .successful →
        (request.resolve services world).1.answers ≠ [] ∧
          ∀ set ∈ (request.resolve services world).1.answers, ¬ set.Bare) := by
  obtain ⟨finds, soundThen⟩ := Progress.search_findsData gives request isSound
  refine ⟨soundThen, fun successful => ?_⟩
  unfold Request.resolve at successful ⊢
  dsimp only at successful ⊢
  obtain ⟨succeeded, answers⟩ := Progress.conclude_successful successful
  rw [answers]
  exact finds succeeded

end

/-! ### Caches without signatures alone -/

namespace Cache

/-- A cache that holds no set of signatures alone. -/
structure DataOnly (cache : Cache) : Prop where
  reachable : Reachable cache
  filled : ¬ cache.HoldsBare

/-- Operations that bring no signatures alone leave none. -/
theorem DataOnly.apply {cache : Cache} (dataOnly : cache.DataOnly) (now : Nat)
    (operation : Operation) (built : operation.Built) (brings : ¬ operation.BringsBare) :
    (operation.apply now cache).DataOnly := by
  refine ⟨dataOnly.reachable.operation now operation built.coherent, fun holds => ?_⟩
  have cases := dataOnly.reachable.run_cases
    (fun now _ reachable => apply_holdsBare reachable now) [(now, operation)]
    (by simpa using built) holds
  rcases cases with before | ⟨_, member, change, takes, bringsToo⟩
  · exact dataOnly.filled before
  · rw [List.mem_singleton.mp member] at takes
    exact brings (takes.bringsBare built.coherent bringsToo)

theorem new_dataOnly (recordClass : RecordClass) (limits : CacheLimits) :
    (Cache.new recordClass limits).DataOnly :=
  ⟨.new recordClass limits, fun ⟨_, _, _, _, found, _⟩ => nomatch found⟩

end Cache

/-- A sender that is sent no signatures alone. -/
def Sender.DataOnly {Network : Type} (send : Sender Network) : Prop :=
  ∀ network query response, (send network query).1 = .ok response →
    ∀ set, ¬ response.BringsBare set

/-- The services of a registry give data, if its caches hold no signatures alone and servers send
none, and if others leave it so. -/
theorem Registry.sharedServices_givesData {Network : Type} (recordClass : RecordClass)
    {send : Sender Network} (dataOnly : send.DataOnly)
    {others : Recorded Network → Recorded Network}
    (leave : ∀ world, world.1.Each Cache.DataOnly → (others world).1.Each Cache.DataOnly)
    (clock : Recorded Network → Nat) :
    GivesData (sharedServices recordClass send others clock)
      fun world => world.1.Each Cache.DataOnly where
  lookup := by
    intro world name type least each
    obtain ⟨eachThen, cache, holds, _, reported⟩ := (leave world each).withCache
      (fun limits => Cache.new_dataOnly recordClass limits)
      (fun cache => cache.lookup (clock world) name type least)
      fun _ holds _ => holds.apply (clock world) (.lookup name type least) trivial id
    refine ⟨eachThen, ?_⟩
    have hasData := Cache.lookup_hasData holds.reachable holds.filled (clock world) name type least
    rw [← reported] at hasData
    exact hasData
  send := by
    intro world query each
    refine ⟨leave world each, fun response said => ?_⟩
    have fromSender := dataOnly (others world).2.1 query
    change (send.recorded (others world).2 query).1 = .ok response at said
    unfold Sender.recorded at said
    dsimp only at said
    split at said
    · rename_i sent _ isSent
      cases said
      exact fromSender response (by rw [isSent])
    · cases said
  ingest := by
    intro world response each filled
    obtain ⟨eachThen, cache, _, _, reported⟩ := (leave world each).withCache
      (fun limits => Cache.new_dataOnly recordClass limits)
      (fun cache => cache.ingestResponse (clock world) response)
      fun _ holds _ => holds.apply (clock world) (.ingest response) trivial
        fun ⟨set, brings⟩ => filled set brings
    refine ⟨eachThen, fun ingested said => ?_⟩
    have learned := reported.symm.trans said
    unfold Cache.ingestResponse at learned
    cases isDigest : Cache.digest? response with
    | none =>
      rw [isDigest] at learned
      cases learned
    | some digest =>
      rw [isDigest] at learned
      cases learned
      exact Cache.digest?_hasData filled isDigest

/-! ### Success with data and without -/

/-- Lookups, responses and resolutions are successful with records, but for sets of signatures alone.
A lookup gives out such a set exactly if one is alive at an absolute name, and then an operation has
brought signatures alone; a signature that is added where nothing is alive is given out at once. A
response leads to such a set exactly if its answer section has signatures for it, and no record. And
a successful resolution has records if neither the caches hold such sets nor servers send any; the
caches then go on to hold none. -/
theorem success_without_data_traced (recordClass : RecordClass) (limits : CacheLimits)
    (operations : List (Nat × Cache.Operation))
    (built : ∀ operation ∈ operations, operation.2.Built) :
    let cache := Cache.Operation.run operations (Cache.new recordClass limits)
    (∀ now, cache.GivesBare now ↔ ∃ name type entry set, name.absolute = true ∧
      cache.live? now name (.type type) = some entry ∧ entry.set? = some set ∧ set.Bare) ∧
    (∀ now, cache.GivesBare now → ∃ operation ∈ operations, operation.2.BringsBare) ∧
    (∀ now record credibility, now < Cache.lastSecond → cache.limits.longestPositive ≠ some 0 →
      record.isSignature = true → record.ttl ≠ 0 → record.setType.isMeta = false →
      cache.live? now record.name.toAbsolute (.type record.setType) = none →
      ((Cache.Operation.addRecord record credibility).apply now cache).GivesBare now) ∧
    (∀ now message ingested sets, (cache.ingestResponse now message).1 = some ingested →
      ingested.outcome = .successful sets →
      sets ≠ [] ∧ ∀ set ∈ sets, (set.Bare ↔ ∀ record ∈ message.answers,
        set.accepts record = true → record.isSignature = true)) ∧
    (∀ (Network : Type) (request : Request) (send : Sender Network)
      (others : Recorded Network → Recorded Network) (clock : Recorded Network → Nat)
      (world : Recorded Network), send.DataOnly →
      (∀ world, world.1.Each Cache.DataOnly → (others world).1.Each Cache.DataOnly) →
      world.1.Each Cache.DataOnly →
      let (resolution, left) :=
        request.resolve (Registry.sharedServices request.recordClass send others clock) world
      left.1.Each Cache.DataOnly ∧
        (resolution.status = .successful →
          1 ≤ resolution.records.length ∧ ∀ set ∈ resolution.answers, ¬ set.Bare)) := by
  intro cache
  have reachable : Cache.Reachable cache :=
    (Cache.Reachable.new recordClass limits).run operations built
  refine ⟨Cache.givesBare_iff reachable, fun now gives => ?_, ?_, ?_, ?_⟩
  · obtain ⟨name, type, entry, set, _, alive, isSet, bare⟩ :=
      (Cache.givesBare_iff reachable now).mp gives
    exact Cache.run_bringsBare recordClass limits operations built
      ⟨name, _, entry, set, (Cache.live?_eq_some_iff.mp alive).1, isSet, bare⟩
  · intro now record credibility inTime keepsSets signed lasts cacheable nothing
    exact Cache.addRecord_givesBare reachable inTime keepsSets signed lasts cacheable nothing
      credibility
  · exact fun now message _ _ said found => Cache.ingest_bare_iff cache now message said found
  · intro Network request send others clock world dataOnly leave each
    obtain ⟨eachThen, finds⟩ := Request.resolve_findsData
      (Registry.sharedServices_givesData request.recordClass dataOnly leave clock) request each
    refine ⟨eachThen, fun successful => ?_⟩
    obtain ⟨some, filled⟩ := finds successful
    obtain ⟨set, member⟩ := List.exists_mem_of_ne_nil _ some
    obtain ⟨record, inside⟩ := List.exists_mem_of_ne_nil _ (filled set member)
    exact ⟨List.length_pos_of_mem (List.mem_flatMap.mpr ⟨set, member, inside⟩), filled⟩

/-- A server that answers with no signature sends none alone. -/
theorem answering_dataOnly {records : List Record}
    (unsigned : ∀ record ∈ records, record.isSignature = false) :
    (answering records).DataOnly := by
  intro network query response said set brings
  cases said
  obtain ⟨part, record, inside, signed⟩ := brings.signed
  cases part with
  | answer =>
    rw [unsigned record inside] at signed
    cases signed
  | _ => cases inside

/-- The signature of the addresses of `w.`. -/
def addressSignature : Record := { Record.address 1 300 with data := .rrsig .a [1] }

/-- An address is found with records, until a signature is added that comes before the records of
the type it covers; and the resolution of an address has a record. -/
theorem success_bare_address :
    let cache := Cache.Operation.run [(1000, .addRecord (Record.address 1 300) .normal)]
      (Cache.new .inet ⟨0, none, 3600⟩)
    let early := { Record.address 1 300 with data := .rrsig .aaaa [1] }
    ¬ cache.GivesBare 1000 ∧
      ((Cache.Operation.addRecord early .normal).apply 1000 cache).GivesBare 1000 ∧
      (addressAmong [Record.address 1 300]).1.status = .successful ∧
      1 ≤ (addressAmong [Record.address 1 300]).1.records.length := by
  obtain ⟨_, brought, adds, _, resolves⟩ := success_without_data_traced .inet ⟨0, none, 3600⟩
    [(1000, .addRecord (Record.address 1 300) .normal)] (by simp [Cache.Operation.Built])
  have successful : (addressAmong [Record.address 1 300]).1.status = .successful := by
    decide +kernel
  refine ⟨fun gives => ?_, ?_, successful, ?_⟩
  · obtain ⟨operation, member, brings⟩ := brought 1000 gives
    rw [List.mem_singleton.mp member] at brings
    cases brings
  · exact adds 1000 _ .normal (by decide) (by decide) rfl (by decide) rfl (by decide +kernel)
  · have leaves : freshWorld.1.Each Cache.DataOnly :=
      fun _ member => absurd member List.not_mem_nil
    exact ((resolves Unit addressRequest (answering [Record.address 1 300]) id (fun _ => 0)
      freshWorld (answering_dataOnly (by decide)) (fun _ each => each) leaves).2 successful).1

/-- A signature that comes first makes a lookup, a response and a resolution successful without a
record. -/
theorem success_bare_signature :
    let added := (Cache.Operation.addRecord addressSignature .normal).apply 1000
      (Cache.new .inet ⟨0, none, 3600⟩)
    let response := { Message.responseTo (Message.query ⟨Name.ofOctets [0x77], .a, .inet⟩) with
      answers := [addressSignature] }
    (added.lookup 1000 (Name.ofOctets [0x77]) .a .normal).1 =
        .single (RRset.ofRecord addressSignature) ∧
      (RRset.ofRecord addressSignature).Bare ∧
      ((Cache.new .inet ⟨0, none, 3600⟩).ingestResponse 1000 response).1 =
        some ⟨.single (RRset.ofRecord addressSignature), []⟩ ∧
      (addressAmong [addressSignature]).1.status = .successful ∧
      (addressAmong [addressSignature]).1.records = [] :=
  ⟨by decide +kernel, rfl, by decide +kernel, by decide +kernel, by decide +kernel⟩

end StubResolver
