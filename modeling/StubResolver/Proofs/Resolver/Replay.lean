/-
This file shows that a successful resolution can be replayed. Where all that the servers say comes
from one source, and the caches are empty at first, the cache that a successful resolution leaves
behind can answer the same question by itself, at the same time, with the same result.

While the first resolution is under way, the cache agrees with the source and denies nothing, and
the aliases crossed so far are a way through it. A response may bring in a denial, and it is then at
the end of the trail whose first alias the resolution goes on with. From there only the cache is
asked, and it leads to the denial; so that resolution is lost, and cannot become successful any
more. At the end of a successful one the way leads to the answer, and whoever asks again is led
along it.

The very last second that a clock can show is an exception. Nothing outlives it, so what is kept at
that second has expired at once.
-/

import StubResolver.Proofs.Cache.Ways
import StubResolver.Proofs.Resolver.Caches
import StubResolver.Proofs.Resolver.Counting

namespace StubResolver

open Cache

variable {zone : Zone} {now : Nat} {request : Request} {cache before after : Cache}
  {current : Name} {progress later : Progress}

/-! ### A resolution under way -/

/-- A resolution that has come to a name along a way through a cache that denies nothing. -/
structure Travels (zone : Zone) (now : Nat) (request : Request) (cache : Cache) (current : Name)
    (progress : Progress) : Prop where
  clean : Clean zone now cache
  absolute : current.absolute = true
  undecided : progress.verdict = none
  come : progress.HasComeTo current
  way : ∃ links, progress.aliases = links.map Link.crossed ∧
    cache.Way now request.type request.name links current

/-- A resolution that has come to a doomed name. -/
structure Lost (zone : Zone) (now : Nat) (request : Request) (cache : Cache) (current : Name)
    (progress : Progress) : Prop where
  consistent : ∃ deniable, Consistent zone now deniable cache
  absolute : current.absolute = true
  undecided : progress.verdict = none
  unasked : request.type ≠ .cname
  doomed : cache.Doomed now request.type current

/-- A resolution that goes on is on its way, or lost. -/
def Underway (zone : Zone) (now : Nat) (request : Request) (cache : Cache) (current : Name)
    (progress : Progress) : Prop :=
  Travels zone now request cache current progress ∨ Lost zone now request cache current progress

/-- A way to an answer that a resolution can go once more: it is not too long and passes no name
twice. -/
structure LeadsToAnswer (cache : Cache) (now : Nat) (request : Request) (links : List Link)
    (last : Name) (set : RRset) : Prop where
  way : cache.Way now request.type request.name links last
  few : links.length < maxAliases
  differ : Name.AllDiffer (links.map Link.crossed ++ [last])
  found : cache.HasSet now last request.type set

/-- A resolution that has found records has found one set at the end of a way that can be gone once
more. -/
def Arrived (zone : Zone) (now : Nat) (request : Request) (cache : Cache) (progress : Progress) :
    Prop :=
  progress.Succeeded → Clean zone now cache ∧ progress.verdict = some ⟨.successful, none⟩ ∧
    ∃ links last set, LeadsToAnswer cache now request links last set ∧
      progress.aliases = links.map Link.crossed ∧ progress.answers = [set]

theorem Arrived.of_undecided (undecided : progress.verdict = none) :
    Arrived zone now request cache progress :=
  fun succeeded => absurd succeeded (Progress.not_succeeded_of_undecided undecided)

/-- The name that a step goes on with. -/
def Progress.Step.next? : Progress.Step → Option Name
  | .follow next => some next
  | _ => none

/-- What is heard about a name leaves a resolution under way, or it has arrived if it has found
records. -/
def Continues (zone : Zone) (now : Nat) (request : Request) (cache : Cache) (progress : Progress) :
    Option Name → Prop
  | some next => Underway zone now request cache next progress
  | none => Arrived zone now request cache progress

/-! ### What is heard about a name -/

/-- Following an alias keeps a resolution under way if it is under way at the name that the alias
leads to. -/
theorem continues_followAlias {target : Name} (undecided : progress.verdict = none)
    (onward : ∀ later, later.verdict = none →
      progress.followAlias target current = (later, .follow target) →
      Underway zone now request cache target later) :
    Continues zone now request cache (progress.followAlias target current).1
      (progress.followAlias target current).2.next? := by
  cases followed : progress.followAlias target current with
  | mk later step =>
    cases step with
    | follow next =>
      obtain ⟨rfl, _, verdict⟩ := Progress.followAlias_follow followed
      exact onward later (verdict.trans undecided) followed
    | done => exact fun succeeded => absurd succeeded (Progress.followAlias_done followed)
    | query => exact absurd followed Progress.followAlias_not_query

/-- An outcome that leads nowhere ends a resolution. -/
theorem continues_nowhere (undecided : progress.verdict = none) {outcome : Outcome}
    (nowhere : outcome.LeadsNowhere) (chain : List Name) :
    Continues zone now request cache (progress.respond current outcome chain).1
      (progress.respond current outcome chain).2.next? := by
  obtain ⟨failed, notFollowed⟩ :=
    Progress.respond_leadsNowhere current undecided nowhere chain
  cases step : (progress.respond current outcome chain).2 with
  | follow next => exact absurd step (notFollowed next)
  | done => exact fun succeeded => absurd succeeded failed
  | query => exact fun succeeded => absurd succeeded failed

theorem respond_cname {set : RRset} {target : Name} (leads : set.aliasTarget? = some target)
    (chain : List Name) :
    progress.respond current (.cname set) chain = progress.followAlias target current := by
  unfold Progress.respond
  dsimp only
  rw [leads]

namespace Travels

/-- What has been learned about aliases leaves the way as it is. -/
theorem keep (travels : Travels zone now request before current progress)
    (clean : Clean zone now after)
    (keeps : request.type ≠ .cname → ∀ name set, before.HasSet now name .cname set →
      after.HasSet now name .cname set) : Travels zone now request after current progress := by
  obtain ⟨links, aliases, way⟩ := travels.way
  exact ⟨clean, travels.absolute, travels.undecided, travels.come, links, aliases, way.keep keeps⟩

/-- A resolution travels on over an alias that can be used. -/
theorem follow (travels : Travels zone now request cache current progress) {set : RRset}
    {target : Name} (known : cache.HasSet now current .cname set)
    (leads : set.aliasTarget? = some target) (unasked : request.type ≠ .cname)
    (undecided : later.verdict = none)
    (followed : progress.followAlias target current = (later, .follow target)) :
    Travels zone now request cache target later := by
  obtain ⟨links, aliases, way⟩ := travels.way
  obtain ⟨_, extended, _⟩ := Progress.followAlias_follow followed
  refine ⟨travels.clean, ?_, undecided, travels.come.followAlias followed,
    links ++ [⟨current, set⟩], ?_, way.snoc known leads unasked⟩
  · exact (zone.absolute (travels.clean.held known)).2 target leads
  · rw [extended, aliases, List.map_append]
    rfl

/-- Asking the network instead of going on changes nothing. -/
theorem query (travels : Travels zone now request cache current progress) {outcome : Outcome}
    {chain : List Name} (asked : progress.respond current outcome chain = (later, .query)) :
    Travels zone now request cache current later := by
  obtain ⟨aliases, verdict⟩ := Progress.respond_query_keeps asked
  obtain ⟨links, same, way⟩ := travels.way
  exact ⟨travels.clean, travels.absolute, verdict.trans travels.undecided,
    Progress.respond_query_hasComeTo travels.come asked, links, aliases.trans same, way⟩

/-- A resolution that finds a set at the end of its way, and of the way further on that is reported
with the set, has arrived. -/
theorem arrive (travels : Travels zone now request cache current progress) {links : List Link}
    {last : Name} {set : RRset} (further : cache.Way now request.type current links last)
    (found : cache.HasSet now last request.type set) :
    Arrived zone now request cache (progress.succeed [set] (links.map Link.crossed)) := by
  intro succeeded
  obtain ⟨passed, same, way⟩ := travels.way
  obtain ⟨few, differ, verdict⟩ := travels.come.succeed succeeded
  obtain ⟨aliases, answers⟩ := Progress.succeed_spec succeeded
  have whole := way.append further
  have crossed : progress.aliases ++ links.map Link.crossed =
      (passed ++ links).map Link.crossed := by
    rw [same, List.map_append]
  rw [crossed] at few differ aliases
  rw [List.length_map] at few
  refine ⟨travels.clean, verdict, passed ++ links, last, set, ⟨whole, few, ?_, found⟩, aliases,
    answers⟩
  refine Name.allDiffer_snoc.mpr ⟨differ, fun passedBefore => ?_⟩
  obtain ⟨name, member, isLast⟩ := List.any_eq_true.mp passedBefore
  obtain ⟨link, inside, rfl⟩ := List.mem_map.mp member
  exact whole.not_passed travels.clean found link inside (of_decide_eq_true isLast)

end Travels

/-! ### What the cache says -/

/-- What the cache says to a resolution on its way keeps it there, or lets it arrive. -/
theorem Travels.look (travels : Travels zone now request cache current progress)
    (single : request.type ≠ .any) :
    let looked := cache.lookup now current request.type .normal
    let heard := progress.respond current looked.1 []
    Continues zone now request looked.2 heard.1 heard.2.next? ∧
      (heard.2 = .query → Travels zone now request looked.2 current heard.1) := by
  obtain ⟨clean, same⟩ := travels.clean.lookup current request.type .normal
  have said := travels.clean.lookup_cases travels.absolute single
  generalize cache.lookup now current request.type .normal = looked at clean same said ⊢
  obtain ⟨outcome, after⟩ := looked
  dsimp only at clean same said ⊢
  have there : Travels zone now request after current progress :=
    travels.keep clean fun _ _ _ known => known.of_usable same
  refine ⟨?_, fun asked => there.query (Prod.ext rfl asked)⟩
  rcases said with ⟨entry, usable, rfl⟩ | ⟨unknown, ⟨set, known, rfl⟩ | ⟨_, nowhere⟩⟩
  · obtain ⟨set, isSet, _⟩ :=
      (travels.clean.agrees current request.type entry usable).resolve_right fun denied => denied.2
    have found : cache.HasSet now current request.type set :=
      Option.bind_eq_some_iff.mpr ⟨entry, usable, isSet⟩
    rw [isSet]
    exact there.arrive (Way.nil _ _ _ _) (found.of_usable same)
  · have unasked : request.type ≠ .cname := by
      intro asked
      rw [asked] at unknown
      obtain ⟨entry, usable, _⟩ := Option.bind_eq_some_iff.mp known
      cases unknown.symm.trans usable
    cases leads : set.aliasTarget? with
    | none =>
      unfold Progress.respond
      dsimp only
      rw [leads]
      exact Arrived.of_undecided travels.undecided
    | some target =>
      rw [respond_cname leads]
      exact continues_followAlias travels.undecided fun later undecided followed =>
        Or.inl (there.follow (known.of_usable same) leads unasked undecided followed)
  · exact continues_nowhere travels.undecided nowhere []

/-- What the cache says to a lost resolution leaves it lost, or ends it without records. The network
is not asked. -/
theorem Lost.look (lost : Lost zone now request cache current progress)
    (single : request.type ≠ .any) :
    let looked := cache.lookup now current request.type .normal
    let heard := progress.respond current looked.1 []
    Continues zone now request looked.2 heard.1 heard.2.next? ∧ heard.2 ≠ .query := by
  obtain ⟨deniable, consistent⟩ := lost.consistent
  obtain ⟨consistentThen, same⟩ := consistent.lookup current request.type .normal
  have said := lost.doomed.lookup consistent lost.absolute single lost.unasked
  generalize cache.lookup now current request.type .normal = looked at consistentThen same said ⊢
  obtain ⟨outcome, after⟩ := looked
  dsimp only at consistentThen same said ⊢
  rcases said with rfl | ⟨set, next, rfl, held, leads, doomed⟩
  · exact ⟨nofun, nofun⟩
  · rw [respond_cname leads]
    refine ⟨continues_followAlias lost.undecided fun later undecided _ => Or.inr ?_, fun asked =>
      Progress.followAlias_not_query (Prod.ext rfl asked)⟩
    exact ⟨⟨deniable, consistentThen⟩, (zone.absolute held).2 next leads, undecided, lost.unasked,
      doomed.of_usable same⟩

/-- What the cache says to a resolution keeps it under way, or lets it arrive if it ends with
records. Only one that is on its way goes on to ask the network. -/
theorem Underway.look (underway : Underway zone now request cache current progress)
    (single : request.type ≠ .any) :
    let looked := cache.lookup now current request.type .normal
    let heard := progress.respond current looked.1 []
    Continues zone now request looked.2 heard.1 heard.2.next? ∧
      (heard.2 = .query → Travels zone now request looked.2 current heard.1) := by
  rcases underway with travels | lost
  · exact travels.look single
  · obtain ⟨continues, notAsked⟩ := lost.look single
    exact ⟨continues, fun asked => absurd asked notAsked⟩

/-! ### What a response says -/

variable {message : Message} {echoed : Question}

/-- A response whose trail has no answer, but crosses an alias, keeps a resolution on its way or
loses it. It is lost if the cache has learned that there is nothing at the end of the trail. -/
theorem Travels.hear_alias (travels : Travels zone now request before current progress)
    {question : Question} {trail : Trail} (learns : Learns zone now (trail.Deniable question)
      before after) (sameType : question.type = request.type) {link : Link} {rest : List Link}
    (further : after.Way now request.type current (link :: rest) trail.current) :
    Continues zone now request after (progress.respond current (.cname link.set) []).1
      (progress.respond current (.cname link.set) []).2.next? := by
  have unasked := further.unasked nofun
  obtain ⟨starts, next, ⟨known, leads⟩, others⟩ := further.chain
  rw [respond_cname leads]
  refine continues_followAlias travels.undecided fun later undecided followed => ?_
  rcases learns.consistent.clean_or_doomed with clean | doomed
  · have there : Travels zone now request after current progress := by
      refine travels.keep clean fun _ name set known => learns.has travels.clean ?_ known
      exact fun deniable => unasked (deniable.2.2.trans sameType).symm
    exact Or.inl (there.follow (known.congr (Setoid.symm starts)) leads unasked undecided followed)
  · rw [sameType] at doomed
    have absolute := (zone.absolute (learns.consistent.held known)).2 next leads
    exact Or.inr ⟨⟨_, learns.consistent⟩, absolute, undecided, unasked, doomed.of_chain others⟩

/-- A response of the source keeps a resolution on its way, lets it arrive or loses it, or ends it
without records. -/
theorem Travels.hear (travels : Travels zone now request before current progress)
    (single : request.type ≠ .any) (inTime : now < lastSecond) (served : zone.Serves message)
    (echoes : message.question = some echoed)
    (same : echoed ≈ ⟨current, request.type, request.recordClass⟩)
    (useful : message.result.isCacheable = true) :
    ∃ ingested, (before.ingestResponse now message).1 = some ingested ∧
      Continues zone now request (before.ingestResponse now message).2
        (progress.respond current ingested.outcome ingested.aliases).1
        (progress.respond current ingested.outcome ingested.aliases).2.next? := by
  obtain ⟨sameName, sameType, _⟩ := Question.equiv_iff.mp same
  have echoAbsolute : echoed.name.absolute = true :=
    (Name.absolute_of_equiv sameName).trans travels.absolute
  obtain ⟨reported, learns, _⟩ := travels.clean.ingest served inTime echoes useful
  obtain ⟨links, stuck, walks⟩ :=
    trailOf_walks echoed (setsInClass message .answer echoed.recordClass)
  have laid := travels.clean.ingest_way served inTime echoes useful walks
  rw [Name.toAbsolute_of_absolute _ echoAbsolute, sameType] at laid
  have further := laid.congr_start (Setoid.symm sameName)
  refine ⟨(digestFor message echoed).ingested, reported, ?_⟩
  by_cases unanswered : (trailThrough message echoed).finals = []
  · obtain ⟨otherwise, nowhere, ingested⟩ := digestFor_ingested_of_open message echoed unanswered
    rw [ingested]
    rcases firstAliasOr_cases (fun set present => (served.inClass (Or.inl rfl) present).1) walks
      otherwise with nothing | ⟨set, told, leadsNowhere | ⟨link, rest, rfl, rfl⟩⟩
    · rw [nothing]
      exact continues_nowhere travels.undecided nowhere []
    · rw [told]
      unfold Progress.respond
      dsimp only
      rw [leadsNowhere]
      exact Arrived.of_undecided travels.undecided
    · rw [told]
      exact travels.hear_alias learns sameType further
  · obtain ⟨clean, set, finals, found⟩ := travels.clean.ingest_answered served inTime echoes useful
      (sameType ▸ single) unanswered
    rw [sameType] at found
    rw [digestFor_ingested_of_finals message echoed unanswered, finals, walks.aliases]
    have there : Travels zone now request (before.ingestResponse now message).2 current progress :=
      travels.keep clean fun _ name set known => learns.has travels.clean
        (fun deniable => unanswered deniable.1) known
    exact there.arrive further found

/-! ### Rounds -/

variable {Network : Type} {send : Sender Network} {registry : Registry} {network : Network}

/-- A sender whose responses bring only sets of a source. -/
def Sender.SpeaksFor (send : Sender Network) (zone : Zone) : Prop :=
  ∀ network query response, (send network query).1 = .ok response → zone.Serves response

/-- What a round leaves a resolution with. -/
def Progress.Round.Continues (round : Progress.Round (Registry × Network)) (zone : Zone) (now : Nat)
    (request : Request) : Prop :=
  StubResolver.Continues zone now request (round.world.1.cacheOf request.recordClass) round.progress
    round.next

/-- A round in the network keeps a resolution on its way, lets it arrive or loses it, or ends it
without records. -/
theorem Travels.networkRound
    (travels : Travels zone now request (registry.cacheOf request.recordClass) current progress)
    (single : request.type ≠ .any) (inTime : now < lastSecond) (honest : send.SpeaksFor zone) :
    (Progress.networkRound (Registry.services request.recordClass now send) request current progress
      (registry, network)).Continues zone now request := by
  let question : Question := ⟨current, request.type, request.recordClass⟩
  have served := honest network (Message.query question)
  unfold Progress.networkRound Services.ask
  have sends : (Registry.services request.recordClass now send).send (registry, network)
      (Message.query question) = ((send network (Message.query question)).1, registry,
        (send network (Message.query question)).2) := rfl
  dsimp only
  rw [sends]
  generalize send network (Message.query question) = sent at served
  obtain ⟨response, left⟩ := sent
  have unheard (failure : Failure) : (⟨progress.noteFailure failure, none, registry, left⟩ :
      Progress.Round (Registry × Network)).Continues zone now request :=
    Arrived.of_undecided ((Progress.noteFailure_verdict _ _).trans travels.undecided)
  cases response with
  | error error => exact unheard _
  | ok response =>
    dsimp only
    cases useful : Failure.ofResponse? question response with
    | some failure => exact unheard failure
    | none =>
      obtain ⟨echoed, echoes, same⟩ := Failure.ofResponse?_eq_none useful
      obtain ⟨ingested, reported, continues⟩ := travels.hear single inTime (served response rfl)
        echoes same (Failure.isCacheable_of_useful useful)
      obtain ⟨learned, found, learns⟩ := Registry.services_ingest now send left
        travels.clean.reachable.tidy response
      dsimp only
      unfold Services.learn
      rw [learns, reported]
      dsimp only
      rw [← found] at continues
      generalize progress.respond current ingested.outcome ingested.aliases = heard at continues
      obtain ⟨later, step⟩ := heard
      cases step <;> exact continues

/-- A round keeps a resolution under way, or lets it arrive if it ends with records. -/
theorem Underway.round (network : Network)
    (underway : Underway zone now request (registry.cacheOf request.recordClass) current progress)
    (single : request.type ≠ .any) (usual : request.options.credibility = .normal)
    (inTime : now < lastSecond) (honest : send.SpeaksFor zone) :
    (Progress.round (Registry.services request.recordClass now send) request current progress
      (registry, network)).Continues zone now request := by
  have tidy : (registry.cacheOf request.recordClass).shelf.Tidy := by
    rcases underway with travels | lost
    · exact travels.clean.reachable.tidy
    · obtain ⟨_, consistent⟩ := lost.consistent
      exact consistent.reachable.tidy
  obtain ⟨left, found, looks⟩ := Registry.services_lookup now send network tidy current
    request.type .normal
  obtain ⟨continues, travels⟩ := underway.look single
  rw [← found] at continues travels
  unfold Progress.round
  rw [usual, looks]
  dsimp only
  generalize progress.respond current _ [] = heard at continues travels
  obtain ⟨later, step⟩ := heard
  cases step with
  | done => exact continues
  | follow next => exact continues
  | query => exact (travels rfl).networkRound single inTime honest

/-- Whatever a resolution under way finds, it has arrived there. -/
theorem Underway.attempt (network : Network)
    (underway : Underway zone now request (registry.cacheOf request.recordClass) current progress)
    (single : request.type ≠ .any) (usual : request.options.credibility = .normal)
    (inTime : now < lastSecond) (honest : send.SpeaksFor zone) :
    let (later, left) := Progress.attempt (Registry.services request.recordClass now send) request
      current progress (registry, network)
    Arrived zone now request (left.1.cacheOf request.recordClass) later := by
  refine Progress.attempt_induction _ request
    (fun current progress world =>
      Underway zone now request (world.1.cacheOf request.recordClass) current progress)
    (fun later left => Arrived zone now request (left.1.cacheOf request.recordClass) later)
    (fun current progress world next underway another => ?_)
    (fun current progress world underway last => ?_) current progress (registry, network) underway
  · have continues := Underway.round world.2 underway single usual inTime honest
    unfold Progress.Round.Continues at continues
    rw [another] at continues
    exact continues
  · have continues := Underway.round world.2 underway single usual inTime honest
    unfold Progress.Round.Continues at continues
    rw [last] at continues
    exact continues

/-! ### Asking again -/

/-- A resolution that asks again is led along the way to the answer by the cache alone. -/
theorem attempt_retraces (send : Sender Network) (network : Network) (progress : Progress)
    {links : List Link} {last : Name} {set : RRset}
    (clean : Clean zone now (registry.cacheOf request.recordClass))
    (absolute : current.absolute = true) (single : request.type ≠ .any)
    (usual : request.options.credibility = .normal)
    (way : (registry.cacheOf request.recordClass).Way now request.type current links last)
    (found : (registry.cacheOf request.recordClass).HasSet now last request.type set)
    (counted : progress.aliasCount = progress.aliases.length)
    (few : progress.aliases.length + links.length < maxAliases)
    (differ : Name.AllDiffer (progress.aliases ++ links.map Link.crossed ++ [last])) :
    let (later, left) := Progress.attempt (Registry.services request.recordClass now send) request
      current progress (registry, network)
    later.verdict = some ⟨.successful, none⟩ ∧ later.answers = [set] ∧
      later.aliases.map Name.lowered =
        (progress.aliases ++ links.map Link.crossed).map Name.lowered ∧
      left.2 = network := by
  induction links generalizing registry current progress with
  | nil =>
    obtain ⟨left, _, looks⟩ := Registry.services_lookup now send network
      clean.reachable.tidy current request.type .normal
    rw [clean.lookup_found absolute single (found.congr (Setoid.symm way.chain)), ← usual] at looks
    have ends := Progress.round_of_done _ request progress looks rfl
    rw [Progress.attempt_of_last _ request (congrArg Progress.Round.next ends), ends]
    refine ⟨rfl, rfl, ?_, rfl⟩
    rw [List.map_nil, List.append_nil]
    rfl
  | cons link rest inductionHypothesis =>
    have unasked := way.unasked nofun
    obtain ⟨starts, next, ⟨known, leads⟩, others⟩ := way.chain
    have isCrossed : current.lowered = link.crossed.lowered := starts
    obtain ⟨left, foundLeft, looks⟩ := Registry.services_lookup now send network
      clean.reachable.tidy current request.type .normal
    have outcome := (clean.lookup_alias absolute single unasked
      (known.congr (Setoid.symm starts))).resolve_right fun denied => denied.2
    rw [outcome, ← usual] at looks
    obtain ⟨cleanLeft, same⟩ := clean.lookup current request.type .normal
    rw [← foundLeft] at cleanLeft same
    obtain ⟨remaining, onward⟩ := differ.step starts others
    rw [List.length_cons] at few
    obtain ⟨later, followed, aliases, counts, _⟩ :=
      Progress.followAlias_of_differ counted (by omega) onward
    have goesOn := Progress.round_of_follow _ request looks
      ((respond_cname leads []).trans followed)
    rw [Progress.attempt_of_next _ request (congrArg Progress.Round.next goesOn), goesOn]
    have retraced := inductionHypothesis later
      cleanLeft ((zone.absolute (clean.held known)).2 next leads)
      (Way.keep ⟨others, fun _ => unasked⟩ fun _ _ _ known => known.of_usable same)
      (found.of_usable same) counts
      (by rw [aliases, List.length_append, List.length_singleton]; omega)
      (by rw [aliases]; exact remaining)
    refine ⟨retraced.1, retraced.2.1, retraced.2.2.1.trans ?_, retraced.2.2.2⟩
    rw [aliases]
    simp [isCrossed]

/-- Resolutions with the same result. Aliases are the same in whatever case. -/
structure Resolution.SameAs (first second : Resolution) : Prop where
  status : first.status = second.status
  reason : first.reason = second.reason
  answers : first.answers = second.answers
  aliases : first.aliases.map Name.lowered = second.aliases.map Name.lowered

theorem Progress.conclude_of_successful (verdict : progress.verdict = some ⟨.successful, none⟩) :
    progress.conclude =
      ⟨.successful, Status.successful.text, progress.answers, progress.aliases⟩ := by
  unfold conclude weigh
  rw [verdict]
  rfl

theorem Request.resolve_of_absolute {World : Type} (services : Services World)
    (absolute : request.name.absolute = true) (world : World) :
    request.resolve services world =
      ((Progress.attempt services request request.name .start world).1.conclude,
        (Progress.attempt services request request.name .start world).2) := by
  unfold resolve Progress.search
  rw [if_pos absolute]

/-- A successful resolution of an absolute name, with servers whose words come from one source and a
cache that was empty before, can be replayed at the same second, unless it is the last one. Whoever
asks again gets the same result and sends no query. -/
theorem Request.resolve_replays (zone : Zone) (request : Request) (now : Nat) (registry : Registry)
    {Network Other : Type} (send : Sender Network) (network : Network) (other : Sender Other)
    (idle : Other) (absolute : request.name.absolute = true)
    (ordinary : request.type.isMeta = false) (usual : request.options.credibility = .normal)
    (inTime : now < lastSecond) (fresh : (registry.cacheOf request.recordClass).Fresh)
    (honest : send.SpeaksFor zone)
    (successful : (request.resolve (Registry.services request.recordClass now send)
      (registry, network)).1.status = .successful) :
    let (first, left) := request.resolve (Registry.services request.recordClass now send)
      (registry, network)
    let (second, leftAgain) := request.resolve (Registry.services request.recordClass now other)
      (left.1, idle)
    second.SameAs first ∧ leftAgain.2 = idle := by
  have single : request.type ≠ .any := by
    intro isAny
    rw [isAny] at ordinary
    cases ordinary
  have underway : Underway zone now request (registry.cacheOf request.recordClass) request.name
      .start :=
    Or.inl ⟨fresh.clean zone now, absolute, rfl, Progress.start_hasComeTo _, [], rfl, .nil _ _ _ _⟩
  have arrived := underway.attempt network single usual inTime honest
  rw [resolve_of_absolute _ absolute] at successful ⊢
  dsimp only
  rw [resolve_of_absolute _ absolute]
  generalize Progress.attempt (Registry.services request.recordClass now send) request request.name
    .start (registry, network) = first at arrived successful
  obtain ⟨later, left, _⟩ := first
  obtain ⟨clean, verdict, links, last, set, leads, aliases, answers⟩ :=
    arrived (Progress.conclude_successful successful).1
  have retraced := attempt_retraces other idle .start clean
    absolute single usual leads.way leads.found rfl
    (Nat.lt_of_le_of_lt (Nat.le_of_eq (Nat.zero_add _)) leads.few) leads.differ
  dsimp only
  generalize Progress.attempt (Registry.services request.recordClass now other) request request.name
    .start (left, idle) = second at retraced
  obtain ⟨verdictAgain, answersAgain, aliasesAgain, notSent⟩ := retraced
  rw [Progress.conclude_of_successful verdict, Progress.conclude_of_successful verdictAgain]
  refine ⟨⟨rfl, rfl, answersAgain.trans answers.symm, ?_⟩, notSent⟩
  rw [aliasesAgain, aliases]
  rfl

/-! ### A zone with an alias -/

/-- Taking down exchanges does not change what is said in them. -/
theorem Sender.SpeaksFor.recorded (honest : send.SpeaksFor zone) :
    send.recorded.SpeaksFor zone := by
  rintro ⟨network, log⟩ query response said
  unfold Sender.recorded at said
  dsimp only at said
  split at said
  · rename_i heard left sent
    cases said
    exact honest network query response (by rw [sent])
  · cases said

theorem answering_speaksFor {records : List Record}
    (held : ∀ set ∈ Message.groupRecords records, zone.Holds set) :
    (answering records).SpeaksFor zone := by
  intro network query response said part matters set member
  cases said
  rcases matters with rfl | rfl
  · exact held set member
  · cases member

/-- The alias of `w.` and the address of `g.`, and nothing else. -/
def zoneWithAlias : Zone :=
  .ofSets (Message.groupRecords throughAlias) (by decide +kernel) (by decide +kernel)
    (by decide +kernel) (by decide +kernel)

/-- Caches in which there is room for all names. -/
def roomyRegistry : Registry := .new { CacheConfig.default with maxEntries := 0 }

/-- The address of `g.` is found for `w.` a second time without another query. -/
theorem resolve_replays_throughAlias :
    let services := Registry.services .inet 0 (answering throughAlias).recorded
    let (first, left) := addressRequest.resolve services (roomyRegistry, (), [])
    let (second, leftAgain) := addressRequest.resolve services left
    first.aliases = [addressRequest.name] ∧ second.SameAs first ∧ leftAgain.2 = left.2 :=
  ⟨by decide +kernel, Request.resolve_replays zoneWithAlias addressRequest 0 roomyRegistry _ _ _ _
    rfl rfl rfl (by decide) (Registry.cacheOf_new_fresh rfl (by decide) .inet)
    (answering_speaksFor (by decide +kernel)).recorded (by decide +kernel)⟩

/-- The address of `w.`, and nothing else. -/
def zoneWithAddress : Zone :=
  .ofSets [.ofRecord (.address 1 300)] (by decide +kernel) (by decide +kernel) (by decide +kernel)
    (by decide +kernel)

/-- At the last second that a clock can show, the address of `w.` is asked for a second time. -/
theorem resolve_not_replayed_at_end :
    let send := (answering [Record.address 1 300]).recorded
    let services := Registry.services .inet lastSecond send
    let (first, left) := addressRequest.resolve services (roomyRegistry, (), [])
    let (_, leftAgain) := addressRequest.resolve services left
    addressRequest.name.absolute = true ∧ addressRequest.type.isMeta = false ∧
      addressRequest.options.credibility = .normal ∧ (roomyRegistry.cacheOf .inet).Fresh ∧
      send.SpeaksFor zoneWithAddress ∧ first.status = .successful ∧ left.2.2.length = 1 ∧
      leftAgain.2.2.length = 2 :=
  ⟨rfl, rfl, rfl, Registry.cacheOf_new_fresh rfl (by decide) .inet,
    (answering_speaksFor (by decide +kernel)).recorded, by decide +kernel, by decide +kernel,
    by decide +kernel⟩

end StubResolver
