/-
This file bounds the work of a resolution, whatever the cache and the sender do. What can still be
followed is a credit that all attempts share: an attempt owes one query to the name it starts from,
and every further query is paid for by an alias that was counted. So it does not matter which
attempt follows the aliases, nor whether they come from the cache, from the first alias of a
response or from a chain that a response crosses. Within an attempt no name comes twice, since an
alias is not followed back to a name already passed.

To speak of queries, the services are made to note what is sent. Noting changes nothing, and the
queries can be itemized by attempts.
-/

import StubResolver.Proofs.Resolver.Counting

namespace StubResolver

variable {World : Type}

/-! ### Noting queries -/

/-- The services, noting the queries that are sent. -/
def Services.noted (services : Services World) : Services (World × List Message) where
  lookup := fun (world, sent) name type credibility =>
    let (outcome, looked) := services.lookup world name type credibility
    (outcome, looked, sent)
  ingest := fun (world, sent) response =>
    let (ingested, learned) := services.ingest world response
    (ingested, learned, sent)
  send := fun (world, sent) query =>
    let (reply, left) := services.send world query
    (reply, left, sent ++ [query])

/-- The query that a request sends about a name. -/
def Request.query (request : Request) (name : Name) : Message :=
  Message.query ⟨name, request.type, request.recordClass⟩

/-- How many attempts a request asks for at most: one if the name is absolute, otherwise one for the
root and one for each suffix. So it is one, too, where there is no search path. -/
def Request.attemptsAllowed (request : Request) : Nat :=
  if request.name.absolute then 1 else request.options.searchPath.length + 1

theorem Services.noted_learn (services : Services World) (world : World) (sent : List Message)
    (question : Question) (credibility : Credibility) (response : Message) :
    services.noted.learn (world, sent) question credibility response =
      ((services.learn world question credibility response).1,
        (services.learn world question credibility response).2, sent) := by
  unfold learn
  rcases said : services.ingest world response with ⟨_ | ingested, learned⟩
  all_goals
    have noting : services.noted.ingest (world, sent) response = (_, learned, sent) :=
      congrArg (fun said => (said.1, said.2, sent)) said
    rw [noting]
  -- where the response was of no use to it, the cache is asked instead
  rfl

/-- Whoever asks the network sends one query. -/
theorem Services.noted_ask (services : Services World) (world : World) (sent : List Message)
    (question : Question) (credibility : Credibility) :
    services.noted.ask (world, sent) question credibility =
      ((services.ask world question credibility).1, (services.ask world question credibility).2,
        sent ++ [Message.query question]) := by
  unfold ask
  rcases said : services.send world (Message.query question) with ⟨error | response, left⟩
  all_goals
    have noting : services.noted.send (world, sent) (Message.query question) =
        (_, left, sent ++ [Message.query question]) :=
      congrArg (fun said => (said.1, said.2, sent ++ [Message.query question])) said
    rw [noting]
  · cases useless : Failure.ofResponse? question response with
    | some failure =>
      simp only [useless]
    | none =>
      simp only [useless, noted_learn]

namespace Progress

/-! ### What is counted -/

/-- How many aliases may still be followed. -/
def credit (progress : Progress) : Nat := maxAliases - 1 - progress.aliasCount

/-- The aliases that were crossed have been counted, and are not too many. -/
structure FewAliases (progress : Progress) : Prop where
  counted : progress.aliases.length ≤ progress.aliasCount
  few : progress.aliases.length < maxAliases

theorem start_fewAliases : start.FewAliases := ⟨Nat.le_refl _, by decide⟩

/-- A resolution that has got on has forgotten no alias that it counted, and has not crossed too
many. -/
structure GotOn (before later : Progress) : Prop where
  counts : before.aliasCount ≤ later.aliasCount
  few : before.FewAliases → later.FewAliases

namespace GotOn

variable {before middle later : Progress}

theorem refl (progress : Progress) : progress.GotOn progress := ⟨Nat.le_refl _, id⟩

theorem trans (first : before.GotOn middle) (second : middle.GotOn later) : before.GotOn later :=
  ⟨Nat.le_trans first.counts second.counts, second.few ∘ first.few⟩

/-- Nothing happens to the aliases where nothing else is changed. -/
theorem of_same (count : later.aliasCount = before.aliasCount)
    (aliases : later.aliases = before.aliases) : before.GotOn later := by
  refine ⟨Nat.le_of_eq count.symm, fun few => ⟨?_, ?_⟩⟩
  · rw [count, aliases]
    exact few.counted
  · rw [aliases]
    exact few.few

/-- One more alias is counted, and crossed only if there are not too many. -/
theorem of_counted (count : later.aliasCount = before.aliasCount + 1)
    (aliases : later.aliases = before.aliases ∨
      later.aliasCount < maxAliases ∧ later.aliases.length = before.aliases.length + 1) :
    before.GotOn later := by
  refine ⟨by omega, fun few => ?_⟩
  have counted := few.counted
  rcases aliases with same | ⟨enough, more⟩
  · exact ⟨by rw [same]; omega, by rw [same]; exact few.few⟩
  · exact ⟨by omega, by omega⟩

theorem credit_le (gotOn : before.GotOn later) : later.credit ≤ before.credit := by
  have counts := gotOn.counts
  unfold credit
  omega

end GotOn

theorem followAlias_gotOn (progress : Progress) (target old : Name) :
    progress.GotOn (progress.followAlias target old).1 := by
  unfold followAlias
  dsimp only
  split
  · exact .of_counted rfl (.inl rfl)
  · rename_i goesOn
    exact .of_counted rfl (.inr ⟨Nat.not_le.mp (not_or.mp goesOn).1, List.length_append⟩)

theorem recordChain_gotOn (progress : Progress) (chain : List Name) :
    progress.GotOn (progress.recordChain chain).1 := by
  induction chain generalizing progress with
  | nil => exact .refl progress
  | cons name rest inductionHypothesis =>
    unfold recordChain
    dsimp only
    split
    · exact .of_counted rfl (.inl rfl)
    · rename_i goesOn
      exact (GotOn.of_counted rfl
        (.inr ⟨Nat.not_le.mp (not_or.mp goesOn).1, List.length_append⟩)).trans
          (inductionHypothesis _)

theorem succeed_gotOn (progress : Progress) (answers : List RRset) (chain : List Name) :
    progress.GotOn (progress.succeed answers chain) := by
  have recorded := recordChain_gotOn progress chain
  unfold succeed
  split <;> rename_i equal <;> rw [equal] at recorded
  · exact recorded.trans (.of_same rfl rfl)
  · exact recorded

/-- Whatever the outcome, a resolution gets on with it. -/
theorem respond_gotOn (progress : Progress) (current : Name) (outcome : Outcome)
    (chain : List Name) : progress.GotOn (progress.respond current outcome chain).1 := by
  unfold respond
  cases outcome with
  | successful answers => exact succeed_gotOn progress answers chain
  | nxDomain =>
    dsimp only [missName]
    split <;> exact .of_same rfl rfl
  | nxRRset => exact .of_same rfl rfl
  | cname set =>
    dsimp only
    split
    · exact followAlias_gotOn _ _ _
    · exact .refl progress
  | dname set =>
    dsimp only [followRedirection]
    split
    · split
      · exact followAlias_gotOn _ _ _
      · exact .of_same rfl rfl
    · exact .refl progress
  | delegation servers => exact .of_same rfl rfl
  | unknown => exact .refl progress

theorem noteFailure_gotOn (progress : Progress) (failure : Failure) :
    progress.GotOn (progress.noteFailure failure) := by
  cases failure <;> exact .of_same rfl rfl

variable (services : Services World) (request : Request)

theorem networkRound_gotOn (current : Name) (progress : Progress) (world : World) :
    progress.GotOn (networkRound services request current progress world).progress := by
  unfold networkRound
  dsimp only
  split
  · exact noteFailure_gotOn _ _
  · rename_i ingested asked _
    have heard := respond_gotOn progress current ingested.outcome ingested.aliases
    split <;> rename_i equal <;> rw [equal] at heard <;> exact heard

theorem round_gotOn (current : Name) (progress : Progress) (world : World) :
    progress.GotOn (round services request current progress world).progress := by
  have heard := respond_gotOn progress current
    (services.lookup world current request.type request.options.credibility).1 []
  unfold round
  dsimp only
  split <;> rename_i equal <;> rw [equal] at heard
  · exact heard
  · exact heard
  · exact heard.trans (networkRound_gotOn services request current _ _)

/-- An attempt gets on, whatever it meets. -/
theorem attempt_gotOn (current : Name) (progress : Progress) (world : World) :
    progress.GotOn (attempt services request current progress world).1 :=
  attempt_induction services request (fun _ later _ => progress.GotOn later)
    (fun later _ => progress.GotOn later)
    (fun current later world _ gotOn _ =>
      gotOn.trans (round_gotOn services request current later world))
    (fun current later world gotOn _ =>
      gotOn.trans (round_gotOn services request current later world))
    current progress world (.refl progress)

/-- A round that is not the last one is paid for. -/
theorem round_pays {current next : Name} {progress : Progress} {world : World}
    (goesOn : (round services request current progress world).next = some next) :
    (round services request current progress world).progress.credit + 1 = progress.credit := by
  obtain ⟨counted, few⟩ := round_counts services request current next progress world goesOn
  unfold credit
  omega

/-! ### The rounds come to an end -/

/-- The round that comes some rounds after another, unless one of them is the last. -/
def roundAfter : Nat → Round World → Round World
  | 0, heard => heard
  | rounds + 1, heard =>
    match heard.next with
    | none => heard
    | some next => roundAfter rounds (round services request next heard.progress heard.world)

/-- As many rounds as there is credit are enough for an attempt to come to its last one. -/
theorem attempt_eq_roundAfter (current : Name) (progress : Progress) (world : World)
    (rounds : Nat) (enough : progress.credit ≤ rounds) :
    (roundAfter services request rounds
        (round services request current progress world)).next = none ∧
      attempt services request current progress world =
        ((roundAfter services request rounds
            (round services request current progress world)).progress,
          (roundAfter services request rounds
            (round services request current progress world)).world) := by
  induction current, progress, world using attempt.induct services request
    generalizing rounds with
  | case1 current progress world heard last =>
    have stays : roundAfter services request rounds
        (round services request current progress world) =
          round services request current progress world := by
      cases rounds with
      | zero => rfl
      | succ rounds =>
        unfold roundAfter
        rw [last]
    rw [stays]
    exact ⟨last, attempt_of_last services request last⟩
  | case2 current progress world heard next another inductionHypothesis =>
    have paid := round_pays services request another
    cases rounds with
    | zero => omega
    | succ rounds =>
      unfold roundAfter
      rw [another, attempt_of_next services request another]
      rw [← paid] at enough
      exact inductionHypothesis rounds (Nat.le_of_succ_le_succ enough)

/-! ### What a round and an attempt send -/

/-- A round sends a query about the name that it is about, or none. -/
theorem round_noted (current : Name) (progress : Progress) (world : World) :
    ∃ names, (names = [] ∨ names = [current]) ∧ ∀ sent,
      round services.noted request current progress (world, sent) =
        ⟨(round services request current progress world).progress,
          (round services request current progress world).next,
          (round services request current progress world).world,
          sent ++ names.map request.query⟩ := by
  unfold round
  rcases answered : services.lookup world current request.type request.options.credibility with
    ⟨outcome, looked⟩
  have noting (sent : List Message) : services.noted.lookup (world, sent) current request.type
      request.options.credibility = (outcome, looked, sent) :=
    congrArg (fun answered => (answered.1, answered.2, sent)) answered
  simp only [noting]
  rcases responded : progress.respond current outcome [] with ⟨later, step⟩
  cases step with
  | done => exact ⟨[], Or.inl rfl, fun sent => by rw [List.map_nil, List.append_nil]⟩
  | follow next => exact ⟨[], Or.inl rfl, fun sent => by rw [List.map_nil, List.append_nil]⟩
  | query =>
    refine ⟨[current], Or.inr rfl, fun sent => ?_⟩
    unfold networkRound
    simp only [Services.noted_ask]
    rcases services.ask looked ⟨current, request.type, request.recordClass⟩
      request.options.credibility with ⟨failure | ingested, asked⟩
    · rfl
    · dsimp only
      rcases later.respond current ingested.outcome ingested.aliases with ⟨final, step⟩
      cases step <;> rfl

/-! ### What leads from one name to the next -/

variable {services request}

/-- Whatever outcome it is that is followed, it is followed as an alias. -/
theorem respond_followed {progress later : Progress} {current next : Name} {outcome : Outcome}
    {chain : List Name}
    (followed : progress.respond current outcome chain = (later, .follow next)) :
    progress.followAlias next current = (later, .follow next) := by
  have throughAlias (target : Name)
      (followed : progress.followAlias target current = (later, .follow next)) :
      progress.followAlias next current = (later, .follow next) := by
    rw [(followAlias_follow followed).1]
    exact (followAlias_follow followed).1 ▸ followed
  unfold respond at followed
  cases outcome with
  | cname set =>
    dsimp only at followed
    split at followed
    · exact throughAlias _ followed
    · cases followed
  | dname set =>
    dsimp only [followRedirection] at followed
    split at followed
    · split at followed
      · exact throughAlias _ followed
      · cases followed
    · cases followed
  | _ => cases followed

theorem networkRound_followed {current next : Name} {progress : Progress} {world : World}
    (goesOn : (networkRound services request current progress world).next = some next) :
    progress.followAlias next current =
      ((networkRound services request current progress world).progress, .follow next) := by
  unfold networkRound at goesOn ⊢
  dsimp only at goesOn ⊢
  split at goesOn
  · cases goesOn
  · split at goesOn
    · rename_i followed
      cases goesOn
      exact respond_followed followed
    · cases goesOn

/-- A round that is not the last one has followed an alias, whether it came from the cache or from
the network. Until then, nothing has happened to what was crossed, counted and decided. -/
theorem round_followed {current next : Name} {progress : Progress} {world : World}
    (goesOn : (round services request current progress world).next = some next) :
    ∃ before : Progress, before.aliases = progress.aliases ∧
      before.aliasCount = progress.aliasCount ∧ before.verdict = progress.verdict ∧
      before.followAlias next current =
        ((round services request current progress world).progress, .follow next) := by
  unfold round at goesOn ⊢
  dsimp only at goesOn ⊢
  split at goesOn
  · rename_i followed
    cases goesOn
    exact ⟨progress, rfl, rfl, rfl, respond_followed followed⟩
  · cases goesOn
  · rename_i later asked
    obtain ⟨aliases, verdict⟩ := respond_query_keeps asked
    exact ⟨later, aliases, respond_query _ _ _ _ _ asked, verdict, networkRound_followed goesOn⟩

/-- The names that an attempt has come through are remembered, and they and the one it has come to
all differ. The resolution may remember further aliases, from attempts before. -/
structure Passes (passed : List Name) (current : Name) (progress : Progress) : Prop where
  remembered : ∀ name ∈ passed, name ∈ progress.aliases
  differ : Name.AllDiffer (passed ++ [current])

theorem Passes.first (current : Name) (progress : Progress) : Passes [] current progress :=
  ⟨fun _ member => absurd member List.not_mem_nil, List.pairwise_singleton _ _⟩

/-- An alias is not followed back to a name already passed. -/
theorem Passes.followAlias {passed : List Name} {current next : Name} {progress later : Progress}
    (passes : Passes passed current progress)
    (followed : progress.followAlias next current = (later, .follow next)) :
    Passes (passed ++ [current]) next later := by
  obtain ⟨_, aliases, _⟩ := followAlias_follow followed
  unfold Progress.followAlias at followed
  dsimp only at followed
  split at followed
  · cases followed
  · rename_i goesOn
    have remembered : ∀ name ∈ passed ++ [current], name ∈ progress.aliases ++ [current] := by
      intro name member
      rcases List.mem_append.mp member with before | last
      · exact List.mem_append_left _ (passes.remembered name before)
      · exact List.mem_append_right _ last
    constructor
    · rw [aliases]
      exact remembered
    · refine Name.allDiffer_snoc.mpr ⟨passes.differ, fun back => (not_or.mp goesOn).2 ?_⟩
      obtain ⟨name, member, same⟩ := List.any_eq_true.mp back
      exact passed_iff.mpr (List.any_eq_true.mpr ⟨name, remembered name member, same⟩)

theorem Passes.round {passed : List Name} {current next : Name} {progress : Progress}
    {world : World} (passes : Passes passed current progress)
    (goesOn : (round services request current progress world).next = some next) :
    Passes (passed ++ [current]) next (round services request current progress world).progress := by
  obtain ⟨before, same, _, _, followed⟩ := round_followed goesOn
  refine Passes.followAlias ⟨?_, passes.differ⟩ followed
  rw [same]
  exact passes.remembered

/-! ### What an attempt sends -/

/-- The names that an attempt asks about after some others: they all differ, and all but one are
paid for. -/
structure Asks (passed names : List Name) (before later : Progress) : Prop where
  differ : Name.AllDiffer (passed ++ names)
  paid : names.length + later.credit ≤ before.credit + 1

/-- The last round asks about the name it has come to, or not at all. -/
theorem Asks.last {passed names : List Name} {current : Name} {before later : Progress}
    (passes : Passes passed current before) (gotOn : before.GotOn later)
    (asked : names = [] ∨ names = [current]) : Asks passed names before later := by
  have credit := gotOn.credit_le
  rcases asked with rfl | rfl
  · refine ⟨?_, ?_⟩
    · rw [List.append_nil]
      exact passes.differ.of_append _
    · rw [List.length_nil]
      omega
  · refine ⟨passes.differ, ?_⟩
    rw [List.length_singleton]
    omega

/-- What is asked about in a round comes before what is asked about afterwards. -/
theorem Asks.cons {passed names others : List Name} {current : Name}
    {before middle later : Progress} (asked : names = [] ∨ names = [current])
    (pays : middle.credit + 1 = before.credit)
    (rest : Asks (passed ++ [current]) others middle later) :
    Asks passed (names ++ others) before later := by
  have paid := rest.paid
  have differ := rest.differ
  rw [List.append_assoc] at differ
  rcases asked with rfl | rfl
  · refine ⟨?_, ?_⟩
    · unfold Name.AllDiffer at differ ⊢
      refine differ.sublist (List.Sublist.map _ ?_)
      exact List.Sublist.append_left (List.sublist_append_right _ _) _
    · rw [List.nil_append]
      omega
  · refine ⟨differ, ?_⟩
    rw [List.length_append, List.length_singleton]
    omega

variable (services request)

/-- An attempt asks about names that differ, at a cost that it can pay. -/
theorem attempt_noted (current : Name) (progress : Progress) (world : World) (passed : List Name)
    (passes : Passes passed current progress) :
    ∃ names, Asks passed names progress (attempt services request current progress world).1 ∧
      ∀ sent, attempt services.noted request current progress (world, sent) =
        ((attempt services request current progress world).1,
          (attempt services request current progress world).2,
          sent ++ names.map request.query) := by
  -- over the rounds of the attempt as it is, whatever has been noted before
  induction current, progress, world using attempt.induct services request
    generalizing passed with
  | case1 current progress world heard last =>
    obtain ⟨names, asked, noted⟩ := round_noted services request current progress world
    refine ⟨names, ?_, fun sent => ?_⟩
    · rw [attempt_of_last services request last]
      exact Asks.last passes (round_gotOn services request current progress world) asked
    · have lastNoted : (Progress.round services.noted request current progress
          (world, sent)).next = none := by
        rw [noted]
        exact last
      rw [attempt_of_last _ request lastNoted, noted, attempt_of_last services request last]
  | case2 current progress world heard next another inductionHypothesis =>
    obtain ⟨names, asked, noted⟩ := round_noted services request current progress world
    obtain ⟨others, asks, later⟩ := inductionHypothesis _ (passes.round another)
    refine ⟨names ++ others, ?_, fun sent => ?_⟩
    · rw [attempt_of_next services request another]
      exact asks.cons asked (round_pays services request another)
    · have anotherNoted : (Progress.round services.noted request current progress
          (world, sent)).next = some next := by
        rw [noted]
        exact another
      rw [attempt_of_next _ request anotherNoted, noted,
        attempt_of_next services request another, List.map_append, ← List.append_assoc]
      exact later _

/-! ### The attempts of a search -/

section

variable {First Second : Type}

/-- Two ways of attempting that do the same to a resolution, in worlds that are alike, and leave
worlds that are alike. -/
def Attempting.Alike (first : Attempting First) (second : Attempting Second)
    (alike : First → Second → Prop) : Prop :=
  ∀ name progress left right, alike left right →
    (first name progress left).1 = (second name progress right).1 ∧
      alike (first name progress left).2 (second name progress right).2

variable {first : Attempting First} {second : Attempting Second} {alike : First → Second → Prop}

theorem attemptUnder_alike (same : first.Alike second alike) (request : Request) (suffix : Name)
    (progress : Progress) {left : First} {right : Second} (worlds : alike left right) :
    (attemptUnder first request suffix progress left).1 =
        (attemptUnder second request suffix progress right).1 ∧
      alike (attemptUnder first request suffix progress left).2
        (attemptUnder second request suffix progress right).2 := by
  unfold attemptUnder
  split
  · exact same _ progress left right worlds
  · exact ⟨rfl, worlds⟩

theorem attemptUnderEach_alike (same : first.Alike second alike) (request : Request)
    (suffixes : List Name) (progress : Progress) {left : First} {right : Second}
    (worlds : alike left right) :
    (attemptUnderEach first request progress left suffixes).1 =
        (attemptUnderEach second request progress right suffixes).1 ∧
      alike (attemptUnderEach first request progress left suffixes).2
        (attemptUnderEach second request progress right suffixes).2 := by
  induction suffixes generalizing progress left right with
  | nil => exact ⟨rfl, worlds⟩
  | cons suffix rest inductionHypothesis =>
    obtain ⟨later, worldsThen⟩ := attemptUnder_alike same request suffix progress worlds
    unfold attemptUnderEach
    dsimp only
    rw [later]
    split
    · exact ⟨rfl, worldsThen⟩
    · exact inductionHypothesis _ worldsThen

/-- A search does not tell such ways of attempting apart. -/
theorem search_alike (same : first.Alike second alike) (request : Request) (left : First)
    (right : Second) (worlds : alike left right) :
    (search first request left).1 = (search second request right).1 ∧
      alike (search first request left).2 (search second request right).2 := by
  unfold search
  split
  · exact same _ _ left right worlds
  · split
    · obtain ⟨later, worldsThen⟩ := attemptUnder_alike same request .root start worlds
      dsimp only
      rw [later]
      split
      · exact ⟨rfl, worldsThen⟩
      · exact attemptUnderEach_alike same request _ _ worldsThen
    · exact attemptUnderEach_alike same request _ _ worlds

end

section

variable {attempting : Attempting World}

/-- What holds with some attempts left holds after one of them with one attempt less left. -/
structure Spends (attempting : Attempting World) (holds : Nat → Progress → World → Prop) :
    Prop where
  attempted : ∀ left name progress world, holds (left + 1) progress world →
    holds left (attempting name progress world).1 (attempting name progress world).2
  tooLong : ∀ left progress world, holds (left + 1) progress world →
    holds left { progress with nameTooLong := true } world

variable {holds : Nat → Progress → World → Prop}

theorem Spends.attemptUnder (spends : Spends attempting holds) (request : Request) {left : Nat}
    (suffix : Name)
    {progress : Progress} {world : World} (before : holds (left + 1) progress world) :
    holds left (attemptUnder attempting request suffix progress world).1
      (attemptUnder attempting request suffix progress world).2 := by
  unfold Progress.attemptUnder
  split
  · exact spends.attempted left _ progress world before
  · exact spends.tooLong left progress world before

theorem Spends.attemptUnderEach (spends : Spends attempting holds) (request : Request)
    (suffixes : List Name)
    {progress : Progress} {world : World} (before : holds suffixes.length progress world) :
    ∃ left, holds left (attemptUnderEach attempting request progress world suffixes).1
      (attemptUnderEach attempting request progress world suffixes).2 := by
  induction suffixes generalizing progress world with
  | nil => exact ⟨0, before⟩
  | cons suffix rest inductionHypothesis =>
    have after := spends.attemptUnder request suffix before
    unfold Progress.attemptUnderEach
    dsimp only
    split
    · exact ⟨rest.length, after⟩
    · exact inductionHypothesis after

/-- A search makes no more attempts than are allowed. -/
theorem Spends.search (spends : Spends attempting holds) (request : Request) {world : World}
    (before : holds request.attemptsAllowed start world) :
    ∃ left, holds left (search attempting request world).1
      (search attempting request world).2 := by
  unfold Request.attemptsAllowed at before
  unfold Progress.search
  split
  · rename_i absolute
    rw [if_pos absolute] at before
    exact ⟨0, spends.attempted 0 _ _ _ before⟩
  · rename_i relative
    rw [if_neg relative] at before
    split
    · have after := spends.attemptUnder request .root before
      dsimp only
      split
      · exact ⟨_, after⟩
      · exact spends.attemptUnderEach request _ after
    · refine spends.attemptUnderEach request _ ?_
      rw [List.length_append]
      exact before

end

/-! ### Itemized queries -/

/-- A way of attempting that keeps the queries of each attempt as an item of its own. -/
def Attempting.itemized (services : Services World) (request : Request) :
    Attempting (World × List (List Message)) :=
  fun name progress (world, items) =>
    let (later, left, sent) := attempt services.noted request name progress (world, [])
    (later, left, items ++ [sent])

theorem itemized_apply (name : Name) (progress : Progress) (world : World) :
    ∃ names, Asks [] names progress (attempt services request name progress world).1 ∧
      (∀ items, Attempting.itemized services request name progress (world, items) =
        ((attempt services request name progress world).1,
          (attempt services request name progress world).2,
          items ++ [names.map request.query])) ∧
      ∀ sent, attempt services.noted request name progress (world, sent) =
        ((attempt services request name progress world).1,
          (attempt services request name progress world).2,
          sent ++ names.map request.query) := by
  obtain ⟨names, asks, noted⟩ := attempt_noted services request name progress world []
    (.first name progress)
  refine ⟨names, asks, fun items => ?_, noted⟩
  unfold Attempting.itemized
  dsimp only
  rw [noted, List.nil_append]

/-- Itemizing queries changes nothing about a search. -/
theorem itemized_alike : (Attempting.itemized services request).Alike
    (attempt services request) fun noted world => noted.1 = world := by
  rintro name progress ⟨world, items⟩ right rfl
  obtain ⟨names, _, itemized, _⟩ := itemized_apply services request name progress world
  rw [itemized]
  exact ⟨rfl, rfl⟩

/-- The items together are what the services note. -/
theorem noted_alike : Attempting.Alike (attempt services.noted request)
    (Attempting.itemized services request)
    fun noted itemized => noted = (itemized.1, itemized.2.flatten) := by
  rintro name progress left ⟨world, items⟩ rfl
  obtain ⟨names, _, itemized, noted⟩ := itemized_apply services request name progress world
  dsimp only
  rw [itemized, noted, List.flatten_append, List.flatten_singleton]
  exact ⟨rfl, rfl⟩

/-- What is kept within bounds, with some attempts left. -/
structure Bounded (request : Request) (left : Nat) (progress : Progress)
    (noted : World × List (List Message)) : Prop where
  attempts : noted.2.length + left ≤ request.attemptsAllowed
  queries : noted.2.flatten.length + progress.credit ≤ noted.2.length + (maxAliases - 1)
  differ : ∀ sent ∈ noted.2, ∃ names, sent = names.map request.query ∧ Name.AllDiffer names
  aliases : progress.FewAliases

/-- An attempt keeps all within bounds. -/
theorem itemized_spends : Spends (Attempting.itemized services request) (Bounded request) where
  attempted := by
    rintro left name progress ⟨world, items⟩ bounded
    obtain ⟨names, asks, itemized, _⟩ := itemized_apply services request name progress world
    rw [itemized]
    have attempts : items.length + (left + 1) ≤ request.attemptsAllowed := bounded.attempts
    have queries : items.flatten.length + progress.credit ≤ items.length + (maxAliases - 1) :=
      bounded.queries
    have paid := asks.paid
    dsimp only
    refine ⟨?_, ?_, ?_, (attempt_gotOn services request name progress world).few bounded.aliases⟩
    · rw [List.length_append, List.length_singleton]
      omega
    · dsimp only
      rw [List.flatten_append, List.flatten_singleton, List.length_append, List.length_append,
        List.length_singleton, List.length_map]
      omega
    · intro sent member
      rcases List.mem_append.mp member with before | last
      · exact bounded.differ sent before
      · exact ⟨names, List.mem_singleton.mp last, asks.differ⟩
  tooLong := by
    intro left progress noted bounded
    have attempts := bounded.attempts
    exact ⟨by omega, bounded.queries, bounded.differ,
      ⟨bounded.aliases.counted, bounded.aliases.few⟩⟩

end Progress

/-! ### The work of a resolution -/

/-- The queries that a resolution sends, itemized by its attempts. -/
def Request.queriesSent (services : Services World) (request : Request) (world : World) :
    List (List Message) :=
  (Progress.search (Progress.Attempting.itemized services request) request (world, [])).2.2

/-- The bounds on the work of a resolution. -/
structure Request.WorkBounded (services : Services World) (request : Request) (world : World) :
    Prop where
  /-- Every attempt, wherever it starts and whatever is remembered, comes to its last round after
  at most `maxAliases` of them. -/
  rounds : ∀ name progress left,
    let last := Progress.roundAfter services request (maxAliases - 1)
      (Progress.round services request name progress left)
    last.next = none ∧
      Progress.attempt services request name progress left = (last.progress, last.world)
  /-- There are not more attempts than one for an absolute name, or one for the root and one for
  each suffix. -/
  attempts : (request.queriesSent services world).length ≤ request.attemptsAllowed
  /-- There are not more queries than attempts, and one for each alias that can be followed. -/
  queries : (request.queriesSent services world).flatten.length ≤
    request.attemptsAllowed + maxAliases - 1
  /-- Within an attempt, the queries are about names that differ. -/
  differ : ∀ sent ∈ request.queriesSent services world,
    ∃ names, sent = names.map request.query ∧ Name.AllDiffer names
  /-- The aliases that are reported are few. -/
  aliases : (request.resolve services world).1.aliases.length ≤ maxAliases - 1
  /-- Itemizing the queries leaves every attempt as it is. -/
  itemized : Progress.search (Progress.Attempting.itemized services request) request (world, []) =
    ((Progress.search (Progress.attempt services request) request world).1,
      (Progress.search (Progress.attempt services request) request world).2,
      request.queriesSent services world)
  /-- The items are all queries that the resolution sends, in order. -/
  noted : request.resolve services.noted (world, []) =
    ((request.resolve services world).1, (request.resolve services world).2,
      (request.queriesSent services world).flatten)

/-- Whatever the cache and the sender do, the work of a resolution is bounded. -/
theorem Request.resolve_workBounded (services : Services World) (request : Request)
    (world : World) : request.WorkBounded services world := by
  obtain ⟨same, left⟩ := Progress.search_alike (Progress.itemized_alike services request) request
    (world, []) world rfl
  obtain ⟨sameNoted, leftNoted⟩ := Progress.search_alike (Progress.noted_alike services request)
    request (world, []) (world, []) rfl
  have before : Progress.Bounded request request.attemptsAllowed .start (world, []) :=
    ⟨Nat.le_of_eq (Nat.zero_add _), Nat.le_refl _, fun _ member => absurd member List.not_mem_nil,
      Progress.start_fewAliases⟩
  obtain ⟨unused, bounded⟩ := (Progress.itemized_spends services request).search request before
  have attempts := bounded.attempts
  have queries := bounded.queries
  have few := bounded.aliases.few
  refine ⟨fun name progress left => ?_, ?_, ?_, bounded.differ, ?_, ?_, ?_⟩
  · exact Progress.attempt_eq_roundAfter services request name progress left (maxAliases - 1)
      (Nat.sub_le _ _)
  · unfold queriesSent
    omega
  · unfold queriesSent
    omega
  · rw [same] at few
    exact Nat.le_sub_one_of_lt few
  · exact Prod.ext same (Prod.ext left rfl)
  · unfold resolve
    dsimp only
    rw [leftNoted, sameNoted, same, left]
    rfl

end StubResolver
