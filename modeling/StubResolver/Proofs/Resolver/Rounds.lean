/-
This file gives the induction over the rounds of an attempt, once for all that is to be said about
attempts: what every round hands on to the next, and what the last round makes of it. The first use
is that an alias, once met, is never forgotten. In the same way, a search keeps what each of its
attempts keeps; all of them start from absolute names.
-/

import StubResolver.Resolver.Search

namespace StubResolver.Progress

variable {World : Type} (services : Services World) (request : Request)

/-- A round ends with the cache if it decides the matter. -/
theorem round_of_done {current : Name} (progress : Progress) {later : Progress}
    {world looked : World} {outcome : Outcome}
    (looks : services.lookup world current request.type request.options.credibility =
      (outcome, looked))
    (ends : progress.respond current outcome [] = (later, .done)) :
    round services request current progress world = ⟨later, none, looked⟩ := by
  unfold round
  rw [looks]
  dsimp only
  rw [ends]

/-- A round ends with the cache as well if it gives an alias to follow. -/
theorem round_of_follow {current next : Name} {progress later : Progress} {world looked : World}
    {outcome : Outcome}
    (looks : services.lookup world current request.type request.options.credibility =
      (outcome, looked))
    (followed : progress.respond current outcome [] = (later, .follow next)) :
    round services request current progress world = ⟨later, some next, looked⟩ := by
  unfold round
  rw [looks]
  dsimp only
  rw [followed]

/-- An attempt ends with the round that is the last one. -/
theorem attempt_of_last {current : Name} {progress : Progress} {world : World}
    (last : (round services request current progress world).next = none) :
    attempt services request current progress world =
      ((round services request current progress world).progress,
        (round services request current progress world).world) := by
  rw [attempt]
  split
  · rfl
  · rename_i next another
    rw [last] at another
    cases another

/-- An attempt goes on with the name that follows. -/
theorem attempt_of_next {current next : Name} {progress : Progress} {world : World}
    (another : (round services request current progress world).next = some next) :
    attempt services request current progress world =
      attempt services request next (round services request current progress world).progress
        (round services request current progress world).world := by
  rw [attempt]
  split
  · rename_i last
    rw [another] at last
    cases last
  · rename_i other same
    rw [another, Option.some_inj] at same
    rw [same]

/-- What every round hands on, and what the last round makes of it, an attempt arrives at. -/
theorem attempt_induction (handedOn : Name → Progress → World → Prop)
    (arrivedAt : Progress → World → Prop)
    (goesOn : ∀ current progress world next, handedOn current progress world →
      (round services request current progress world).next = some next →
      handedOn next (round services request current progress world).progress
        (round services request current progress world).world)
    (ends : ∀ current progress world, handedOn current progress world →
      (round services request current progress world).next = none →
      arrivedAt (round services request current progress world).progress
        (round services request current progress world).world)
    (current : Name) (progress : Progress) (world : World)
    (holds : handedOn current progress world) :
    arrivedAt (attempt services request current progress world).1
      (attempt services request current progress world).2 := by
  induction current, progress, world using attempt.induct services request with
  | case1 current progress world heard last =>
    rw [attempt_of_last services request last]
    exact ends current progress world holds last
  | case2 current progress world heard next another inductionHypothesis =>
    rw [attempt_of_next services request another]
    exact inductionHypothesis (goesOn current progress world next holds another)

/-! ### An alias is not forgotten -/

theorem followAlias_foundAlias (progress : Progress) (target old : Name) :
    (progress.followAlias target old).1.foundAlias = true := by
  unfold followAlias
  dsimp only
  split <;> rfl

theorem recordChain_foundAlias (progress : Progress) (chain : List Name)
    (found : progress.foundAlias = true) : (progress.recordChain chain).1.foundAlias = true := by
  induction chain generalizing progress with
  | nil => exact found
  | cons name rest inductionHypothesis =>
    rw [recordChain]
    dsimp only
    split
    · rfl
    · exact inductionHypothesis _ rfl

theorem succeed_foundAlias (progress : Progress) (answers : List RRset) (chain : List Name)
    (found : progress.foundAlias = true) :
    (progress.succeed answers chain).foundAlias = true := by
  have recorded := recordChain_foundAlias progress chain found
  unfold succeed
  split <;> rename_i equal <;> rw [equal] at recorded <;> exact recorded

/-- No outcome makes an alias forgotten. -/
theorem respond_foundAlias (progress : Progress) (current : Name) (outcome : Outcome)
    (chain : List Name) (found : progress.foundAlias = true) :
    (progress.respond current outcome chain).1.foundAlias = true := by
  unfold respond
  cases outcome with
  | unknown => exact found
  | nxDomain =>
    dsimp only [missName]
    split <;> exact found
  | nxRRset => exact found
  | delegation servers => exact found
  | cname set =>
    dsimp only
    split
    · exact followAlias_foundAlias _ _ _
    · exact found
  | dname set =>
    dsimp only [followRedirection]
    split
    · split
      · exact followAlias_foundAlias _ _ _
      · exact found
    · exact found
  | successful answers => exact succeed_foundAlias progress answers chain found

theorem noteFailure_foundAlias (progress : Progress) (failure : Failure)
    (found : progress.foundAlias = true) : (progress.noteFailure failure).foundAlias = true := by
  cases failure <;> exact found

theorem networkRound_foundAlias (current : Name) (progress : Progress) (world : World)
    (found : progress.foundAlias = true) :
    (networkRound services request current progress world).progress.foundAlias = true := by
  unfold networkRound
  dsimp only
  split
  · exact noteFailure_foundAlias _ _ found
  · rename_i ingested asked _
    have heard := respond_foundAlias progress current ingested.outcome ingested.aliases found
    split <;> rename_i equal <;> rw [equal] at heard <;> exact heard

theorem round_foundAlias (current : Name) (progress : Progress) (world : World)
    (found : progress.foundAlias = true) :
    (round services request current progress world).progress.foundAlias = true := by
  have heard := respond_foundAlias progress current
    (services.lookup world current request.type request.options.credibility).1 [] found
  unfold round
  dsimp only
  split <;> rename_i equal <;> rw [equal] at heard
  · exact heard
  · exact heard
  · exact networkRound_foundAlias services request current _ _ heard

/-- An alias that has been met before an attempt is still known after it. -/
theorem attempt_foundAlias (current : Name) (progress : Progress) (world : World)
    (found : progress.foundAlias = true) :
    (attempt services request current progress world).1.foundAlias = true :=
  attempt_induction services request (fun _ progress _ => progress.foundAlias = true)
    (fun progress _ => progress.foundAlias = true)
    (fun current progress world _ found _ =>
      round_foundAlias services request current progress world found)
    (fun current progress world found _ =>
      round_foundAlias services request current progress world found)
    current progress world found

/-! ### The attempts of a search -/

section

variable {attempting : Attempting World} (holds : World → Prop)
  (keeps : ∀ name progress world, name.absolute = true → holds world →
    holds (attempting name progress world).2)

include keeps

theorem attemptUnder_keeps (suffix : Name) (progress : Progress) {world : World}
    (before : holds world) :
    holds (attemptUnder attempting request suffix progress world).2 := by
  unfold attemptUnder
  split
  · exact keeps _ progress world (Name.toAbsolute_absolute _) before
  · exact before

theorem attemptUnderEach_keeps (suffixes : List Name) (progress : Progress) {world : World}
    (before : holds world) :
    holds (attemptUnderEach attempting request progress world suffixes).2 := by
  induction suffixes generalizing progress world with
  | nil => exact before
  | cons suffix rest inductionHypothesis =>
    have after := attemptUnder_keeps request holds keeps suffix progress before
    unfold attemptUnderEach
    dsimp only
    split
    · exact after
    · exact inductionHypothesis _ after

/-- What attempts from absolute names keep, a search keeps. -/
theorem search_keeps {world : World} (before : holds world) :
    holds (search attempting request world).2 := by
  unfold search
  split
  · rename_i isAbsolute
    exact keeps _ start world isAbsolute before
  · split
    · have after := attemptUnder_keeps request holds keeps .root start before
      dsimp only
      split
      · exact after
      · exact attemptUnderEach_keeps request holds keeps _ _ after
    · exact attemptUnderEach_keeps request holds keeps _ _ before

end

end StubResolver.Progress

namespace StubResolver

/-! ### What calls of the services keep -/

variable {World : Type}

/-- Services that stay sound as long as they learn from responses that fit, and that are sent no
others. -/
structure Services.Upholds (services : Services World) (fit : Message → Prop)
    (sound : World → Prop) : Prop where
  lookup : ∀ world name type least, sound world → sound (services.lookup world name type least).2
  send : ∀ world query, sound world →
    sound (services.send world query).2 ∧
      ∀ response, (services.send world query).1 = .ok response → fit response
  ingest : ∀ world response, sound world → fit response → sound (services.ingest world response).2

variable {services : Services World} {fit : Message → Prop} {sound : World → Prop}

namespace Services.Upholds

theorem learn (upholds : services.Upholds fit sound) {world : World} (isSound : sound world)
    (question : Question) (credibility : Credibility) {response : Message}
    (fits : fit response) : sound (services.learn world question credibility response).2 := by
  have learned := upholds.ingest world response isSound fits
  unfold Services.learn
  split
  · rename_i said
    rw [said] at learned
    exact learned
  · rename_i said
    rw [said] at learned
    exact upholds.lookup _ question.name question.type credibility learned

theorem ask (upholds : services.Upholds fit sound) {world : World} (isSound : sound world)
    (question : Question) (credibility : Credibility) :
    sound (services.ask world question credibility).2 := by
  obtain ⟨soundThen, fits⟩ := upholds.send world (Message.query question) isSound
  unfold Services.ask
  split
  · rename_i isSent
    rw [isSent] at soundThen
    exact soundThen
  · rename_i response sent isSent
    rw [isSent] at soundThen fits
    split
    · exact soundThen
    · exact upholds.learn soundThen question credibility (fits response rfl)

end Services.Upholds

namespace Progress

variable (request : Request)

theorem networkRound_upholds (upholds : services.Upholds fit sound) (current : Name)
    (progress : Progress) {world : World} (isSound : sound world) :
    sound (networkRound services request current progress world).world := by
  have asked := upholds.ask isSound ⟨current, request.type, request.recordClass⟩
    request.options.credibility
  unfold networkRound
  dsimp only
  split
  · rename_i isAsked
    rw [isAsked] at asked
    exact asked
  · rename_i isAsked
    rw [isAsked] at asked
    split <;> exact asked

theorem round_upholds (upholds : services.Upholds fit sound) (current : Name)
    (progress : Progress) {world : World} (isSound : sound world) :
    sound (round services request current progress world).world := by
  have looked := upholds.lookup world current request.type request.options.credibility isSound
  unfold round
  dsimp only
  split
  · exact looked
  · exact looked
  · exact networkRound_upholds request upholds current _ looked

/-- An attempt keeps what calls of the services keep. -/
theorem attempt_upholds (upholds : services.Upholds fit sound) (current : Name)
    (progress : Progress) {world : World} (isSound : sound world) :
    sound (attempt services request current progress world).2 :=
  attempt_induction services request (fun _ _ world => sound world) (fun _ world => sound world)
    (fun current progress _ _ before _ => round_upholds request upholds current progress before)
    (fun current progress _ before _ => round_upholds request upholds current progress before)
    current progress world isSound

end Progress

/-- So does a resolution. -/
theorem Request.resolve_upholds (upholds : services.Upholds fit sound) (request : Request)
    {world : World} (isSound : sound world) : sound (request.resolve services world).2 :=
  Progress.search_keeps request sound
    (fun name progress _ _ before => Progress.attempt_upholds request upholds name progress before)
    isSound

end StubResolver
