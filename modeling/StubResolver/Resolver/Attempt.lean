/-
This file carries out an attempt: the search for a name that is complete. The cache is asked first,
and the network when the cache has nothing to say; an alias, from either of them, makes the attempt
go on with the name that it leads to. What the network says is heard once for each name, so that
every further round has followed one more alias. As a resolution follows fewer than `maxAliases`,
the attempt comes to an end whatever the cache and the servers say.
-/

import StubResolver.Resolver.Progress

namespace StubResolver

variable {World : Type}

/-! ### Asking the network -/

/-- Why asking the network was of no use. -/
inductive Failure where
  /-- No server answered in time. -/
  | timeout
  /-- The network failed in some other way. -/
  | network
  /-- The response cannot be used, for the reason given. -/
  | unusable (reason : String)
deriving DecidableEq

/-- The failure that an error of the sender stands for. -/
def Failure.ofError (error : Error) : Failure :=
  if error.isTimeout then timeout
  else if error.isNetwork then network
  else unusable error.message

/-- Why a response is of no use for a question, if it is of none. -/
def Failure.ofResponse? (question : Question) (response : Message) : Option Failure :=
  if !response.result.isCacheable then
    some (unusable response.result.mnemonic)
  else
    match response.question with
    | some echoed =>
      if echoed ≈ question then none else some (unusable "response does not match query")
    | none => some (unusable "response does not match query")

/-- Has the cache learn from a response. Of a response that it can make nothing of, what it knows
anyway has to do. -/
def Services.learn (services : Services World) (world : World) (question : Question)
    (credibility : Credibility) (response : Message) : Ingested × World :=
  match services.ingest world response with
  | (some ingested, learned) => (ingested, learned)
  | (none, unchanged) =>
    let (outcome, looked) := services.lookup unchanged question.name question.type credibility
    (⟨outcome, []⟩, looked)

/-- Asks the network a question, and has the cache learn from a response that can be used. -/
def Services.ask (services : Services World) (world : World) (question : Question)
    (credibility : Credibility) : Except Failure Ingested × World :=
  match services.send world (Message.query question) with
  | (.error error, sent) => (.error (Failure.ofError error), sent)
  | (.ok response, sent) =>
    match Failure.ofResponse? question response with
    | some failure => (.error failure, sent)
    | none =>
      let (ingested, learned) := services.learn sent question credibility response
      (.ok ingested, learned)

namespace Progress

/-- The progress after asking the network was of no use. -/
def noteFailure (progress : Progress) : Failure → Progress
  | .timeout => { progress with timedOut := true }
  | .network => { progress with networkError := true }
  | .unusable reason => { progress with badResponse := some reason }

/-! ### The rounds of an attempt -/

/-- What a round of an attempt comes to: it is the last one, or another name follows. -/
structure Round (World : Type) where
  progress : Progress
  next : Option Name
  world : World

/-- A round that asks the network, after the cache did not decide it. -/
def networkRound (services : Services World) (request : Request) (current : Name)
    (progress : Progress) (world : World) : Round World :=
  let question : Question := ⟨current, request.type, request.recordClass⟩
  match services.ask world question request.options.credibility with
  | (.error failure, asked) => ⟨progress.noteFailure failure, none, asked⟩
  | (.ok ingested, asked) =>
    match progress.respond current ingested.outcome ingested.aliases with
    | (later, .follow next) => ⟨later, some next, asked⟩
    | (later, _) => ⟨later, none, asked⟩

/-- A round of an attempt: what is heard about one name. -/
def round (services : Services World) (request : Request) (current : Name) (progress : Progress)
    (world : World) : Round World :=
  let (outcome, looked) :=
    services.lookup world current request.type request.options.credibility
  match progress.respond current outcome [] with
  | (later, .follow next) => ⟨later, some next, looked⟩
  | (later, .done) => ⟨later, none, looked⟩
  | (later, .query) => networkRound services request current later looked

/-- A round in the network that is not the last one costs an alias. -/
theorem networkRound_counts (services : Services World) (request : Request) (current next : Name)
    (progress : Progress) (world : World)
    (goesOn : (networkRound services request current progress world).next = some next) :
    (networkRound services request current progress world).progress.aliasCount =
        progress.aliasCount + 1 ∧
      (networkRound services request current progress world).progress.aliasCount < maxAliases := by
  unfold networkRound at goesOn ⊢
  simp only at goesOn ⊢
  split at goesOn
  · simp at goesOn
  · split at goesOn
    · rename_i heard
      exact respond_counts _ _ _ _ _ _ heard
    · simp at goesOn

/-- A round that is not the last one costs an alias. -/
theorem round_counts (services : Services World) (request : Request) (current next : Name)
    (progress : Progress) (world : World)
    (goesOn : (round services request current progress world).next = some next) :
    (round services request current progress world).progress.aliasCount =
        progress.aliasCount + 1 ∧
      (round services request current progress world).progress.aliasCount < maxAliases := by
  unfold round at goesOn ⊢
  simp only at goesOn ⊢
  split at goesOn
  · rename_i heard
    exact respond_counts _ _ _ _ _ _ heard
  · simp at goesOn
  · rename_i heard
    rw [← respond_query _ _ _ _ _ heard]
    exact networkRound_counts _ _ _ _ _ _ goesOn

/-- Goes on from a name until no further alias is to be followed. -/
def attempt (services : Services World) (request : Request) (current : Name) (progress : Progress)
    (world : World) : Progress × World :=
  let heard := round services request current progress world
  match _ : heard.next with
  | none => (heard.progress, heard.world)
  | some next => attempt services request next heard.progress heard.world
termination_by maxAliases - progress.aliasCount
decreasing_by
  rename_i goesOn
  have counts := round_counts services request current next progress world goesOn
  omega

end Progress

end StubResolver
