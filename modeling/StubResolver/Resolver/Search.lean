/-
This file carries out a resolution: which complete names are attempted for the name asked for, and
what the attempts amount to. An absolute name is attempted as it is. A relative name is completed,
by the root and by each suffix of the search path; how many labels it has decides whether the root
comes first or last. The attempts end when one of them decides the resolution, and, once suffixes
are being tried, when an alias has been met: a name that stands for another has been found, and no
other suffix could be meant.

The attempts share what the resolution remembers, so a failure of an early one still counts when
no later one says more. Which names are attempted does not depend on how an attempt is made, but
only on what it leaves behind, so the way to make one is a parameter here. In the end, the failures
are weighed: those that asking again may mend come before those that it does not.
-/

import StubResolver.Resolver.Attempt

namespace StubResolver

variable {World : Type}

namespace Progress

/-! ### Attempts in order -/

/-- A way to attempt a complete name. -/
abbrev Attempting (World : Type) := Name → Progress → World → Progress × World

/-- Attempts a name completed by a suffix, if that makes a name. -/
def attemptUnder (attempting : Attempting World) (request : Request) (suffix : Name)
    (progress : Progress) (world : World) : Progress × World :=
  match request.name.qualify suffix with
  | .ok complete => attempting complete.toAbsolute progress world
  | .error _ => ({ progress with nameTooLong := true }, world)

/-- Attempts a name under one suffix after the other, until the resolution is done or an alias has
been met. -/
def attemptUnderEach (attempting : Attempting World) (request : Request) (progress : Progress)
    (world : World) : (suffixes : List Name) → Progress × World
  | [] => (progress, world)
  | suffix :: rest =>
    let (later, left) := attemptUnder attempting request suffix progress world
    if later.isDone || later.foundAlias then
      (later, left)
    else
      attemptUnderEach attempting request later left rest

/-- Makes all attempts that a request asks for. -/
def search (attempting : Attempting World) (request : Request) (world : World) :
    Progress × World :=
  if request.name.absolute then
    attempting request.name start world
  else if request.options.ndots < request.name.labelCount then
    let (first, left) := attemptUnder attempting request .root start world
    if first.isDone then
      (first, left)
    else
      attemptUnderEach attempting request first left request.options.searchPath
  else
    attemptUnderEach attempting request start world (request.options.searchPath ++ [.root])

/-! ### The result -/

/-- What all attempts together amount to. -/
def weigh (progress : Progress) : Verdict :=
  match progress.verdict, progress.badResponse with
  | some verdict, _ => verdict
  | none, some reason => ⟨.tryAgain, some reason⟩
  | none, none =>
    if progress.timedOut then ⟨.tryAgain, some "timed out"⟩
    else if progress.networkError then ⟨.tryAgain, some "network error"⟩
    else if progress.nxDomain then ⟨.hostNotFound, none⟩
    else if progress.referral then ⟨.unrecoverable, some "referral"⟩
    else if progress.nameTooLong then ⟨.unrecoverable, some "name too long"⟩
    else ⟨.unrecoverable, none⟩

/-- The result of a resolution. Only a successful one gives out records; the aliases that were
crossed are reported in any case. -/
def conclude (progress : Progress) : Resolution :=
  let verdict := progress.weigh
  ⟨verdict.status, verdict.reason.getD verdict.status.text,
    if verdict.status = .successful then progress.answers else [], progress.aliases⟩

end Progress

/-- Carries out a resolution. -/
def Request.resolve (services : Services World) (request : Request) (world : World) :
    Resolution × World :=
  let (progress, left) := Progress.search (Progress.attempt services request) request world
  (progress.conclude, left)

end StubResolver
