/-
This file says what a resolution remembers and how an outcome moves it on. Every outcome has one of
three consequences: the resolution is done with the name, or has to ask the network about it, or
goes on with the name that an alias leads to.

Aliases are counted over the whole resolution, whether they were followed one by one or crossed
within a response. An alias that leads to a name already passed, and an alias too many, end the
resolution as a loop. Following an alias forgets all failures before it, since they were about
another name.
-/

import StubResolver.Resolver.Services

namespace StubResolver

/-- How a resolution has been decided, with the reason if it is not plain from the status. -/
structure Verdict where
  status : Status
  reason : Option String
deriving DecidableEq

/-- What a resolution remembers. -/
structure Progress where
  /-- How many aliases have been counted. -/
  aliasCount : Nat
  /-- Whether an alias has been met. -/
  foundAlias : Bool
  /-- The decision, once there is one. -/
  verdict : Option Verdict
  /-- Whether a name was found not to exist. -/
  nxDomain : Bool
  /-- What was wrong with the last unusable response. -/
  badResponse : Option String
  /-- Whether the network failed. -/
  networkError : Bool
  /-- Whether a query timed out. -/
  timedOut : Bool
  /-- Whether other servers would have had to be asked. -/
  referral : Bool
  /-- Whether a name with a suffix was too long. -/
  nameTooLong : Bool
  /-- The aliases crossed, in order. -/
  aliases : List Name
  /-- The sets found. -/
  answers : List RRset
deriving DecidableEq

namespace Progress

/-- What a resolution remembers at its start. -/
def start : Progress := ⟨0, false, none, false, none, false, false, false, false, [], []⟩

/-- Whether there is nothing more to be done. -/
def isDone (progress : Progress) : Bool := progress.verdict.isSome

/-! ### Steps -/

/-- What an outcome asks for. -/
inductive Step where
  /-- Nothing more about this name. -/
  | done
  /-- The network has to be asked. -/
  | query
  /-- The resolution goes on with another name. -/
  | follow (next : Name)
deriving DecidableEq

/-- The progress with a decision that leaves no records. -/
def fail (progress : Progress) (status : Status) (reason : String) : Progress :=
  { progress with answers := [], verdict := some ⟨status, some reason⟩ }

/-- The decision about a loop of aliases. -/
def failLoop (progress : Progress) : Progress := progress.fail .unrecoverable "CNAME loop"

/-- The progress after an alias of `old` that leads to `target`. -/
def followAlias (progress : Progress) (target old : Name) : Progress × Step :=
  let followed := { progress with
    foundAlias := true
    badResponse := none
    networkError := false
    timedOut := false
    nxDomain := false
    referral := false
    aliasCount := progress.aliasCount + 1 }
  if maxAliases ≤ followed.aliasCount ∨ target ≈ old ∨ progress.aliases.any (· ≈ target) then
    (followed.failLoop, .done)
  else
    ({ followed with aliases := progress.aliases ++ [old] }, .follow target)

/-- The progress after aliases that a response crossed, and whether they are in order. -/
def recordChain (progress : Progress) : List Name → Progress × Bool
  | [] => (progress, true)
  | name :: rest =>
    let counted := { progress with foundAlias := true, aliasCount := progress.aliasCount + 1 }
    if maxAliases ≤ counted.aliasCount ∨ progress.aliases.any (· ≈ name) then
      (counted.failLoop, false)
    else
      { counted with aliases := progress.aliases ++ [name] }.recordChain rest

/-- The progress after sets were found at the end of some aliases. -/
def succeed (progress : Progress) (answers : List RRset) (chain : List Name) : Progress :=
  match progress.recordChain chain with
  | (recorded, true) =>
    { recorded with answers := answers, verdict := some ⟨.successful, none⟩ }
  | (recorded, false) => recorded

/-- The progress after a name was found not to exist. Behind an alias this decides the resolution;
otherwise other suffixes may still help. -/
def missName (progress : Progress) : Progress :=
  if 0 < progress.aliasCount then
    { progress with nxDomain := true, verdict := some ⟨.hostNotFound, none⟩ }
  else
    { progress with nxDomain := true }

/-- The progress after a name was found to have no records of the type. -/
def missType (progress : Progress) : Progress :=
  { progress with answers := [], verdict := some ⟨.typeNotFound, none⟩ }

/-- The progress after a redirection of the subtree that a name lies in. -/
def followRedirection (progress : Progress) (current : Name) (set : RRset) (target : Name) :
    Progress × Step :=
  match current.substitute set.name target with
  | .ok next => progress.followAlias next current
  | .error _ => (progress.fail .unrecoverable "Invalid DNAME target", .done)

/-- The progress after an outcome for a name, where `chain` holds the aliases that were crossed on
the way to it. An alias set without an alias says nothing. -/
def respond (progress : Progress) (current : Name) (outcome : Outcome) (chain : List Name) :
    Progress × Step :=
  match outcome with
  | .successful answers => (progress.succeed answers chain, .done)
  | .nxDomain => (progress.missName, .done)
  | .nxRRset => (progress.missType, .done)
  | .cname set =>
    match set.aliasTarget? with
    | some target => progress.followAlias target current
    | none => (progress, .query)
  | .dname set =>
    match set.aliasTarget? with
    | some target => progress.followRedirection current set target
    | none => (progress, .query)
  | .delegation _ => ({ progress with referral := true }, .query)
  | .unknown => (progress, .query)

/-! ### What following costs -/

/-- Whoever follows an alias has counted it, and has not counted too many. -/
theorem followAlias_counts (progress later : Progress) (target old next : Name)
    (followed : progress.followAlias target old = (later, .follow next)) :
    later.aliasCount = progress.aliasCount + 1 ∧ later.aliasCount < maxAliases := by
  unfold followAlias at followed
  simp only at followed
  split at followed
  · simp at followed
  · rename_i few
    simp only [Prod.mk.injEq] at followed
    obtain ⟨rfl, _⟩ := followed
    simp only [not_or] at few
    exact ⟨rfl, Nat.lt_of_not_le few.1⟩

/-- An outcome that is followed to another name costs an alias. -/
theorem respond_counts (progress later : Progress) (current next : Name) (outcome : Outcome)
    (chain : List Name)
    (followed : progress.respond current outcome chain = (later, .follow next)) :
    later.aliasCount = progress.aliasCount + 1 ∧ later.aliasCount < maxAliases := by
  unfold respond at followed
  cases outcome with
  | cname set =>
    simp only at followed
    split at followed
    · exact followAlias_counts _ _ _ _ _ followed
    · simp at followed
  | dname set =>
    simp only at followed
    split at followed
    · unfold followRedirection at followed
      split at followed
      · exact followAlias_counts _ _ _ _ _ followed
      · simp at followed
    · simp at followed
  | _ => simp at followed

/-- An outcome after which the network has to be asked costs nothing. -/
theorem respond_query (progress later : Progress) (current : Name) (outcome : Outcome)
    (chain : List Name) (asked : progress.respond current outcome chain = (later, .query)) :
    later.aliasCount = progress.aliasCount := by
  have notFollowed (target old : Name) : progress.followAlias target old ≠ (later, .query) := by
    unfold followAlias
    simp only
    split <;> simp
  unfold respond at asked
  cases outcome with
  | cname set =>
    simp only at asked
    split at asked
    · exact absurd asked (notFollowed _ _)
    · simp_all
  | dname set =>
    simp only at asked
    split at asked
    · unfold followRedirection at asked
      split at asked
      · exact absurd asked (notFollowed _ _)
      · simp at asked
    · simp_all
  | delegation set =>
    simp only [Prod.mk.injEq] at asked
    exact (congrArg aliasCount asked.1).symm
  | unknown =>
    simp only [Prod.mk.injEq] at asked
    exact (congrArg aliasCount asked.1).symm
  | _ => simp at asked

end Progress

end StubResolver
