/-
This file reads what a response says about its question, without looking at any cache. Starting
from the name of the question, it follows the aliases in the answer section until it meets sets
that answer, or until there is no further alias. Where it ends, the authority section tells whether
another server has to be asked, or what it is that does not exist.

What a cache should keep of the response is a list of writes. A set is kept only when it had a part
in this: the aliases followed, the answer, the servers of a zone that the end lies in, and addresses
of hosts that the answer or the servers name. Everything else in a response may be true or not, and
is left alone. Records of another class have no part in anything.
-/

import StubResolver.Cache.Entry
import StubResolver.Message
import StubResolver.Outcome

namespace StubResolver.Cache

/-! ### What is to be kept -/

/-- Something to keep of a response. -/
inductive Write where
  | set (set : RRset) (credibility : Credibility)
  | absence (name : Name) (key : EntryKey) (zoneStart : Option Record) (credibility : Credibility)
deriving DecidableEq

/-- What a response says: the things to keep, in order, and what the cache reports of it. -/
structure Digest where
  writes : List Write
  ingested : Ingested
deriving DecidableEq

/-! ### Following aliases -/

/-- Whether a set says that a name stands for another: it belongs to the name itself, or it
redirects the subtree of a name above. -/
def isAliasFor (set : RRset) (name : Name) : Bool :=
  if set.type = .cname then set.name ≈ name
  else if set.type = .dname then !decide (set.name ≈ name) && name.isWithin set.name
  else false

/-- The name that an alias leads to from a given name. There is none when the set holds no alias,
or when a redirection makes the name too long. -/
def aliasDestination? (set : RRset) (name : Name) : Option Name :=
  match set.aliasTarget? with
  | none => none
  | some target =>
    if set.type = .dname then
      match name.substitute set.name target with
      | .ok next => some next.toAbsolute
      | .error _ => none
    else
      some target.toAbsolute

/-- What an alias means to someone who only follows the first. -/
def aliasOutcome (set : RRset) : Outcome := if set.type = .dname then .dname set else .cname set

/-- Whether a set answers a question for a name and a type. -/
def answersQuestion (name : Name) (type : RecordType) (set : RRset) : Bool :=
  set.name ≈ name ∧ (type = .any ∨ set.type = type)

/-- How far aliases have been followed: the name reached, the aliases crossed, the sets that were
made use of, and in the end the sets that answer. -/
structure Trail where
  current : Name
  aliases : List Name
  used : List RRset
  finals : List RRset
deriving DecidableEq

/-- Follows aliases for at most `hops` steps. Each alias set serves once, so that a circle of
aliases comes to an end. -/
def follow (answers : List RRset) (type : RecordType) :
    (hops : Nat) → (unused : List RRset) → Trail → Trail
  | 0, _, trail => trail
  | hops + 1, unused, trail =>
    match answers.filter (answersQuestion trail.current type) with
    | [] =>
      match unused.find? (isAliasFor · trail.current) with
      | none => trail
      | some set =>
        let used := trail.used ++ [set]
        match aliasDestination? set trail.current with
        | none => { trail with used := used }
        | some next =>
          follow answers type hops (unused.eraseP (isAliasFor · trail.current))
            { trail with
              current := next
              aliases := trail.aliases ++ [trail.current]
              used := used }
    | finals => { trail with finals := finals }

/-- Follows the aliases of a question from its name on. -/
def trailOf (question : Question) (answers : List RRset) : Trail :=
  follow answers question.type (maxAliases + 1) answers ⟨question.name.toAbsolute, [], [], []⟩

/-! ### The end of the trail -/

/-- The sets of a section that are of the class asked for. -/
def setsInClass (message : Message) (part : Section) (recordClass : RecordClass) : List RRset :=
  (message.sets part).filter fun set => set.recordClass = recordClass

/-- The first set of a type whose owner is the name or lies above it. -/
def covering? (authority : List RRset) (type : RecordType) (name : Name) : Option RRset :=
  authority.find? fun set => set.type = type && name.isWithin set.name

/-- The hosts that the records of a set name. -/
def namedHosts (set : RRset) : List Name :=
  set.records.filterMap fun record => record.data.additionalName?.map Name.toAbsolute

/-- The addresses in the additional section of hosts that matter, as things to keep. -/
def addressWrites (message : Message) (recordClass : RecordClass) (hosts : List Name) :
    List Write :=
  let wanted (set : RRset) : Bool :=
    (set.type = .a || set.type = .aaaa) && hosts.any (· ≈ set.name)
  ((setsInClass message .additional recordClass).filter wanted).map fun set =>
    .set set (.ofSection .additional message.authoritative)

/-- What the end of a trail adds: what is to be kept, the hosts that matter, and what there is to
report. -/
structure Ending where
  writes : List Write
  hosts : List Name
  outcome : Outcome
deriving DecidableEq

/-- The end of a trail that met sets that answer. The servers of the zone are worth keeping, unless
the response says at the same time that the name does not exist. -/
def endWithAnswer (message : Message) (trail : Trail) (servers : Option RRset) : Ending :=
  let hosts := trail.finals.flatMap namedHosts
  match servers with
  | some set =>
    if message.result = .noError then
      ⟨[.set set (.ofSection .authority message.authoritative)], hosts ++ namedHosts set,
        .successful trail.finals⟩
    else
      ⟨[], hosts, .successful trail.finals⟩
  | none => ⟨[], hosts, .successful trail.finals⟩

/-- The outcome of a trail that met no answer: the first alias, if there was one. -/
def firstAliasOr (trail : Trail) (outcome : Outcome) : Outcome :=
  match trail.used with
  | [] => outcome
  | set :: _ => aliasOutcome set

/-- The end of a trail at which something does not exist: the name, or the type at the name. That
all types are missing is not recorded. -/
def endWithAbsence (message : Message) (type : RecordType) (trail : Trail)
    (zone : Option RRset) : Ending :=
  let missing := message.result = .nxDomain
  let key := if missing then EntryKey.name else .type type
  let zoneStart := zone.bind fun set => set.records.head?
  let credibility := Credibility.ofSection .authority message.authoritative
  let writes :=
    if key = .type .any then [] else [Write.absence trail.current key zoneStart credibility]
  ⟨writes, [], firstAliasOr trail (if missing then .nxDomain else .nxRRset)⟩

/-- The end of a trail at which other servers have to be asked. -/
def endWithServers (message : Message) (trail : Trail) (servers : RRset) : Ending :=
  ⟨[.set servers (.ofSection .authority message.authoritative)], namedHosts servers,
    firstAliasOr trail (.delegation servers)⟩

/-- The end of a trail. Without an answer, servers of a zone that the name lies in mean that they
have to be asked, unless the response also tells where that zone starts or that the name does not
exist. -/
def endingOf (message : Message) (type : RecordType) (trail : Trail) (authority : List RRset) :
    Ending :=
  let zone := covering? authority .soa trail.current
  let servers := covering? authority .ns trail.current
  if !trail.finals.isEmpty then
    endWithAnswer message trail servers
  else
    match servers with
    | some set =>
      if message.result ≠ .nxDomain ∧ zone = none then
        endWithServers message trail set
      else
        endWithAbsence message type trail zone
    | none => endWithAbsence message type trail zone

/-! ### Responses -/

/-- What a response to a question says. -/
def digestFor (message : Message) (question : Question) : Digest :=
  let answers := setsInClass message .answer question.recordClass
  let authority := setsInClass message .authority question.recordClass
  let trail := trailOf question answers
  let ending := endingOf message question.type trail authority
  let answerWrites := (trail.used ++ trail.finals).map fun set =>
    Write.set set (.ofSection .answer message.authoritative)
  ⟨answerWrites ++ ending.writes ++ addressWrites message question.recordClass ending.hosts,
    ⟨ending.outcome, if trail.finals.isEmpty then [] else trail.aliases⟩⟩

/-- What a message says, if it has a question and a result that can be learned from. -/
def digest? (message : Message) : Option Digest :=
  match message.question with
  | some question =>
    if message.result.isCacheable then some (digestFor message question) else none
  | none => none

end StubResolver.Cache
