/-
This file gives networks and caches that follow a script, so that a resolution can be tried out
without any other. A scripted network answers a query by the first rule that matches it and has not
been used up; a scripted cache answers from a list, and learns from a response what the list says.
Both take down what they have been asked.
-/

import StubResolver.Resolver.Resolve

namespace StubResolver

/-! ### Networks -/

/-- What servers answer to a question. -/
abbrev Reply := Question → Except Error Message

/-- When servers answer, and what. -/
structure ScriptRule where
  /-- The name that is asked for, if it matters. -/
  name : Option Name
  /-- The type that is asked for, if it matters. -/
  type : Option RecordType
  /-- How often the rule may still be used, if that is limited. -/
  uses : Option Nat
  reply : Reply

/-- Whether a rule may answer a question. -/
def ScriptRule.answers (rule : ScriptRule) (question : Question) : Bool :=
  rule.name.all (fun name => decide (name ≈ question.name)) &&
    rule.type.all (fun type => decide (type = question.type)) && rule.uses ≠ some 0

/-- A network that follows a script. -/
structure ScriptedNetwork where
  rules : List ScriptRule
  /-- What servers answer when no rule does. -/
  otherwise : Reply
  /-- The queries that have been sent. -/
  queries : List String

namespace ScriptedNetwork

/-- The reply of the first rule that answers a question, and the rules with that use counted. -/
def use (question : Question) : List ScriptRule → Option Reply × List ScriptRule
  | [] => (none, [])
  | rule :: rest =>
    if rule.answers question then
      (some rule.reply, { rule with uses := rule.uses.map (· - 1) } :: rest)
    else
      let (reply, rest) := use question rest
      (reply, rule :: rest)

/-- Sends a query. One without a question gets no answer. -/
def send : Sender ScriptedNetwork := fun network query =>
  match query.question with
  | none => (.error .queryTimeout, network)
  | some question =>
    let line := question.text ++ " rd=" ++ toString query.recursionDesired
    let (found, rules) := use question network.rules
    (found.getD network.otherwise question,
      { network with rules := rules, queries := network.queries ++ [line] })

end ScriptedNetwork

/-! ### Caches -/

/-- A cache that follows a script. -/
structure ScriptedCache where
  /-- What is known about names and types. Nothing is known about others. -/
  outcomes : List (Name × RecordType × Outcome)
  /-- What is learned from the responses to questions for a name. -/
  lessons : List (Name × Option Ingested)

namespace ScriptedCache

/-- What is known about a name and a type. -/
def outcome (cache : ScriptedCache) (name : Name) (type : RecordType) : Outcome :=
  match cache.outcomes.find? fun (known, about, _) => known ≈ name ∧ about = type with
  | some (_, _, outcome) => outcome
  | none => .unknown

/-- What is learned from a response. -/
def lesson (cache : ScriptedCache) (message : Message) : Option Ingested := do
  let question ← message.question
  let (_, ingested) ← cache.lessons.find? fun (known, _) => known ≈ question.name
  ingested

/-- The services of a scripted cache and a scripted network, where a log takes down what the cache
has been asked. -/
def services (cache : ScriptedCache) : Services (ScriptedNetwork × List String) where
  lookup := fun (network, log) name type least =>
    let line := " ".intercalate ["lookup", name.text, type.text, least.text]
    (cache.outcome name type, network, log ++ [line])
  ingest := fun (network, log) message =>
    let line := "ingest " ++ (message.question.map Question.text).getD "nothing"
    (cache.lesson message, network, log ++ [line])
  send := fun (network, log) query =>
    let (response, later) := network.send query
    (response, later, log)

end ScriptedCache

end StubResolver
