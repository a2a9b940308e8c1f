/-
This file fixes what a DNS message is, as far as resolving is concerned: a header, at most one
question, and three sections of records. The records of a section are read as sets: a record joins
the first set that accepts it and starts a new one when none does, so that sets come in the order
in which their first records stand.
-/

import StubResolver.Credibility
import StubResolver.RRset
import StubResolver.ResponseCode

namespace StubResolver

/-- What is asked for. -/
structure Question where
  name : Name
  type : RecordType
  recordClass : RecordClass
deriving DecidableEq

namespace Question

/-- A question with the capitals of its name lowered. -/
def lowered (question : Question) : Question := { question with name := question.name.lowered }

/-- Questions are the same when they differ at most in the case of letters. -/
instance : Setoid Question where
  r first second := first.lowered = second.lowered
  iseqv := ⟨fun _ => rfl, Eq.symm, Eq.trans⟩

instance (first second : Question) : Decidable (first ≈ second) :=
  inferInstanceAs (Decidable (first.lowered = second.lowered))

/-- A question as text. -/
def text (question : Question) : String :=
  " ".intercalate [question.name.text, question.recordClass.text, question.type.text]

end Question

/-- A message, as the cache and the resolver see it. -/
structure Message where
  id : UInt16
  response : Bool
  authoritative : Bool
  truncated : Bool
  recursionDesired : Bool
  recursionAvailable : Bool
  result : ResponseCode
  question : Option Question
  answers : List Record
  authority : List Record
  additional : List Record
deriving DecidableEq

namespace Message

/-- A message without content. -/
def blank : Message :=
  ⟨0, false, false, false, false, false, .noError, none, [], [], []⟩

/-- The query that asks a question and wants the server to find out. -/
def query (question : Question) : Message :=
  { blank with recursionDesired := true, question := some question }

/-- An empty response to a query, from a server that finds things out. -/
def responseTo (query : Message) : Message :=
  { blank with
    id := query.id
    response := true
    recursionDesired := query.recursionDesired
    recursionAvailable := true
    question := query.question }

/-- The records of a section. The question is no record. -/
def records (message : Message) : Section → List Record
  | .question => []
  | .answer => message.answers
  | .authority => message.authority
  | .additional => message.additional

/-- Sets with one more record: it joins the first set that accepts it, or starts one of its own. -/
def placeRecord (record : Record) : List RRset → List RRset
  | [] => [RRset.ofRecord record]
  | set :: rest =>
    if set.accepts record then set.insert record :: rest else set :: placeRecord record rest

/-- Records as sets, in order of first appearance. -/
def groupRecords (records : List Record) : List RRset :=
  records.foldl (fun sets record => placeRecord record sets) []

/-- The records of a section as sets. -/
def sets (message : Message) (part : Section) : List RRset := groupRecords (message.records part)

end Message

end StubResolver
