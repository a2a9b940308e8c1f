/-
This file fixes what a cache can say about a name and a type, and what a resolution ends with. An
outcome that carries records gives them out only under the name they were found under: asking one
kind of outcome for the records of another is a mistake of the caller, and is reported as one.
-/

import StubResolver.RRset

namespace StubResolver

/-- The number of aliases at which a resolution gives up: it follows fewer. -/
def maxAliases : Nat := 6

/-! ### Outcomes -/

/-- What is known about a name and a type. -/
inductive Outcome where
  /-- Nothing usable is known. -/
  | unknown
  /-- The name does not exist. -/
  | nxDomain
  /-- The name has no records of the type. -/
  | nxRRset
  /-- The name lies in a zone whose servers have to be asked. -/
  | delegation (servers : RRset)
  /-- The name stands for another. -/
  | cname (target : RRset)
  /-- The name lies below one whose whole subtree is redirected. -/
  | dname (redirection : RRset)
  /-- The records. There are several sets only when all types were asked for. -/
  | successful (answers : List RRset)
deriving DecidableEq

namespace Outcome

/-- An answer that is one set. -/
def single (set : RRset) : Outcome := successful [set]

/-- The kind of an outcome as text. -/
def kind : Outcome → String
  | unknown => "unknown"
  | nxDomain => "NXDOMAIN"
  | nxRRset => "NXRRSET"
  | delegation _ => "delegation"
  | cname _ => "CNAME"
  | dname _ => "DNAME"
  | successful _ => "successful"

/-- An outcome as text. -/
def text (outcome : Outcome) : String :=
  match outcome with
  | delegation set | cname set | dname set => outcome.kind ++ ": " ++ set.text
  | successful sets => sets.foldl (fun line set => line ++ " " ++ set.text) "successful:"
  | _ => outcome.kind

/-- Whether an outcome says nothing. -/
def isUnknown : Outcome → Bool
  | unknown => true
  | _ => false

/-- Records asked of an outcome of the wrong kind. -/
structure WrongKind where
  asked : String
  outcome : Outcome

/-- What is reported when records are asked of an outcome of the wrong kind. -/
def WrongKind.message (mistake : WrongKind) : String :=
  mistake.asked ++ "() called on " ++ mistake.outcome.kind ++ " outcome"

/-- The sets of an answer. -/
def answers : Outcome → Except WrongKind (List RRset)
  | successful sets => .ok sets
  | outcome => .error ⟨"answers", outcome⟩

/-- The set that says what a name stands for. -/
def aliasSet : Outcome → Except WrongKind RRset
  | cname set => .ok set
  | outcome => .error ⟨"cname", outcome⟩

/-- The set that redirects a subtree. -/
def redirection : Outcome → Except WrongKind RRset
  | dname set => .ok set
  | outcome => .error ⟨"dname", outcome⟩

/-- The servers of the zone to ask. -/
def servers : Outcome → Except WrongKind RRset
  | delegation set => .ok set
  | outcome => .error ⟨"ns", outcome⟩

end Outcome

/-- What a cache learned from a response: what it says about its question, and the aliases that
were crossed to reach the answer. -/
structure Ingested where
  outcome : Outcome
  aliases : List Name
deriving DecidableEq

/-! ### Resolutions -/

/-- How a resolution ended. -/
inductive Status where
  | successful
  | unrecoverable
  | tryAgain
  | hostNotFound
  | typeNotFound
deriving DecidableEq, Repr

/-- How a resolution ended, as text. -/
def Status.text : Status → String
  | successful => "successful"
  | unrecoverable => "unrecoverable error"
  | tryAgain => "try again"
  | hostNotFound => "host not found"
  | typeNotFound => "type not found"

/-- The result of a resolution. -/
structure Resolution where
  status : Status
  /-- What more is known about the end: a loop, a result code, a timeout; otherwise the text of the
  status. -/
  reason : String
  answers : List RRset
  /-- The aliases crossed on the way to the answer, in order. -/
  aliases : List Name
deriving DecidableEq

namespace Resolution

/-- A resolution that ended without records. -/
def ofStatus (status : Status) : Resolution := ⟨status, status.text, [], []⟩

/-- Whether a resolution found records. -/
def isSuccessful (resolution : Resolution) : Bool := resolution.status = .successful

/-- All records that a resolution found, signatures apart. -/
def records (resolution : Resolution) : List Record := resolution.answers.flatMap RRset.records

end Resolution

end StubResolver
