/-
This file lists the ways in which the resolver fails to produce an answer, as causes: a name that
cannot be read or does not fit, a type that no cache may hold, a response that makes no sense, and
the failures of the transport below. The wording of every cause is written once, in
`Error.message`. The two classes at the end separate the failures after which the server may
simply be asked again from those that asking again does not mend.
-/

namespace StubResolver

/-- Why an operation of the resolver has no answer. The detail of a cause is text because a
transport reports in its own words, and the resolver passes them on unchanged. -/
inductive Error where
  /-- A text or a combination of labels is not a domain name. -/
  | invalidName (detail : String)
  /-- A name would take more octets on the wire than a name may take. -/
  | nameTooLong (detail : String)
  /-- A type that only questions and transactions use was offered as data. -/
  | metaType (detail : String)
  /-- A server answered with something that cannot be read. -/
  | invalidResponse (detail : String)
  /-- Reading or writing failed below the resolver. -/
  | inputOutput (detail : String)
  /-- No server answered in time. -/
  | queryTimeout
  /-- A connection to the server was not established in time. -/
  | connectTimeout (server : String)
  /-- The server refused the connection. -/
  | connectionRefused (server : String)
  /-- The configuration does not describe a usable resolver. -/
  | configuration (detail : String)
deriving DecidableEq, Repr

namespace Error

/-- The wording of a cause, as a user sees it. -/
def message : Error → String
  | invalidName detail => "Invalid domain name: " ++ detail
  | nameTooLong detail => "Name too long: " ++ detail
  | metaType detail => "Meta type " ++ detail ++ " cannot be cached"
  | invalidResponse detail => "Invalid DNS response: " ++ detail
  | inputOutput detail => "I/O error: " ++ detail
  | queryTimeout => "Query timeout"
  | connectTimeout server => "Transport timeout connecting to " ++ server
  | connectionRefused server => "Transport connection refused by " ++ server
  | configuration detail => "Configuration error: " ++ detail

/-- Failures in which the sender gave up waiting for the server. -/
def isTimeout : Error → Bool
  | queryTimeout | connectTimeout _ => true
  | _ => false

/-- Failures of the transport itself, as opposed to a bad input or a bad answer. A timeout is one
of them. -/
def isNetwork : Error → Bool
  | queryTimeout | connectTimeout _ | connectionRefused _ | inputOutput _ => true
  | _ => false

theorem isNetwork_of_isTimeout (error : Error) (timeout : error.isTimeout = true) :
    error.isNetwork = true := by
  cases error <;> first | rfl | exact absurd timeout Bool.false_ne_true

end Error

end StubResolver
