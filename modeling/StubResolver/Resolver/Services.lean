/-
This file names what a resolution is given to work with: the options that say how to look, and the
services of a cache and of a sender. The services act on a state of their own, of which a
resolution knows nothing; so what is said about resolutions holds for every cache and every sender,
however they behave.
-/

import StubResolver.Credibility
import StubResolver.Error
import StubResolver.Message
import StubResolver.Outcome

namespace StubResolver

/-- How a name is looked up. -/
structure LookupOptions where
  /-- Suffixes that complete relative names, in the order in which they are tried. -/
  searchPath : List Name
  /-- A relative name with more labels than this is first tried as it is. -/
  ndots : Nat
  /-- The least credibility of cached data that is used. -/
  credibility : Credibility
deriving DecidableEq

/-- What is looked up when nothing is said about how. -/
def LookupOptions.default : LookupOptions := ⟨[], 1, .normal⟩

/-- What is looked up, and how. -/
structure Request where
  name : Name
  type : RecordType
  recordClass : RecordClass
  options : LookupOptions
deriving DecidableEq

/-- The services that a resolution uses. -/
structure Services (World : Type) where
  /-- Asks the cache about a name and a type. -/
  lookup : World → Name → RecordType → Credibility → Outcome × World
  /-- Has the cache learn from a response, if it can. -/
  ingest : World → Message → Option Ingested × World
  /-- Sends a query and waits for the response. -/
  send : World → Message → Except Error Message × World

end StubResolver
