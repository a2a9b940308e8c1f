/-
This file says which settings make sense: every server has to be an address, with or without a
port, every domain of the search path has to be a name, and a server needs some time for its answer.
What is found first is reported, in this order.
-/

import StubResolver.Address.Reader
import StubResolver.Config.Basic
import StubResolver.Name.Reader

namespace StubResolver

/-- Why settings make no sense. -/
inductive ConfigFlaw where
  | server (text : String)
  | searchDomain (text : String) (error : Error)
  | noTime
deriving DecidableEq

/-- The wording of a flaw. -/
def ConfigFlaw.message : ConfigFlaw → String
  | server text => "Invalid nameserver address '" ++ text ++ "'"
  | searchDomain text error => "Invalid search domain '" ++ text ++ "': " ++ error.message
  | noTime => "Query timeout cannot be 0"

/-- Whether a server is an address, with or without a port. -/
def isServer (text : String) : Bool :=
  (ServerAddress.parseWithPort? text.toList).isSome || (Address.parse? text.toList).isSome

/-- The flaw of a server that is no address. -/
def serverFlaw? (text : String) : Option ConfigFlaw :=
  if isServer text then none else some (.server text)

/-- The flaw of a domain that is no name. -/
def searchFlaw? (text : String) : Option ConfigFlaw :=
  match Name.parse text with
  | .ok _ => none
  | .error error => some (.searchDomain text error)

namespace ResolverConfig

/-- The flaw of leaving no time for an answer. -/
def timeFlaw? (config : ResolverConfig) : Option ConfigFlaw :=
  if config.queryTimeoutMs = 0 then some .noTime else none

/-- The first flaw. -/
def flaw? (config : ResolverConfig) : Option ConfigFlaw :=
  ((config.servers.findSome? serverFlaw?).or (config.search.findSome? searchFlaw?)).or
    config.timeFlaw?

end ResolverConfig

/-- The first flaw of all settings. Those of caches and of logging have none. -/
def Config.flaw? (config : Config) : Option ConfigFlaw := config.resolver.flaw?

end StubResolver
