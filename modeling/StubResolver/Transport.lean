/-
This file names the servers that a configuration asks for and the two ways to reach them: datagrams
first, and a connection for what does not fit into one. A forwarder is set up to use one of these
ways with some servers. Nothing is sent here.
-/

import StubResolver.Address.Reader
import StubResolver.Config.Basic

namespace StubResolver

/-! ### Transports -/

/-- A way to reach a server. -/
inductive Transport where
  /-- By datagrams. -/
  | udp (server : ServerAddress)
  /-- By a connection. -/
  | tcp (server : ServerAddress)
deriving DecidableEq

namespace Transport

/-- The name of the protocol. -/
def protocol : Transport → String
  | udp _ => "UDP"
  | tcp _ => "TCP"

/-- The server that is reached. -/
def server : Transport → ServerAddress
  | udp server | tcp server => server

end Transport

/-! ### Servers -/

/-- The servers of a configuration, in order. The first that is no address is reported. -/
def ResolverConfig.serverAddresses (config : ResolverConfig) :
    Except Error (List ServerAddress) :=
  config.servers.mapM ServerAddress.parse

/-! ### Forwarders -/

/-- How a forwarder sends its queries. -/
inductive Forwarding where
  /-- By datagrams, and again by a connection when a response was cut short. -/
  | datagrams
  /-- By connections alone. -/
  | connections
deriving DecidableEq

/-- What is to pass queries on to servers, which are tried in order. -/
structure Forwarder where
  way : Forwarding
  servers : List ServerAddress
  /-- How long a server has for its answer. -/
  timeoutMs : UInt64
deriving DecidableEq

/-- The forwarder to the servers of a configuration. -/
def Forwarder.ofConfig (way : Forwarding) (config : ResolverConfig) : Except Error Forwarder :=
  config.serverAddresses.map fun servers => ⟨way, servers, config.queryTimeoutMs⟩

/-- The server on the same machine. -/
def localServer : ServerAddress := .v4 ⟨127, 0, 0, 1⟩ dnsPort

/-- Why nothing can be sent to some servers, whichever way it would be sent: there are none. -/
def sendingFault? (servers : List ServerAddress) : Option Error :=
  if servers.isEmpty then some (.configuration "No nameservers configured") else none

end StubResolver
