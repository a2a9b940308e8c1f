/-
This file reads the resolver configuration of a system, in the format that most systems share: lines
of words, of which the first is a keyword. Servers add up, while the last search list and the last
value of an option win. Keywords and options that are not known are passed over, since other
programs read the file too.

Such a file completes other settings: its servers and its search list serve where there are none,
and its options always hold.
-/

import StubResolver.Address.Reader
import StubResolver.Config.File
import StubResolver.Name.Printer

namespace StubResolver

/-- What a system says about resolving. -/
structure ResolvConf where
  /-- The addresses of servers, which all answer on the usual port. -/
  nameservers : List Address
  /-- The search list. -/
  search : List Name
  /-- The number of labels that makes a name likely to be complete. -/
  ndots : Option UInt64
  /-- How many seconds a server has for its answer. -/
  timeout : Option UInt64
deriving DecidableEq

namespace ResolvConf

/-- What a system says that says nothing. -/
def empty : ResolvConf := ⟨[], [], none, none⟩

/-! ### Reading -/

/-- The first word after a keyword that needs one. -/
def argument (keyword : String) : List (List Char) → Except Error (List Char)
  | [] => .error (.configuration ("'" ++ keyword ++ "' needs an argument"))
  | word :: _ => .ok word

/-- Reads the address of a server. -/
def readNameserver (word : List Char) : Except Error Address :=
  match Address.parse? word with
  | some address => .ok address
  | none => .error (.configuration ("Invalid nameserver '" ++ String.ofList word ++ "'"))

/-- Reads a domain of the search list, which is absolute however it is written. -/
def readDomain (word : List Char) : Except Error Name :=
  (Name.parse (String.ofList word)).map Name.toAbsolute

/-- The greatest value of an option. -/
def greatestOption : Nat := UInt64.size - 1

/-- An option with its value, if that is what a word is. -/
def readOption? (word : List Char) : Option (List Char × UInt64) :=
  match word.dropWhile (· != ':') with
  | ':' :: value =>
    (readCount? greatestOption value).map fun value =>
      (word.takeWhile (· != ':'), value.toUInt64)
  | _ => none

/-- The configuration with an option. -/
def addOption (conf : ResolvConf) (word : List Char) : ResolvConf :=
  match readOption? word with
  | some (name, value) =>
    if name = "ndots".toList then { conf with ndots := some value }
    else if name = "timeout".toList then { conf with timeout := some value }
    else conf
  | none => conf

/-- The configuration with a line, given as its words. Comments start with a semicolon or a number
sign, and no keyword does. -/
def addLine (conf : ResolvConf) : List (List Char) → Except Error ResolvConf
  | [] => .ok conf
  | keyword :: words =>
    if keyword = "nameserver".toList then do
      let address ← readNameserver (← argument "nameserver" words)
      return { conf with nameservers := conf.nameservers ++ [address] }
    else if keyword = "domain".toList then do
      let domain ← readDomain (← argument "domain" words)
      return { conf with search := [domain] }
    else if keyword = "search".toList then do
      return { conf with search := ← words.mapM readDomain }
    else if keyword = "options".toList then
      .ok (words.foldl addOption conf)
    else
      .ok conf

/-- Reads a configuration. -/
def parse (text : String) : Except Error ResolvConf :=
  (lines text.toList).foldlM (fun conf line => conf.addLine (words line)) empty

/-- The file in which a system says how it resolves names. -/
def systemPath : String := "/etc/resolv.conf"

/-- Reads the configuration in a file. -/
def load (files : Files) (path : String) : Except Error ResolvConf :=
  match files path with
  | .ok text => parse text
  | .error fault => .error (.inputOutput (path ++ ": " ++ fault.message))

/-! ### Completing settings -/

/-- The servers with their ports. -/
def servers (conf : ResolvConf) : List ServerAddress :=
  conf.nameservers.map (Address.atPort dnsPort)

/-- The time that a number of seconds makes in milliseconds, which are counted in 64 bits. -/
def milliseconds (seconds : UInt64) : UInt64 := seconds * 1000

/-- The settings completed by those of the system. -/
def applyTo (conf : ResolvConf) (config : ResolverConfig) : ResolverConfig :=
  { config with
    servers :=
      if config.servers.isEmpty then conf.servers.map ServerAddress.text else config.servers
    search := if config.search.isEmpty then conf.search.map Name.text else config.search
    ndots := conf.ndots.getD config.ndots
    queryTimeoutMs := (conf.timeout.map milliseconds).getD config.queryTimeoutMs }

end ResolvConf

end StubResolver
