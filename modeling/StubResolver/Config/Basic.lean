/-
This file fixes what can be configured: which servers are asked and how, what a cache may hold and
for how long, and how much is logged. Every setting has a default.
-/

import StubResolver.Cache.Basic
import StubResolver.Credibility

namespace StubResolver

/-- Which servers are asked, and how names are looked up. -/
structure ResolverConfig where
  /-- Servers, with or without a port. -/
  servers : List String
  /-- Suffixes that complete relative names, in the order in which they are tried. -/
  search : List String
  /-- A relative name with more labels than this is first tried as it is. -/
  ndots : UInt64
  /-- How long a server has for its answer. -/
  queryTimeoutMs : UInt64
  /-- The least credibility of cached data that is used. -/
  credibility : Credibility
  /-- Whether the configuration of the system is to be used as well. -/
  useResolvConf : Bool
deriving DecidableEq

/-- What a cache may hold, and for how long. -/
structure CacheConfig where
  /-- How many names; zero means any number. -/
  maxEntries : UInt64
  /-- The longest lifetime of records, in seconds. -/
  maxPositiveTtl : Option UInt32
  /-- The longest lifetime of absences, in seconds. -/
  maxNegativeTtl : UInt32
  /-- Minutes between sweeps; there are none for zero and for negative numbers. -/
  cleanupIntervalMinutes : Int64
deriving DecidableEq

/-- How much is logged. -/
structure LoggingConfig where
  level : String
deriving DecidableEq

/-- All settings. -/
structure Config where
  resolver : ResolverConfig
  cache : CacheConfig
  logging : LoggingConfig
deriving DecidableEq

/-! ### Defaults -/

/-- The defaults of looking up names. -/
def ResolverConfig.default : ResolverConfig := ⟨[], [], 1, 5000, .normal, false⟩

/-- The defaults of caches. -/
def CacheConfig.default : CacheConfig := ⟨50000, none, 10800, 30⟩

/-- The defaults of logging. -/
def LoggingConfig.default : LoggingConfig := ⟨"info"⟩

/-- All defaults. -/
def Config.default : Config := ⟨.default, .default, .default⟩

/-- The limits that a configuration sets to a cache. -/
def CacheConfig.limits (config : CacheConfig) : CacheLimits :=
  ⟨config.maxEntries.toNat, config.maxPositiveTtl, config.maxNegativeTtl⟩

end StubResolver
