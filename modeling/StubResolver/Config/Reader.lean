/-
This file reads settings from a TOML document. A setting that the document does not mention keeps
its default, and keys that name no setting are passed over. A setting of the wrong kind, or out of
range, makes the whole document unusable.

A group of settings may be given as a table, and also as a list, which gives the settings in their
order and may end early.
-/

import StubResolver.Config.Basic
import StubResolver.Toml.Reader

namespace StubResolver

open Toml (Value Entries)

/-! ### Single settings -/

/-- A setting, or its default when it is not mentioned. -/
def setting {Setting : Type} (entries : Entries) (key : String) (default : Setting)
    (read : Value → Option Setting) : Option Setting :=
  match entries.lookup key with
  | some value => read value
  | none => some default

/-- A text. -/
def readTextSetting : Value → Option String
  | .text value => some value
  | _ => none

/-- A truth value. -/
def readTruthSetting : Value → Option Bool
  | .truth value => some value
  | _ => none

/-- A whole number within bounds. -/
def readWholeSetting (least greatest : Int) : Value → Option Int
  | .whole value => if least ≤ value ∧ value ≤ greatest then some value else none
  | _ => none

/-- A list of texts. -/
def readTextsSetting : Value → Option (List String)
  | .list items => items.mapM readTextSetting
  | _ => none

/-- A whole number of 64 bits, without a sign. -/
def readCountSetting (value : Value) : Option UInt64 :=
  (readWholeSetting 0 (UInt64.size - 1) value).map fun whole => whole.toNat.toUInt64

/-- A whole number of 32 bits, without a sign. -/
def readSecondsSetting (value : Value) : Option UInt32 :=
  (readWholeSetting 0 (UInt32.size - 1) value).map fun whole => whole.toNat.toUInt32

/-- A whole number of 64 bits, with a sign. -/
def readMinutesSetting (value : Value) : Option Int64 :=
  (readWholeSetting Int64.minValue.toInt Int64.maxValue.toInt value).map Int.toInt64

/-- A credibility, given by its word, or by the word as the only key of a table that has nothing
under it. -/
def readCredibilitySetting : Value → Option Credibility
  | .text word => Credibility.parse? word
  | .table _ [(word, .list [])] => Credibility.parse? word
  | .table _ [(word, .table _ [])] => Credibility.parse? word
  | _ => none

/-! ### Groups of settings -/

/-- The settings of a group under their names. A moment mentions no setting. -/
def readGroupSetting (names : List String) : Value → Option Entries
  | .table _ entries => some entries
  | .list items => some (names.zip items)
  | .series elements => some (names.zip (elements.map (Value.table .header)))
  | .moment => some []
  | _ => none

/-- The settings of looking up names. -/
def ResolverConfig.read (value : Value) : Option ResolverConfig := do
  let entries ← readGroupSetting
    ["servers", "search", "ndots", "query_timeout_ms", "credibility", "use_resolv_conf"] value
  some {
    servers := ← setting entries "servers" default.servers readTextsSetting
    search := ← setting entries "search" default.search readTextsSetting
    ndots := ← setting entries "ndots" default.ndots readCountSetting
    queryTimeoutMs := ← setting entries "query_timeout_ms" default.queryTimeoutMs readCountSetting
    credibility := ← setting entries "credibility" default.credibility readCredibilitySetting
    useResolvConf := ← setting entries "use_resolv_conf" default.useResolvConf readTruthSetting }

/-- The settings of caches. -/
def CacheConfig.read (value : Value) : Option CacheConfig := do
  let entries ← readGroupSetting
    ["max_entries", "max_positive_ttl", "max_negative_ttl", "cleanup_interval_minutes"] value
  let longest (value : Value) : Option (Option UInt32) := (readSecondsSetting value).map some
  some {
    maxEntries := ← setting entries "max_entries" default.maxEntries readCountSetting
    maxPositiveTtl := ← setting entries "max_positive_ttl" default.maxPositiveTtl longest
    maxNegativeTtl := ←
      setting entries "max_negative_ttl" default.maxNegativeTtl readSecondsSetting
    cleanupIntervalMinutes := ←
      setting entries "cleanup_interval_minutes" default.cleanupIntervalMinutes
        readMinutesSetting }

/-- The settings of logging. -/
def LoggingConfig.read (value : Value) : Option LoggingConfig := do
  let entries ← readGroupSetting ["level"] value
  some { level := ← setting entries "level" default.level readTextSetting }

/-- All settings of a document. -/
def Config.ofEntries? (entries : Entries) : Option Config := do
  some {
    resolver := ← setting entries "resolver" default.resolver ResolverConfig.read
    cache := ← setting entries "cache" default.cache CacheConfig.read
    logging := ← setting entries "logging" default.logging LoggingConfig.read }

/-- All settings of a text. -/
def Config.parse? (text : String) : Option Config :=
  (Toml.read text.toList).bind Config.ofEntries?

end StubResolver
