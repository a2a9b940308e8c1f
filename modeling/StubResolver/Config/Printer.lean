/-
This file writes settings as a TOML document, with a table for each group and every setting in it,
whether it is the default or not. Only a setting that has no value is left out. A list of several
texts has a line for each.
-/

import StubResolver.Config.Basic
import StubResolver.Toml.Text

namespace StubResolver

/-- A text in quotes. -/
def quotedText (text : String) : String := String.ofList (Toml.quote text.toList)

/-- A list of texts. -/
def listText : List String → String
  | [] => "[]"
  | [item] => "[" ++ quotedText item ++ "]"
  | items => "[\n" ++ String.join (items.map fun item => "    " ++ quotedText item ++ ",\n") ++ "]"

/-- A truth value. -/
def truthText (value : Bool) : String := if value then "true" else "false"

/-- A group of settings under its header. -/
def groupText (header : String) (settings : List (String × String)) : String :=
  "[" ++ header ++ "]\n" ++
    String.join (settings.map fun (key, value) => key ++ " = " ++ value ++ "\n")

/-- The settings of looking up names. -/
def ResolverConfig.text (config : ResolverConfig) : String :=
  groupText "resolver" [
    ("servers", listText config.servers),
    ("search", listText config.search),
    ("ndots", toString config.ndots.toNat),
    ("query_timeout_ms", toString config.queryTimeoutMs.toNat),
    ("credibility", quotedText config.credibility.text),
    ("use_resolv_conf", truthText config.useResolvConf)]

/-- The settings of caches. -/
def CacheConfig.text (config : CacheConfig) : String :=
  let longest := match config.maxPositiveTtl with
    | some bound => [("max_positive_ttl", toString bound.toNat)]
    | none => []
  groupText "cache" (
    ("max_entries", toString config.maxEntries.toNat) :: longest ++ [
    ("max_negative_ttl", toString config.maxNegativeTtl.toNat),
    ("cleanup_interval_minutes", toString config.cleanupIntervalMinutes.toInt)])

/-- The settings of logging. -/
def LoggingConfig.text (config : LoggingConfig) : String :=
  groupText "logging" [("level", quotedText config.level)]

/-- All settings. -/
def Config.text (config : Config) : String :=
  "\n".intercalate [config.resolver.text, config.cache.text, config.logging.text]

end StubResolver
