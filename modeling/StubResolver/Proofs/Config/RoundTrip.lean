/-
This file proves that nothing is lost when a configuration is saved: the text that is written is
read as the configuration it was written for, whatever texts, lists and numbers are in it.

Writing and reading meet in the document. What the writer puts behind a key means a value, and the
reader of the setting takes that value for what the writer had. A setting without a value is not
written at all, and is then filled from its default, which has no value either. That is why it
survives; a default with a value would take its place.
-/

import StubResolver.Config.File
import StubResolver.Proofs.Toml.Documents
import Mathlib.Logic.Function.Basic

namespace StubResolver

open Toml

/-! ### Values -/

theorem quotedText_means (text : String) : Means (quotedText text).toList (.text text) := by
  unfold quotedText
  rw [String.toList_ofList]
  simpa using quote_means text.toList

/-- A list of texts means the texts, whatever it takes of lines. -/
theorem listText_means (items : List String) :
    Means (listText items).toList (.list (items.map .text)) := by
  match items with
  | [] => exact noItems_means
  | [item] =>
    have written : (listText [item]).toList = '[' :: (quote item.toList ++ [']']) := by
      simp [listText, quotedText]
    rw [written]
    simpa using oneItem_means item.toList
  | first :: second :: others =>
    have written : (listText (first :: second :: others)).toList =
        '[' :: '\n' :: (itemLines ((first :: second :: others).map String.toList) ++ [']']) := by
      simp [listText, quotedText, itemLines, String.toList_join, List.flatMap_map]
    have same : ((first :: second :: others).map String.toList).map
        (fun item => Value.text (String.ofList item)) = (first :: second :: others).map .text := by
      rw [List.map_map]
      exact List.map_congr_left fun item _ => congrArg Value.text String.ofList_toList
    rw [written, ← same]
    exact itemLines_means _

theorem truthText_means (value : Bool) : Means (truthText value).toList (.truth value) :=
  truth_means value

/-- All whole numbers that a setting can have are short enough for a document. -/
theorem fits128_of_bounds {value : Int} (low : Int64.minValue.toInt ≤ value)
    (high : value < UInt64.size) : fits128 value = true := by
  have signed : -(Nat.pow 2 127 : Int) ≤ Int64.minValue.toInt := by decide
  have unsigned : (UInt64.size : Int) < Nat.pow 2 128 := by decide
  unfold fits128
  rw [decide_eq_true_eq]
  exact ⟨Int.le_trans signed low, Int.lt_trans high unsigned⟩

theorem fits128_natCast {value : Nat} (high : value < UInt64.size) : fits128 value = true := by
  have negative : Int64.minValue.toInt ≤ 0 := by decide
  exact fits128_of_bounds (Int.le_trans negative (Int.natCast_nonneg value)) (Int.ofNat_lt.mpr high)

theorem countText_means (value : UInt64) :
    Means (toString value.toNat).toList (.whole value.toNat) := by
  rw [toList_toString_nat]
  exact numeralOf_means (fits128_natCast value.toNat_lt_size)

theorem secondsText_means (value : UInt32) :
    Means (toString value.toNat).toList (.whole value.toNat) := by
  have shorter : UInt32.size < UInt64.size := by decide
  rw [toList_toString_nat]
  exact numeralOf_means (fits128_natCast (Nat.lt_trans value.toNat_lt_size shorter))

theorem minutesText_means (value : Int64) :
    Means (toString value.toInt).toList (.whole value.toInt) := by
  have high : value.toInt < UInt64.size := Int.lt_trans value.toInt_lt (by decide)
  rw [toList_toString_int]
  exact numeralOf_means (fits128_of_bounds (Int64.minValue_le_toInt value) high)

/-! ### Settings -/

theorem readTextsSetting_texts (items : List String) :
    readTextsSetting (.list (items.map .text)) = some items := by
  show (items.map Value.text).mapM readTextSetting = _
  induction items with
  | nil => rfl
  | cons item items inductionHypothesis =>
    rw [List.map_cons, List.mapM_cons, inductionHypothesis]
    rfl

theorem readWholeSetting_whole {least greatest value : Int} (low : least ≤ value)
    (high : value ≤ greatest) : readWholeSetting least greatest (.whole value) = some value := by
  unfold readWholeSetting
  exact if_pos ⟨low, high⟩

theorem readCountSetting_whole (value : UInt64) :
    readCountSetting (.whole value.toNat) = some value := by
  have small := value.toNat_lt
  unfold readCountSetting
  rw [readWholeSetting_whole (by omega) (by simp only [UInt64.size]; omega)]
  simp

theorem readSecondsSetting_whole (value : UInt32) :
    readSecondsSetting (.whole value.toNat) = some value := by
  have small := value.toNat_lt
  unfold readSecondsSetting
  rw [readWholeSetting_whole (by omega) (by simp only [UInt32.size]; omega)]
  simp

theorem readMinutesSetting_whole (value : Int64) :
    readMinutesSetting (.whole value.toInt) = some value := by
  have low : Int64.minValue.toInt ≤ value.toInt := Int64.minValue_le_toInt value
  have high : value.toInt ≤ Int64.maxValue.toInt := Int64.toInt_le value
  unfold readMinutesSetting
  rw [readWholeSetting_whole low high]
  simp

theorem readCredibilitySetting_text (value : Credibility) :
    readCredibilitySetting (.text value.text) = some value := Credibility.parse?_text value

/-- What is under a key is read as the setting. -/
theorem setting_of_lookup {Setting : Type} {entries : Entries} {key : String} {value : Value}
    {default found : Setting} {read : Value → Option Setting}
    (present : entries.lookup key = some value) (reads : read value = some found) :
    setting entries key default read = some found := by
  unfold setting
  rw [present]
  exact reads

/-! ### Groups -/

theorem toList_groupText (group : Group) {settings : List (String × String)}
    (same : group.settings.map (fun setting => (setting.key, String.ofList setting.written)) =
      settings) :
    (groupText group.name settings).toList = linesText group.lines := by
  subst same
  simp [groupText, linesText, Group.lines, Setting.line, String.toList_join, List.flatMap_map]

/-- The settings of looking up names, with what they mean. -/
def ResolverConfig.group (config : ResolverConfig) : Group where
  name := "resolver"
  settings := [
    ⟨"servers", _, _, by decide, listText_means config.servers⟩,
    ⟨"search", _, _, by decide, listText_means config.search⟩,
    ⟨"ndots", _, _, by decide, countText_means config.ndots⟩,
    ⟨"query_timeout_ms", _, _, by decide, countText_means config.queryTimeoutMs⟩,
    ⟨"credibility", _, _, by decide, quotedText_means config.credibility.text⟩,
    ⟨"use_resolv_conf", _, _, by decide, truthText_means config.useResolvConf⟩]
  isKey := by decide
  distinct := by
    show List.Nodup ["servers", "search", "ndots", "query_timeout_ms", "credibility",
      "use_resolv_conf"]
    decide

theorem ResolverConfig.toList_text (config : ResolverConfig) :
    config.text.toList = linesText config.group.lines := by
  refine toList_groupText config.group ?_
  simp only [ResolverConfig.group, List.map_cons, List.map_nil, String.ofList_toList]

theorem ResolverConfig.read_group (config : ResolverConfig) :
    ResolverConfig.read config.group.entry.2 = some config := by
  have servers : setting config.group.entries "servers" default.servers readTextsSetting =
      some config.servers := setting_of_lookup rfl (readTextsSetting_texts _)
  have search : setting config.group.entries "search" default.search readTextsSetting =
      some config.search := setting_of_lookup rfl (readTextsSetting_texts _)
  have ndots : setting config.group.entries "ndots" default.ndots readCountSetting =
      some config.ndots := setting_of_lookup rfl (readCountSetting_whole _)
  have timeout : setting config.group.entries "query_timeout_ms" default.queryTimeoutMs
      readCountSetting = some config.queryTimeoutMs :=
    setting_of_lookup rfl (readCountSetting_whole _)
  have credibility : setting config.group.entries "credibility" default.credibility
      readCredibilitySetting = some config.credibility :=
    setting_of_lookup rfl (readCredibilitySetting_text _)
  have useResolvConf : setting config.group.entries "use_resolv_conf" default.useResolvConf
      readTruthSetting = some config.useResolvConf := setting_of_lookup rfl rfl
  simp only [ResolverConfig.read, Group.entry, readGroupSetting, Option.bind_eq_bind,
    Option.bind_some, servers, search, ndots, timeout, credibility, useResolvConf]

/-- The longest lifetime of records, if there is one. -/
def CacheConfig.longest (config : CacheConfig) : List Setting :=
  match config.maxPositiveTtl with
  | some bound => [⟨"max_positive_ttl", _, _, by decide, secondsText_means bound⟩]
  | none => []

/-- The settings of caches, with what they mean. -/
def CacheConfig.group (config : CacheConfig) : Group where
  name := "cache"
  settings :=
    ⟨"max_entries", _, _, by decide, countText_means config.maxEntries⟩ :: config.longest ++ [
    ⟨"max_negative_ttl", _, _, by decide, secondsText_means config.maxNegativeTtl⟩,
    ⟨"cleanup_interval_minutes", _, _, by decide,
      minutesText_means config.cleanupIntervalMinutes⟩]
  isKey := by decide
  distinct := by
    unfold CacheConfig.longest
    split
    · show List.Nodup ["max_entries", "max_positive_ttl", "max_negative_ttl",
        "cleanup_interval_minutes"]
      decide
    · show List.Nodup ["max_entries", "max_negative_ttl", "cleanup_interval_minutes"]
      decide

theorem CacheConfig.toList_text (config : CacheConfig) :
    config.text.toList = linesText config.group.lines := by
  refine toList_groupText config.group ?_
  obtain ⟨maxEntries, maxPositiveTtl, maxNegativeTtl, cleanupIntervalMinutes⟩ := config
  cases maxPositiveTtl <;>
    simp only [CacheConfig.group, CacheConfig.longest, List.cons_append, List.nil_append,
      List.map_cons, List.map_nil, String.ofList_toList]

theorem CacheConfig.read_group (config : CacheConfig) :
    CacheConfig.read config.group.entry.2 = some config := by
  obtain ⟨maxEntries, maxPositiveTtl, maxNegativeTtl, cleanupIntervalMinutes⟩ := config
  let config : CacheConfig :=
    ⟨maxEntries, maxPositiveTtl, maxNegativeTtl, cleanupIntervalMinutes⟩
  have entries : setting config.group.entries "max_entries" default.maxEntries readCountSetting =
      some maxEntries := setting_of_lookup rfl (readCountSetting_whole _)
  have positive : setting config.group.entries "max_positive_ttl" default.maxPositiveTtl
      (fun value => (readSecondsSetting value).map some) = some maxPositiveTtl := by
    cases maxPositiveTtl with
    | none => rfl
    | some bound =>
      refine setting_of_lookup rfl ?_
      rw [readSecondsSetting_whole, Option.map_some]
  have negative : setting config.group.entries "max_negative_ttl" default.maxNegativeTtl
      readSecondsSetting = some maxNegativeTtl := by
    cases maxPositiveTtl <;> exact setting_of_lookup rfl (readSecondsSetting_whole _)
  have minutes : setting config.group.entries "cleanup_interval_minutes"
      default.cleanupIntervalMinutes readMinutesSetting = some cleanupIntervalMinutes := by
    cases maxPositiveTtl <;> exact setting_of_lookup rfl (readMinutesSetting_whole _)
  simp only [CacheConfig.read, Group.entry, readGroupSetting, Option.bind_eq_bind,
    Option.bind_some, entries, positive, negative, minutes, config]

/-- The settings of logging, with what they mean. -/
def LoggingConfig.group (config : LoggingConfig) : Group where
  name := "logging"
  settings := [⟨"level", _, _, by decide, quotedText_means config.level⟩]
  isKey := by decide
  distinct := by
    show List.Nodup ["level"]
    decide

theorem LoggingConfig.toList_text (config : LoggingConfig) :
    config.text.toList = linesText config.group.lines := by
  refine toList_groupText config.group ?_
  simp only [LoggingConfig.group, List.map_cons, List.map_nil, String.ofList_toList]

theorem LoggingConfig.read_group (config : LoggingConfig) :
    LoggingConfig.read config.group.entry.2 = some config := rfl

/-! ### Documents -/

/-- All settings, with what they mean. -/
def Config.groups (config : Config) : List Group :=
  [config.resolver.group, config.cache.group, config.logging.group]

theorem Config.toList_text (config : Config) :
    config.text.toList = linesText (documentLines config.groups) := by
  have lines : linesText (documentLines config.groups) = linesText config.resolver.group.lines ++
      '\n' :: (linesText config.cache.group.lines ++
        '\n' :: linesText config.logging.group.lines) := by
    simp [Config.groups, documentLines, linesText, afterEmpty, Group.lines]
  rw [lines, ← config.resolver.toList_text, ← config.cache.toList_text,
    ← config.logging.toList_text]
  simp [Config.text]

theorem Config.ofEntries?_groups (config : Config) :
    Config.ofEntries? (config.groups.map Group.entry) = some config := by
  have resolver : setting (config.groups.map Group.entry) "resolver" default.resolver
      ResolverConfig.read = some config.resolver :=
    setting_of_lookup rfl config.resolver.read_group
  have cache : setting (config.groups.map Group.entry) "cache" default.cache CacheConfig.read =
      some config.cache := setting_of_lookup rfl config.cache.read_group
  have logging : setting (config.groups.map Group.entry) "logging" default.logging
      LoggingConfig.read = some config.logging :=
    setting_of_lookup rfl config.logging.read_group
  simp only [Config.ofEntries?, Option.bind_eq_bind, resolver, cache, logging, Option.bind_some]

/-- The text of a configuration is read as the configuration. -/
theorem Config.parse_text (config : Config) : parse config.text = .ok config := by
  have distinct : (config.groups.map Group.name).Nodup := by
    show List.Nodup ["resolver", "cache", "logging"]
    decide
  have read : parse? config.text = some config := by
    unfold parse?
    rw [config.toList_text, read_documentLines distinct]
    exact config.ofEntries?_groups
  unfold parse
  rw [read]

/-! ### Saving and loading -/

/-- Saving a configuration writes a text, under whatever path, and all else is up to what becomes of
it there. -/
def Config.Saves (config : Config) (text : String) : Prop :=
  ∀ {Result : Type} (write : String → String → Except FileFault Result) (path : String),
    save write config path = (write path text).mapError (.unwritable path)

theorem Config.saves_text (config : Config) : config.Saves config.text := by
  intro Result write path
  unfold save
  cases write path config.text <;> rfl

/-- What a configuration saves is read as that configuration, which saves the same text again. It
is also what is loaded from any file that the text has been put into. -/
theorem Config.saved_restores (config : Config) :
    ∃ text, config.Saves text ∧
      ∃ restored, parse text = .ok restored ∧ restored = config ∧ restored.Saves text ∧
        ∀ (files : Files) (path : String),
          load (Function.update files path (.ok text)) (some path) = .ok restored := by
  refine ⟨config.text, config.saves_text, config, config.parse_text, rfl, config.saves_text,
    fun files path => ?_⟩
  show ofFile (Function.update files path (.ok config.text)) path = .ok config
  unfold ofFile
  rw [Function.update_self]
  exact config.parse_text

end StubResolver
