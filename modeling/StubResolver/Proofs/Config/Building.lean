/-
This file proves that settings which make sense are settings that a resolver can be built from.
Validation and building read the same texts, each in its own way: one looks for a first flaw, the
other reads everything or nothing, and makes do without servers. Yet they refuse the same servers
and the same domains. What is built has the servers and the suffixes that the texts denote, in
their order.

The time that a server has for its answer is looked at by validation alone. And the system must not
be asked for more settings, since what it says was never validated.
-/

import StubResolver.Resolver.Plan
import StubResolver.Proofs.Config.Completion
import StubResolver.Proofs.Servers

namespace StubResolver

/-! ### Validation -/

/-- Settings are refused for the text of a server or of a domain. -/
def Config.RefusesText (config : Config) : Prop :=
  ∃ flaw, config.validate = .error (.flawed flaw) ∧ flaw ≠ .noTime

theorem Config.validate_eq_error_iff {config : Config} {flaw : ConfigFlaw} :
    config.validate = .error (.flawed flaw) ↔ config.resolver.flaw? = some flaw := by
  unfold validate flaw?
  cases config.resolver.flaw? <;> simp

theorem serverFlaw?_ne_noTime {text : String} {flaw : ConfigFlaw}
    (found : serverFlaw? text = some flaw) : flaw ≠ .noTime := by
  unfold serverFlaw? at found
  split at found
  · cases found
  · cases found
    exact ConfigFlaw.noConfusion

theorem searchFlaw?_ne_noTime {text : String} {flaw : ConfigFlaw}
    (found : searchFlaw? text = some flaw) : flaw ≠ .noTime := by
  unfold searchFlaw? at found
  split at found
  · cases found
  · cases found
    exact ConfigFlaw.noConfusion

/-- No text is refused exactly if every server is an address and every domain a name. -/
theorem Config.not_refusesText_iff (config : Config) :
    ¬ config.RefusesText ↔
      (∀ server ∈ config.resolver.servers, isServer server = true) ∧
        ∀ domain ∈ config.resolver.search, ∃ name, Name.parse domain = .ok name := by
  have textual : (config.resolver.servers.findSome? serverFlaw?).or
      (config.resolver.search.findSome? searchFlaw?) = none ↔
        (∀ server ∈ config.resolver.servers, isServer server = true) ∧
          ∀ domain ∈ config.resolver.search, ∃ name, Name.parse domain = .ok name := by
    rw [Option.or_eq_none_iff, List.findSome?_eq_none_iff, List.findSome?_eq_none_iff]
    simp only [serverFlaw?_eq_none_iff, searchFlaw?_eq_none_iff]
  rw [← textual]
  simp only [RefusesText, validate_eq_error_iff, ResolverConfig.flaw?]
  cases found : (config.resolver.servers.findSome? serverFlaw?).or
      (config.resolver.search.findSome? searchFlaw?) with
  | none =>
    refine ⟨fun _ => rfl, fun _ => ?_⟩
    rintro ⟨flaw, isFlaw, timeless⟩
    rw [Option.none_or, ResolverConfig.timeFlaw?] at isFlaw
    split at isFlaw
    · cases isFlaw
      exact timeless rfl
    · cases isFlaw
  | some flaw =>
    refine ⟨fun refused => absurd ⟨flaw, rfl, ?_⟩ refused,
      fun none => absurd none (Option.some_ne_none flaw)⟩
    rcases Option.or_eq_some_iff.mp found with ofServer | ⟨_, ofDomain⟩
    · obtain ⟨server, _, isFlaw⟩ := List.exists_of_findSome?_eq_some ofServer
      exact serverFlaw?_ne_noTime isFlaw
    · obtain ⟨domain, _, isFlaw⟩ := List.exists_of_findSome?_eq_some ofDomain
      exact searchFlaw?_ne_noTime isFlaw

/-! ### Search paths -/

/-- The suffix that a domain of the search list denotes has the labels of the domain and is
absolute. -/
def DenotesSuffix (domain : String) (suffix : Name) : Prop :=
  suffix.absolute = true ∧ ∃ name, Name.parse domain = .ok name ∧ suffix.labels = name.labels

theorem map_toAbsolute_eq_ok_iff {domain : String} {suffix : Name} :
    (Name.parse domain).map Name.toAbsolute = .ok suffix ↔ DenotesSuffix domain suffix := by
  rw [map_eq_ok_iff]
  constructor
  · rintro ⟨name, parsed, rfl⟩
    exact ⟨rfl, name, parsed, rfl⟩
  · rintro ⟨absolute, name, parsed, labels⟩
    refine ⟨name, parsed, ?_⟩
    obtain ⟨_, _, _⟩ := suffix
    cases absolute
    cases labels
    rfl

/-- The domains of a search list are its suffixes if the plan has no search path of its own. -/
theorem ResolverPlan.searchNames_eq_ok_iff {plan : ResolverPlan} {path : List Name}
    (planned : plan.searchPath = none) :
    plan.searchNames = .ok path ↔ List.Forall₂ DenotesSuffix plan.resolver.search path := by
  rw [searchNames, planned]
  simp only [mapM_eq_ok_iff, map_toAbsolute_eq_ok_iff]

theorem ResolverPlan.exists_searchNames_iff {plan : ResolverPlan}
    (planned : plan.searchPath = none) :
    (∃ path, plan.searchNames = .ok path) ↔
      ∀ domain ∈ plan.resolver.search, ∃ name, Name.parse domain = .ok name := by
  rw [searchNames, planned]
  simp only [exists_mapM_eq_ok_iff, map_eq_ok_iff]
  refine forall₂_congr fun domain _ => ?_
  constructor
  · rintro ⟨_, name, parsed, _⟩
    exact ⟨name, parsed⟩
  · rintro ⟨name, parsed⟩
    exact ⟨_, name, parsed, rfl⟩

/-! ### Building -/

section

variable {plan : ResolverPlan}

/-- The resolver that a plan and a search path make. -/
def ResolverPlan.resolverWith (plan : ResolverPlan) (path : List Name) : Resolver :=
  ⟨Registry.new plan.cache, ⟨path, plan.resolver.ndots.toNat, plan.resolver.credibility⟩⟩

theorem ResolverPlan.build_eq_ok_iff {resolver : Resolver} {forwarder : Forwarder} :
    plan.build = .ok (resolver, forwarder) ↔
      (∃ path, plan.searchNames = .ok path ∧ resolver = plan.resolverWith path) ∧
        plan.forwarder = .ok forwarder := by
  constructor
  · intro built
    obtain ⟨made, resolves, built⟩ := exists_of_bind_eq_ok built
    obtain ⟨path, named, resolves⟩ := exists_of_bind_eq_ok resolves
    obtain ⟨sender, sends, built⟩ := exists_of_bind_eq_ok built
    cases resolves
    cases built
    exact ⟨⟨path, named, rfl⟩, sends⟩
  · rintro ⟨⟨path, named, rfl⟩, sends⟩
    rw [build, buildOver, named, sends]
    rfl

theorem ResolverPlan.exists_forwarder_iff :
    (∃ forwarder, plan.forwarder = .ok forwarder) ↔
      ∀ server ∈ plan.resolver.servers, isServer server = true := by
  rw [forwarder]
  split
  · rename_i none
    rw [List.isEmpty_iff.mp none]
    simp
  · exact Forwarder.exists_ofConfig_iff

/-- A plan is built exactly if its servers are addresses and its domains are names. -/
theorem ResolverPlan.exists_build_iff (planned : plan.searchPath = none) :
    (∃ built, plan.build = .ok built) ↔
      (∀ server ∈ plan.resolver.servers, isServer server = true) ∧
        ∀ domain ∈ plan.resolver.search, ∃ name, Name.parse domain = .ok name := by
  rw [← exists_searchNames_iff planned, ← exists_forwarder_iff]
  constructor
  · rintro ⟨⟨resolver, forwarder⟩, built⟩
    obtain ⟨⟨path, named, _⟩, sends⟩ := build_eq_ok_iff.mp built
    exact ⟨⟨forwarder, sends⟩, path, named⟩
  · rintro ⟨⟨forwarder, sends⟩, path, named⟩
    exact ⟨_, build_eq_ok_iff.mpr ⟨⟨path, named, rfl⟩, sends⟩⟩

end

/-! ### Building what was validated -/

/-- The plan of a resolver with given settings. -/
def Config.plan (config : Config) : ResolverPlan := ResolverPlan.default.withConfig config

/-- A plan is not completed unless the configuration of the system is to be used. -/
theorem ResolverPlan.completed_of_alone {plan : ResolverPlan}
    (alone : plan.resolver.useResolvConf = false) (files : Files) :
    plan.completed files = plan := by
  rw [completed, alone, if_neg Bool.false_ne_true]

/-- What settings say a resolver and its forwarder should be like. -/
structure Config.Describes (config : Config) (resolver : Resolver) (forwarder : Forwarder) :
    Prop where
  /-- Caches have the limits that are set. -/
  caches : resolver.caches = Registry.new config.cache
  /-- Names are looked up as it is set. -/
  policy : resolver.options.ndots = config.resolver.ndots.toNat ∧
    resolver.options.credibility = config.resolver.credibility
  /-- The search path has the suffixes that the domains denote, in their order. -/
  searchPath : List.Forall₂ DenotesSuffix config.resolver.search resolver.options.searchPath
  /-- All suffixes are absolute. -/
  absolute : ∀ suffix ∈ resolver.options.searchPath, suffix.absolute = true
  /-- The servers are those that the texts denote, in their order, or the server on the same machine
  if there are none. -/
  servers : if config.resolver.servers = [] then forwarder.servers = [localServer] else
    List.Forall₂ Denotes config.resolver.servers forwarder.servers
  /-- They are sent datagrams and have the time for their answers that is set. -/
  sending : forwarder.way = .datagrams ∧ forwarder.timeoutMs = config.resolver.queryTimeoutMs

theorem Config.describes_of_build {config : Config} {resolver : Resolver} {forwarder : Forwarder}
    (built : config.plan.build = .ok (resolver, forwarder)) :
    config.Describes resolver forwarder := by
  obtain ⟨⟨path, named, rfl⟩, sends⟩ := ResolverPlan.build_eq_ok_iff.mp built
  have denoted : List.Forall₂ DenotesSuffix config.resolver.search path :=
    (ResolverPlan.searchNames_eq_ok_iff rfl).mp named
  have each : List.Forall₂ (fun suffix domain => suffix.absolute = true ∧
      DenotesSuffix domain suffix) path config.resolver.search :=
    .flip (denoted.imp fun _ _ denotes => ⟨denotes.1, denotes⟩)
  have absolute := ((List.forall₂_and_left _ _).mp each).1
  change (if config.resolver.servers.isEmpty then
    .ok ⟨.datagrams, [localServer], config.resolver.queryTimeoutMs⟩ else
      Forwarder.ofConfig .datagrams config.resolver) = .ok forwarder at sends
  by_cases none : config.resolver.servers = []
  · rw [none, List.isEmpty_nil, if_pos rfl] at sends
    cases sends
    exact ⟨rfl, ⟨rfl, rfl⟩, denoted, absolute, by rw [if_pos none], rfl, rfl⟩
  · rw [List.isEmpty_eq_false_iff.mpr none, if_neg Bool.false_ne_true] at sends
    obtain ⟨servers, denotes, rfl⟩ := Forwarder.ofConfig_eq_ok_iff.mp sends
    exact ⟨rfl, ⟨rfl, rfl⟩, denoted, absolute, by rwa [if_neg none], rfl, rfl⟩

/-- How validating and building settings agree. -/
structure Config.BuildsAsValidated (files : Files) (config : Config) : Prop where
  /-- Building fails exactly if validation refuses the text of a server or of a domain. -/
  fails_iff : (∃ error, config.plan.buildOn files = .error error) ↔ config.RefusesText
  /-- Such a text denotes no server, or is no name. -/
  refuses_iff : config.RefusesText ↔
    (∃ text ∈ config.resolver.servers, ∀ server, ¬ Denotes text server) ∨
      ∃ domain ∈ config.resolver.search, ∃ error, Name.parse domain = .error error
  /-- What is valid is built, and so is what only leaves no time. -/
  builds : config.validate = .ok () ∨ config.validate = .error (.flawed .noTime) →
    ∃ resolver forwarder, config.plan.buildOn files = .ok (resolver, forwarder) ∧
      config.Describes resolver forwarder
  /-- Whichever way queries are sent, they are sent to the servers that the texts denote. -/
  forwards : config.validate = .ok () ∨ config.validate = .error (.flawed .noTime) →
    ∃ servers, List.Forall₂ Denotes config.resolver.servers servers ∧
      ∀ way, Forwarder.ofConfig way config.resolver =
        .ok ⟨way, servers, config.resolver.queryTimeoutMs⟩

theorem Config.builds_as_validated (files : Files) {config : Config}
    (alone : config.resolver.useResolvConf = false) : config.BuildsAsValidated files := by
  have unchanged : config.plan.buildOn files = config.plan.build := by
    rw [ResolverPlan.buildOn, ResolverPlan.completed_of_alone alone]
  have buildable : (∃ built, config.plan.build = .ok built) ↔ ¬ config.RefusesText :=
    (ResolverPlan.exists_build_iff rfl).trans config.not_refusesText_iff.symm
  have unrefused (sound : config.validate = .ok () ∨ config.validate = .error (.flawed .noTime)) :
      ¬ config.RefusesText := by
    rintro ⟨flaw, refused, timed⟩
    rcases sound with valid | timeless
    · cases valid.symm.trans refused
    · cases timeless.symm.trans refused
      exact timed rfl
  exact {
    fails_iff := by
      rw [unchanged, ← not_iff_not, not_exists_error_iff, buildable]
    refuses_iff := by
      rw [← not_iff_not, config.not_refusesText_iff, not_or]
      simp only [isServer_iff, ← not_exists_error_iff, not_exists, not_and, not_forall, not_not]
    builds := by
      intro sound
      obtain ⟨⟨resolver, forwarder⟩, built⟩ := buildable.mpr (unrefused sound)
      exact ⟨resolver, forwarder, unchanged.trans built, Config.describes_of_build built⟩
    forwards := by
      intro sound
      obtain ⟨addressed, _⟩ := config.not_refusesText_iff.mp (unrefused sound)
      obtain ⟨forwarder, sends⟩ : ∃ forwarder,
          Forwarder.ofConfig .datagrams config.resolver = .ok forwarder :=
        Forwarder.exists_ofConfig_iff.mpr addressed
      obtain ⟨servers, denoted, _⟩ := Forwarder.ofConfig_eq_ok_iff.mp sends
      exact ⟨servers, denoted, fun _ =>
        Forwarder.ofConfig_eq_ok_iff.mpr ⟨servers, denoted, rfl⟩⟩ }

/-- Settings with a server that has no port, one that has, and a domain. -/
def Config.sample : Config :=
  { Config.default with
    resolver := { ResolverConfig.default with
      servers := ["192.0.2.1", "[2001:db8::1]:5353"]
      search := ["corp.example"] } }

theorem Config.sample_builds :
    Config.sample.resolver.useResolvConf = false ∧ Config.sample.validate = .ok () ∧
      Config.sample.BuildsAsValidated (fun _ => .error .missing) ∧
      Config.sample.plan.buildOn (fun _ => .error .missing) = .ok
        (Config.sample.plan.resolverWith ResolvConf.sample.search,
          ⟨.datagrams, [.v4 ⟨192, 0, 2, 1⟩ 53,
            .v6 ⟨[0x2001, 0xdb8, 0, 0, 0, 0, 0, 1], rfl⟩ 5353 0], 5000⟩) :=
  ⟨rfl, rfl, Config.builds_as_validated _ rfl, rfl⟩

end StubResolver
