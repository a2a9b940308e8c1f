/-
This file plans a resolver: it gathers settings from several places, of which the later ones take
precedence over or complete the earlier ones, and makes a resolver of them. The configuration of the
system is looked up last, if it is to be used at all. The search list is looked at before the
servers, so that of two mistakes the one in the search list is reported. A plan without servers asks
the server on the same machine.
-/

import StubResolver.ResolvConf
import StubResolver.Resolver.Resolve
import StubResolver.Transport

namespace StubResolver

/-- What a resolver is to be like. -/
structure ResolverPlan where
  resolver : ResolverConfig
  cache : CacheConfig
  /-- The search path, when it does not come from the settings. -/
  searchPath : Option (List Name)
deriving DecidableEq

namespace ResolverPlan

/-- The plan of a resolver with all defaults. -/
def default : ResolverPlan := ⟨.default, .default, none⟩

/-- The plan with the settings of a configuration. -/
def withConfig (plan : ResolverPlan) (config : Config) : ResolverPlan :=
  { plan with resolver := config.resolver, cache := config.cache }

/-- The plan with other settings for looking up names. -/
def withResolver (plan : ResolverPlan) (config : ResolverConfig) : ResolverPlan :=
  { plan with resolver := config }

/-- The plan with other settings for caches. -/
def withCache (plan : ResolverPlan) (config : CacheConfig) : ResolverPlan :=
  { plan with cache := config }

/-- The plan completed by the configuration of a system. -/
def withResolvConf (plan : ResolverPlan) (conf : ResolvConf) : ResolverPlan :=
  { plan with resolver := conf.applyTo plan.resolver }

/-- The plan with a search path of its own, which is taken as it is. -/
def withSearchPath (plan : ResolverPlan) (path : List Name) : ResolverPlan :=
  { plan with searchPath := some path }

/-- The plan completed by the configuration of the system, if that is to be used. A configuration
that cannot be read is passed over. -/
def completed (files : Files) (plan : ResolverPlan) : ResolverPlan :=
  if plan.resolver.useResolvConf then
    match ResolvConf.load files ResolvConf.systemPath with
    | .ok conf => plan.withResolvConf conf
    | .error _ => plan
  else
    plan

/-! ### Carrying out -/

/-- The search path, made absolute if it comes from the settings. -/
def searchNames (plan : ResolverPlan) : Except Error (List Name) :=
  match plan.searchPath with
  | some path => .ok path
  | none => plan.resolver.search.mapM fun domain => (Name.parse domain).map Name.toAbsolute

/-- The forwarder to the servers that are to be asked. -/
def forwarder (plan : ResolverPlan) : Except Error Forwarder :=
  if plan.resolver.servers.isEmpty then
    .ok ⟨.datagrams, [localServer], plan.resolver.queryTimeoutMs⟩
  else
    Forwarder.ofConfig .datagrams plan.resolver

/-- The resolver for a sender that is already there. -/
def buildOver (plan : ResolverPlan) : Except Error Resolver := do
  let path ← plan.searchNames
  return ⟨Registry.new plan.cache,
    ⟨path, plan.resolver.ndots.toNat, plan.resolver.credibility⟩⟩

/-- The resolver and the forwarder that sends for it. -/
def build (plan : ResolverPlan) : Except Error (Resolver × Forwarder) := do
  let resolver ← plan.buildOver
  return (resolver, ← plan.forwarder)

/-- The resolver and its forwarder, on a system of which the files are known. -/
def buildOn (files : Files) (plan : ResolverPlan) : Except Error (Resolver × Forwarder) :=
  (plan.completed files).build

end ResolverPlan

/-- The resolver that asks the server on the same machine, with all defaults. -/
def Resolver.onLocalhost : Resolver × Forwarder :=
  (⟨Registry.new .default, .default⟩,
    ⟨.datagrams, [localServer], ResolverConfig.default.queryTimeoutMs⟩)

end StubResolver
