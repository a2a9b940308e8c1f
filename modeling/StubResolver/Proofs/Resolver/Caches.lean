/-
This file follows the cache of one class through a registry. A resolution asks the registry for it
anew with every call, and puts it back each time. It finds what it has put back, and calls on the
cache leave the network alone, as queries do with the cache.
-/

import StubResolver.Proofs.Cache.Zone
import StubResolver.Proofs.Resolver.Tracing

namespace StubResolver.Registry

variable {Network : Type} {registry : Registry} {recordClass : RecordClass}

/-- The cache of a class. It is a new one if none has been asked for. -/
def cacheOf (registry : Registry) (recordClass : RecordClass) : Cache :=
  (registry.opened recordClass).1.cache

theorem cacheOf_recordClass (registry : Registry) (recordClass : RecordClass) :
    (registry.cacheOf recordClass).recordClass = recordClass := by
  unfold cacheOf
  rcases registry.opened_cases recordClass with
    ⟨swept, found, there⟩ | ⟨_, swept, _, isNew, cache, _⟩
  · rw [there]
    have same := List.find?_some found
    exact of_decide_eq_true same
  · rw [isNew, cache]
    rfl

/-- In a new registry every cache is new. -/
theorem cacheOf_new_fresh {settings : CacheConfig} (unbounded : settings.maxEntries = 0)
    (keepsSets : settings.maxPositiveTtl ≠ some 0) (recordClass : RecordClass) :
    ((new settings).cacheOf recordClass).Fresh := by
  have isNew : (new settings).cacheOf recordClass = Cache.new recordClass settings.limits := by
    unfold cacheOf
    rcases (new settings).opened_cases recordClass with
      ⟨_, found, _⟩ | ⟨_, swept, _, made, cache, _⟩
    · cases found
    · rw [made, cache]
      rfl
  rw [isNew]
  exact ⟨.new _ _, rfl, congrArg UInt64.toNat unbounded, keepsSets⟩

/-- What is put in a registry is found there. -/
theorem get?_put (registry : Registry) {swept : SweptCache}
    (ofClass : swept.cache.recordClass = recordClass) :
    (registry.put swept).get? recordClass = some swept := by
  unfold get? put
  rw [List.find?_append]
  have others : (registry.caches.filter fun other =>
      other.cache.recordClass ≠ swept.cache.recordClass).find? (fun other =>
        other.cache.recordClass = recordClass) = none := by
    rw [List.find?_eq_none]
    intro other member
    have differs := of_decide_eq_true (List.mem_filter.mp member).2
    rw [ofClass] at differs
    rwa [decide_eq_true_eq]
  rw [others, Option.none_or, List.find?_singleton, decide_eq_true ofClass, if_pos rfl]

theorem opened_of_get? {swept : SweptCache} (found : registry.get? recordClass = some swept) :
    registry.opened recordClass = (swept, registry) := by
  unfold opened getOrCreate
  rw [found]

theorem cacheOf_put (registry : Registry) {swept : SweptCache}
    (ofClass : swept.cache.recordClass = recordClass) :
    (registry.put swept).cacheOf recordClass = swept.cache := by
  unfold cacheOf
  rw [opened_of_get? (registry.get?_put ofClass)]

/-- Where the cache of a class can be made, calls find it as it was made. -/
theorem opened_of_getOrCreate {swept : SweptCache} {made : Registry}
    (opens : registry.getOrCreate recordClass = .ok (swept, made)) :
    made.opened recordClass = (swept, made) := by
  unfold getOrCreate at opens
  cases found : registry.get? recordClass with
  | some _ =>
    rw [found] at opens
    cases opens
    exact opened_of_get? found
  | none =>
    rw [found] at opens
    dsimp only at opens
    cases isNew : SweptCache.new recordClass registry.settings true with
    | error overflow =>
      rw [isNew] at opens
      cases opens
    | ok created =>
      rw [isNew] at opens
      cases opens
      exact opened_of_get? (registry.get?_put (by rw [SweptCache.setInterval_cache isNew]; rfl))

/-- A change that keeps the class of the cache is a change of the cache that is found. -/
theorem withCache_eq {Report : Type} (registry : Registry) (change : Cache → Report × Cache)
    (keeps : (change (registry.cacheOf recordClass)).2.recordClass =
      (registry.cacheOf recordClass).recordClass) :
    (registry.withCache recordClass change).1 = (change (registry.cacheOf recordClass)).1 ∧
      (registry.withCache recordClass change).2.cacheOf recordClass =
        (change (registry.cacheOf recordClass)).2 :=
  ⟨rfl, cacheOf_put _ (keeps.trans (registry.cacheOf_recordClass recordClass))⟩

/-- A lookup of a resolution is a lookup in the cache. -/
theorem services_lookup (now : Nat) (send : Sender Network) (network : Network)
    (tidy : (registry.cacheOf recordClass).shelf.Tidy) (name : Name) (type : RecordType)
    (least : Credibility) :
    let looked := (registry.cacheOf recordClass).lookup now name type least
    ∃ later, later.cacheOf recordClass = looked.2 ∧
      (services recordClass now send).lookup (registry, network) name type least =
        (looked.1, later, network) := by
  obtain ⟨reported, after⟩ := registry.withCache_eq (fun cache => cache.lookup now name type least)
    (Cache.Operation.apply_recordClass tidy now (.lookup name type least))
  exact ⟨_, after, Prod.ext reported rfl⟩

/-- What a resolution has learned the cache has learned. -/
theorem services_ingest (now : Nat) (send : Sender Network) (network : Network)
    (tidy : (registry.cacheOf recordClass).shelf.Tidy) (message : Message) :
    let ingested := (registry.cacheOf recordClass).ingestResponse now message
    ∃ later, later.cacheOf recordClass = ingested.2 ∧
      (services recordClass now send).ingest (registry, network) message =
        (ingested.1, later, network) := by
  obtain ⟨reported, after⟩ := registry.withCache_eq (fun cache => cache.ingestResponse now message)
    (Cache.Operation.apply_recordClass tidy now (.ingest message))
  exact ⟨_, after, Prod.ext reported rfl⟩

end StubResolver.Registry
