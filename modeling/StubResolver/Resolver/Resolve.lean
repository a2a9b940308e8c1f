/-
This file puts a resolver together: the caches of a registry, a sender, and options for lookups.
The cache of the class asked for answers and learns, and the sender asks the network. What is asked
for comes as text and as a type, and a question that no server could answer is refused before
anything is looked up.
-/

import StubResolver.Name.Reader
import StubResolver.Registry
import StubResolver.Resolver.Search

namespace StubResolver

/-- Sends a query and waits for the response, in a network with a state of its own. -/
abbrev Sender (Network : Type) := Network → Message → Except Error Message × Network

variable {Network : Type}

/-! ### The services of caches and a sender -/

namespace Registry

/-- The registry with the cache of a class changed, and what the change reports. The cache is made
if it is not there. -/
def withCache {Report : Type} (registry : Registry) (recordClass : RecordClass)
    (change : Cache → Report × Cache) : Report × Registry :=
  let (swept, made) := registry.opened recordClass
  let (report, cache) := change swept.cache
  (report, made.put { swept with cache := cache })

/-- The services of the cache of a class, at a fixed time, and of a sender. -/
def services (recordClass : RecordClass) (now : Nat) (send : Sender Network) :
    Services (Registry × Network) where
  lookup := fun (registry, network) name type least =>
    let (outcome, registry) :=
      registry.withCache recordClass fun cache => cache.lookup now name type least
    (outcome, registry, network)
  ingest := fun (registry, network) message =>
    let (ingested, registry) :=
      registry.withCache recordClass fun cache => cache.ingestResponse now message
    (ingested, registry, network)
  send := fun (registry, network) query =>
    let (response, network) := send network query
    (response, registry, network)

end Registry

/-! ### Resolvers -/

/-- The request for a name given as text. A type that only transactions use is refused first, and
then a text that is no name. -/
def Request.read (text : String) (type : RecordType) (recordClass : RecordClass)
    (options : LookupOptions) : Except Error Request := do
  if type.isMeta && type ≠ .any then
    throw (.metaType type.text)
  return ⟨← Name.parse text, type, recordClass, options⟩

/-- A resolver without its sender: the caches, and how names are looked up unless a request says
otherwise. -/
structure Resolver where
  caches : Registry
  options : LookupOptions
deriving DecidableEq

namespace Resolver

/-- Resolves a name at a given time. The cache of the class is there afterwards, even if no
question was put to it; if it cannot be made, nothing is done. -/
def execute (resolver : Resolver) (now : Nat) (send : Sender Network) (network : Network)
    (text : String) (type : RecordType) (recordClass : RecordClass)
    (options : Option LookupOptions) :
    Except Overflow (Except Error Resolution × Resolver × Network) :=
  match Request.read text type recordClass (options.getD resolver.options) with
  | .error error => return (.error error, resolver, network)
  | .ok request => do
    let (_, made) ← resolver.caches.getOrCreate recordClass
    let (resolution, caches, network) :=
      request.resolve (Registry.services recordClass now send) (made, network)
    return (.ok resolution, { resolver with caches := caches }, network)

/-- Resolves a name of the Internet with the options of the resolver. -/
def resolve (resolver : Resolver) (now : Nat) (send : Sender Network) (network : Network)
    (text : String) (type : RecordType) :
    Except Overflow (Except Error Resolution × Resolver × Network) :=
  resolver.execute now send network text type .inet none

end Resolver

end StubResolver
