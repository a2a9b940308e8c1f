/-
This file finds what a cache knows about a name and a type. The search visits the name itself and
then its ancestors up to the root, and ends at the first name that has something to say. The name
itself can answer, deny, or stand for another name; an ancestor can redirect its subtree; and every
name can be the start of a zone whose servers have to be asked.

Entries that are not credible enough are passed over and stay. Expired entries of the names that
are visited go.
-/

import StubResolver.Cache.Basic
import StubResolver.Outcome

namespace StubResolver.Cache

/-! ### What one name has to say -/

/-- The servers of the zone that starts at a name. -/
def zoneCut? (entries : Entries) (least : Credibility) : Option Outcome :=
  (entries.usableSet? least .ns).map .delegation

/-- Whether a name is known not to exist. -/
def absence? (entries : Entries) (least : Credibility) : Option Outcome :=
  (entries.usable? least .name).map fun _ => .nxDomain

/-- What the entries of a name say about one of its types. -/
def verdictOnType? (entries : Entries) (least : Credibility) (type : RecordType) :
    Option Outcome :=
  match entries.usable? least (.type type) with
  | some entry =>
    match entry.set? with
    | some set => some (.single set)
    | none => some .nxRRset
  | none =>
    (((entries.usableSet? least .cname).map Outcome.cname).or (zoneCut? entries least)).or
      (absence? entries least)

/-- What the entries of a name say about all of its types. -/
def verdictOnAll? (entries : Entries) (least : Credibility) : Option Outcome :=
  match entries.usableSets least with
  | [] => (zoneCut? entries least).or (absence? entries least)
  | sets => some (.successful sets)

/-- What the entries of a name say about a question for the name itself. -/
def exactVerdict? (entries : Entries) (least : Credibility) (type : RecordType) :
    Option Outcome :=
  if type = .any then verdictOnAll? entries least else verdictOnType? entries least type

/-- What the entries of a name say about a question for a name below it. -/
def ancestorVerdict? (entries : Entries) (least : Credibility) : Option Outcome :=
  ((entries.usableSet? least .dname).map .dname).or (zoneCut? entries least)

/-! ### The search -/

/-- The names above a name that a search visits, nearest first. -/
def ancestorsOf (name : Name) : List Name :=
  (List.range name.labelCount).reverse.map fun count => (name.suffix count).toAbsolute

/-- The cache without the expired entries of a name, and what is left of them. -/
def visit (cache : Cache) (now : Nat) (name : Name) : Cache × Entries :=
  match cache.shelf.slot? name with
  | some slot =>
    let live := slot.entries.live now
    let expired := slot.entries.length - live.length
    ({ cache with
        shelf := cache.shelf.reshape name fun entries => entries.live now
        metrics := { cache.metrics with
          lazyDeletions := cache.metrics.lazyDeletions + expired } }, live)
  | none => (cache, [])

/-- Visits ancestors up to the first that has something to say. -/
def searchAncestors (cache : Cache) (now : Nat) (least : Credibility) :
    List Name → Outcome × Cache
  | [] => (.unknown, cache)
  | name :: rest =>
    let (visited, entries) := cache.visit now name
    match ancestorVerdict? entries least with
    | some outcome => (outcome, visited)
    | none => visited.searchAncestors now least rest

/-- Visits a name, which counts as a use of it, and then its ancestors. -/
def search (cache : Cache) (now : Nat) (name : Name) (type : RecordType) (least : Credibility) :
    Outcome × Cache :=
  let used := { cache with shelf := cache.shelf.promote name }
  let (visited, entries) := used.visit now name
  match exactVerdict? entries least type with
  | some outcome => (outcome, visited)
  | none => visited.searchAncestors now least (ancestorsOf name)

/-- The counters after a lookup with a given outcome. -/
def Metrics.countLookup (metrics : Metrics) (outcome : Outcome) : Metrics :=
  if outcome.isUnknown then
    { metrics with misses := metrics.misses + 1 }
  else
    { metrics with hits := metrics.hits + 1 }

/-- Finds what is known about a name and a type, as far as it is credible enough. The name is taken
as absolute. -/
def lookup (cache : Cache) (now : Nat) (name : Name) (type : RecordType) (least : Credibility) :
    Outcome × Cache :=
  let (outcome, searched) := cache.search now name.toAbsolute type least
  (outcome, { searched with metrics := searched.metrics.countLookup outcome })

/-- The sets that answer a question, if the cache has them. -/
def findSets? (cache : Cache) (now : Nat) (name : Name) (type : RecordType)
    (least : Credibility) : Option (List RRset) × Cache :=
  match cache.lookup now name type least with
  | (.successful sets, searched) => (some sets, searched)
  | (_, searched) => (none, searched)

/-- The sets that answer a question with the usual credibility. -/
def findRecords? (cache : Cache) (now : Nat) (name : Name) (type : RecordType) :
    Option (List RRset) × Cache :=
  cache.findSets? now name type .normal

/-- The sets that answer a question, where addresses that came with a referral are good enough. -/
def findAnyRecords? (cache : Cache) (now : Nat) (name : Name) (type : RecordType) :
    Option (List RRset) × Cache :=
  cache.findSets? now name type .glue

end StubResolver.Cache
