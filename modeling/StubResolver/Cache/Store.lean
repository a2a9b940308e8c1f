/-
This file adds to a cache. Three rules hold for every addition. An expired entry in its place is
dropped first and counts for nothing. Data never displaces data that is more credible. And an
addition whose lifetime is zero displaces what it may without taking its place, since there is
nothing to keep.

A single record joins a set of equal credibility instead of displacing it, and the joint set keeps
its time of expiry.
-/

import StubResolver.Cache.Basic
import StubResolver.Error

namespace StubResolver.Cache

/-! ### Steps of an addition -/

/-- The cache without the entry of a name under a key, if that has expired. -/
def dropExpired (cache : Cache) (now : Nat) (name : Name) (key : EntryKey) : Cache :=
  match cache.entryAt? name key with
  | some entry =>
    if entry.isExpired now then
      { cache with
        shelf := cache.shelf.eraseEntry name key
        metrics := { cache.metrics with lazyDeletions := cache.metrics.lazyDeletions + 1 } }
    else
      cache
  | none => cache

/-- Whether an entry is more credible than what would take its place. -/
def outranks (cache : Cache) (name : Name) (key : EntryKey) (credibility : Credibility) : Bool :=
  (cache.entryAt? name key).any fun entry => credibility < entry.credibility

/-- The cache without the entry of a name under a key, unless that is more credible than what would
take its place. -/
def displace (cache : Cache) (name : Name) (key : EntryKey) (credibility : Credibility) : Cache :=
  match cache.entryAt? name key with
  | some entry =>
    if entry.credibility ≤ credibility then
      { cache with shelf := cache.shelf.eraseEntry name key }
    else
      cache
  | none => cache

/-- The cache with an entry installed. -/
def install (cache : Cache) (name : Name) (key : EntryKey) (entry : Entry) : Cache :=
  { cache with
    shelf := cache.shelf.install cache.limits.capacity name key entry
    metrics := { cache.metrics with
      insertions := cache.metrics.insertions + 1
      capacityEvictions :=
        cache.metrics.capacityEvictions + cache.shelf.pushedOut cache.limits.capacity name } }

/-! ### Additions as the parts of a response make them -/

/-- The cache with a set added at its owner. -/
def storeSet (cache : Cache) (now : Nat) (set : RRset) (credibility : Credibility) : Cache :=
  let key := EntryKey.type set.type
  let cache := cache.dropExpired now set.name key
  if set.ttl = 0 ∨ cache.limits.longestPositive = some 0 then
    cache.displace set.name key credibility
  else if cache.outranks set.name key credibility then
    cache
  else
    cache.install set.name key (Entry.ofSet set credibility now cache.limits.longestPositive)

/-- The cache with an absence added. It lasts as long as the zone that attests it allows; without a
zone, or with one that is not to be kept, nothing is kept of the absence either. -/
def storeAbsence (cache : Cache) (now : Nat) (name : Name) (key : EntryKey)
    (zoneStart : Option Record) (credibility : Credibility) : Cache :=
  let cache := cache.dropExpired now name key
  match zoneStart with
  | none => cache.displace name key credibility
  | some record =>
    if record.ttl = 0 then
      cache.displace name key credibility
    else if cache.outranks name key credibility then
      cache
    else
      cache.install name key (Entry.ofAbsence (record.data.minimum?.getD record.ttl) credibility now
        cache.limits.longestNegative)

/-! ### Additions from outside -/

/-- The failure of adding a type that is never cached. -/
def refuseMeta (type : RecordType) : Error := .metaType type.text

/-- The cache in which a record has joined the set of an entry. A record that does not belong to
the set is dropped. -/
def joinSet (cache : Cache) (name : Name) (key : EntryKey) (record : Record) : Cache :=
  let join : EntryData → EntryData
    | .positive set => .positive (if set.accepts record then set.insert record else set)
    | .negative => .negative
  { cache with
    shelf := cache.shelf.reshape name fun entries => entries.map fun slot =>
      if slot.1 = key then (slot.1, { slot.2 with data := join slot.2.data }) else slot }

/-- The cache with a record added, whose owner is taken as absolute. A record less credible than
the entry in its place is dropped, one as credible joins it, and one more credible displaces it. -/
def addRecord (cache : Cache) (now : Nat) (record : Record) (credibility : Credibility) :
    Except Error Cache :=
  if record.setType.isMeta then
    .error (refuseMeta record.setType)
  else
    let record := { record with name := record.name.toAbsolute }
    let key := EntryKey.type record.setType
    let cache := cache.dropExpired now record.name key
    match cache.entryAt? record.name key with
    | some entry =>
      if credibility < entry.credibility then
        .ok cache
      else if credibility = entry.credibility then
        .ok (cache.joinSet record.name key record)
      else
        .ok (cache.storeSet now (RRset.ofRecord record) credibility)
    | none => .ok (cache.storeSet now (RRset.ofRecord record) credibility)

/-- The cache with a set added, whose owner is taken as absolute. -/
def addSet (cache : Cache) (now : Nat) (set : RRset) (credibility : Credibility) :
    Except Error Cache :=
  if set.type.isMeta then
    .error (refuseMeta set.type)
  else
    .ok (cache.storeSet now set.toAbsolute credibility)

/-- The mistake of recording that a name has no records of all types. -/
structure AbsenceOfAll where

/-- What is reported of that mistake. -/
def AbsenceOfAll.message (_mistake : AbsenceOfAll) : String :=
  "negative entries cannot be keyed by ANY"

/-- The cache with an absence added. The name is taken as absolute. -/
def addAbsence (cache : Cache) (now : Nat) (name : Name) (key : EntryKey)
    (zoneStart : Option Record) (credibility : Credibility) : Except AbsenceOfAll Cache :=
  if key = .type .any then
    .error ⟨⟩
  else
    .ok (cache.storeAbsence now name.toAbsolute key zoneStart credibility)

/-- Adds records up to the first that is refused, and counts them. What was added stays. -/
def preload (cache : Cache) (now : Nat) :
    List (Record × Credibility) → Except Error Nat × Cache
  | [] => (.ok 0, cache)
  | (record, credibility) :: rest =>
    match cache.addRecord now record credibility with
    | .ok larger =>
      let (count, last) := larger.preload now rest
      (count.map (· + 1), last)
    | .error error => (.error error, cache)

end StubResolver.Cache
