/-
This file feeds responses to a cache. What a response says is worked out beforehand; the cache then
makes the writes one after the other, each under the rules for additions.
-/

import StubResolver.Cache.Digest
import StubResolver.Cache.Store

namespace StubResolver.Cache

/-- The cache after a write. -/
def write (cache : Cache) (now : Nat) : Write → Cache
  | .set set credibility => cache.storeSet now set credibility
  | .absence name key zoneStart credibility =>
    cache.storeAbsence now name key zoneStart credibility

/-- The cache after several writes. -/
def writeAll (cache : Cache) (now : Nat) (writes : List Write) : Cache :=
  writes.foldl (fun cache write => cache.write now write) cache

/-- Learns from a response, and reports what it says about its question and the aliases that lead to
the answer. A message without a question, or with a result that nothing can be learned from, leaves
the cache as it is. -/
def ingestResponse (cache : Cache) (now : Nat) (message : Message) : Option Ingested × Cache :=
  match digest? message with
  | some digest => (some digest.ingested, cache.writeAll now digest.writes)
  | none => (none, cache)

/-- Learns from a response, and reports what it says about its question. -/
def ingest (cache : Cache) (now : Nat) (message : Message) : Option Outcome × Cache :=
  let (ingested, cache) := cache.ingestResponse now message
  (ingested.map Ingested.outcome, cache)

end StubResolver.Cache
