/-
This file settles that a cache learns nothing from hearing a response again. Every write of a
response is a bid for one place. One response can make several bids for a place, at different
credibilities, and a bid with nothing to keep clears the place without taking it, so that a second
hearing starts from something else than the first.

What stands in a place at first matters only if it outlasts the bids, being alive and more credible
than each of them, and then it stays as it is. Otherwise some bid gets the better of it, and from
there on the bids alone decide. What the first hearing leaves behind does not outlast the bids
either, since it stood there before or is one of them.
-/

import StubResolver.Proofs.Cache.Footprint

namespace StubResolver.Cache

/-! ### Bids for one place -/

/-- What a write would put in its place, if it has anything to put there, and how credible it is. -/
structure Bid where
  fresh : Option Entry
  credibility : Credibility
  honest : ∀ entry ∈ fresh, entry.credibility = credibility

namespace Bid

variable {now : Nat} {standing : Option Entry} {bid : Bid} {bids rest : List Bid}

/-- What stands in a place after a bid. -/
def result (now : Nat) (standing : Option Entry) (bid : Bid) : Option Entry :=
  settled (standing.filter fun entry => !entry.isExpired now) bid.fresh bid.credibility

/-- What stands in a place after several bids. -/
def results (now : Nat) (standing : Option Entry) (bids : List Bid) : Option Entry :=
  bids.foldl (result now) standing

theorem results_cons (now : Nat) (standing : Option Entry) (bid : Bid) (rest : List Bid) :
    results now standing (bid :: rest) = results now (bid.result now standing) rest := rfl

/-- What stands in a place is alive, and more credible than each of several bids. -/
def Outlasts (now : Nat) (standing : Option Entry) (bids : List Bid) : Prop :=
  ∃ entry, standing = some entry ∧ entry.isExpired now = false ∧
    ∀ bid ∈ bids, bid.credibility < entry.credibility

theorem outlasts_cons : Outlasts now standing (bid :: rest) ↔
    Outlasts now standing [bid] ∧ Outlasts now standing rest := by
  constructor
  · rintro ⟨entry, stands, alive, outranks⟩
    obtain ⟨first, others⟩ := List.forall_mem_cons.mp outranks
    exact ⟨⟨entry, stands, alive, List.forall_mem_singleton.mpr first⟩,
      entry, stands, alive, others⟩
  · rintro ⟨⟨entry, rfl, alive, first⟩, ⟨same, stands, _, others⟩⟩
    obtain rfl := Option.some_inj.mp stands
    exact ⟨entry, rfl, alive,
      List.forall_mem_cons.mpr ⟨first bid List.mem_cons_self, others⟩⟩

/-- What outlasts a bid outlasts whatever the bid would outlast. -/
theorem Outlasts.of_fresh (outlasts : Outlasts now standing [bid])
    (fresh : Outlasts now bid.fresh rest) : Outlasts now standing rest := by
  obtain ⟨entry, stands, alive, outranks⟩ := outlasts
  obtain ⟨placed, isFresh, _, more⟩ := fresh
  have above := List.forall_mem_singleton.mp outranks
  refine ⟨entry, stands, alive, fun later member => ?_⟩
  have lower := more later member
  rw [bid.honest placed isFresh] at lower
  exact Nat.lt_trans lower above

/-! ### One bid -/

theorem result_of_outlasts (outlasts : Outlasts now standing [bid]) :
    bid.result now standing = standing := by
  obtain ⟨entry, rfl, alive, outranks⟩ := outlasts
  rw [result, settled, Option.filter_some, alive, Bool.not_false, if_pos rfl, Option.filter_some,
    decide_eq_true (List.forall_mem_singleton.mp outranks), if_pos rfl, Option.some_or]

theorem result_of_not_outlasts (yields : ¬ Outlasts now standing [bid]) :
    bid.result now standing = bid.fresh := by
  have nothing : (standing.filter fun entry => !entry.isExpired now).filter
      (fun entry => bid.credibility < entry.credibility) = none := by
    refine Option.filter_eq_none_iff.mpr fun entry stands outranks => yields ?_
    obtain ⟨found, alive⟩ := Option.filter_eq_some_iff.mp stands
    exact ⟨entry, found, (Bool.not_eq_true' _).mp alive,
      List.forall_mem_singleton.mpr (of_decide_eq_true outranks)⟩
  rw [result, settled, nothing, Option.none_or]

/-! ### Several bids -/

theorem results_of_outlasts (outlasts : Outlasts now standing bids) :
    results now standing bids = standing := by
  induction bids with
  | nil => rfl
  | cons bid rest inductionHypothesis =>
    obtain ⟨first, others⟩ := outlasts_cons.mp outlasts
    rw [results_cons, result_of_outlasts first]
    exact inductionHypothesis others

/-- If what stood in a place does not outlast the bids, they come to what they would have come to
if the first of them had won. -/
theorem results_of_not_outlasts (yields : ¬ Outlasts now standing (bid :: rest)) :
    results now standing (bid :: rest) = results now bid.fresh rest := by
  induction rest generalizing standing bid with
  | nil => exact result_of_not_outlasts yields
  | cons next later inductionHypothesis =>
    rw [results_cons]
    -- What outlasts the first bid yields to a later one, and so would the bid itself have done.
    by_cases first : Outlasts now standing [bid]
    · have stillYields : ¬ Outlasts now standing (next :: later) := fun others =>
        yields (outlasts_cons.mpr ⟨first, others⟩)
      have freshYields : ¬ Outlasts now bid.fresh (next :: later) := fun others =>
        stillYields (first.of_fresh others)
      rw [result_of_outlasts first, inductionHypothesis stillYields,
        inductionHypothesis freshYields]
    · rw [result_of_not_outlasts first]

/-- In the end there stands what stood there before, or what one of the bids has put there. -/
theorem results_cases {entry : Entry} (left : results now standing bids = some entry) :
    standing = some entry ∨ ∃ bid ∈ bids, bid.fresh = some entry := by
  induction bids generalizing standing with
  | nil => exact .inl left
  | cons bid rest inductionHypothesis =>
    obtain between | ⟨later, member, new⟩ := inductionHypothesis left
    · obtain stands | new := settled_cases between
      · exact .inl (Option.filter_eq_some_iff.mp stands).1
      · exact .inr ⟨bid, List.mem_cons_self, new⟩
    · exact .inr ⟨later, List.mem_cons_of_mem _ member, new⟩

/-- What bids leave in a place does not outlast them, unless what stood there before does. -/
theorem not_outlasts_results (yields : ¬ Outlasts now standing bids) :
    ¬ Outlasts now (results now standing bids) bids := by
  rintro ⟨entry, left, alive, outranks⟩
  obtain stands | ⟨bid, member, new⟩ := results_cases left
  · exact yields ⟨entry, stands, alive, outranks⟩
  · have lower := outranks bid member
    rw [bid.honest entry new] at lower
    exact absurd lower (Nat.lt_irrefl _)

/-- Bids that are made again change nothing. -/
theorem results_results (now : Nat) (standing : Option Entry) (bids : List Bid) :
    results now (results now standing bids) bids = results now standing bids := by
  by_cases outlasts : Outlasts now standing bids
  · rw [results_of_outlasts outlasts, results_of_outlasts outlasts]
  · cases bids with
    | nil => rfl
    | cons bid rest =>
      rw [results_of_not_outlasts (not_outlasts_results outlasts), results_of_not_outlasts outlasts]

end Bid

/-! ### Writes as bids -/

/-- What a write bids for its place. -/
def Write.bid (limits : CacheLimits) (now : Nat) : Write → Bid
  | .set written credibility =>
    ⟨entryOfSet? limits now written credibility, credibility, fun entry kept => by
      rw [entryOfSet?_eq_some kept]
      rfl⟩
  | .absence _ _ zoneStart credibility =>
    ⟨entryOfAbsence? limits now zoneStart credibility, credibility, fun entry kept => by
      unfold entryOfAbsence? at kept
      split at kept
      · cases kept
      · split at kept
        · cases kept
        · cases kept
          rfl⟩

/-- The bids that writes make for a place. -/
def bidsAt (limits : CacheLimits) (now : Nat) (writes : List Write) (name : Name)
    (key : EntryKey) : List Bid :=
  (writes.filter fun write => write.owner ≈ name ∧ write.key = key).map (Write.bid limits now)

theorem bidsAt_cons_of_there {limits : CacheLimits} {now : Nat} {write : Write} {rest : List Write}
    {name : Name} {key : EntryKey} (there : write.owner ≈ name ∧ write.key = key) :
    bidsAt limits now (write :: rest) name key =
      write.bid limits now :: bidsAt limits now rest name key := by
  simp only [bidsAt, List.filter_cons, there, and_self, decide_true, if_true, List.map_cons]

theorem bidsAt_cons_of_elsewhere {limits : CacheLimits} {now : Nat} {write : Write}
    {rest : List Write} {name : Name} {key : EntryKey}
    (elsewhere : ¬ (write.owner ≈ name ∧ write.key = key)) :
    bidsAt limits now (write :: rest) name key = bidsAt limits now rest name key := by
  simp only [bidsAt, List.filter_cons, elsewhere, decide_false, Bool.false_eq_true, if_false]

theorem write_settles_bid {cache : Cache} (tidy : cache.shelf.Tidy) (now : Nat) (write : Write) :
    Settles cache (cache.write now write) write.owner write.key
      ((write.bid cache.limits now).result now (cache.entryAt? write.owner write.key)) := by
  cases write with
  | set set credibility => exact storeSet_settles tidy now set credibility
  | absence name key zoneStart credibility =>
    exact storeAbsence_settles tidy now name key zoneStart credibility

/-- What writes leave in a place is what their bids for it come to. -/
theorem entryAt?_writeAll {cache : Cache} (tidy : cache.shelf.Tidy)
    (unbounded : cache.limits.capacity = 0) (now : Nat) (writes : List Write) (name : Name)
    (key : EntryKey) :
    (cache.writeAll now writes).entryAt? name key =
      Bid.results now (cache.entryAt? name key) (bidsAt cache.limits now writes name key) := by
  induction writes generalizing cache with
  | nil => rfl
  | cons write rest inductionHypothesis =>
    have settles := write_settles_bid tidy now write
    have others := inductionHypothesis settles.tidy (settles.limits ▸ unbounded)
    rw [settles.limits] at others
    refine others.trans ?_
    by_cases there : write.owner ≈ name ∧ write.key = key
    · rw [bidsAt_cons_of_there there, Bid.results_cons, ← there.2, settles.there name there.1,
        entryAt?_congr cache there.1]
    · rw [bidsAt_cons_of_elsewhere there, settles.elsewhere_eq unbounded name key there]

theorem writeAll_limits {cache : Cache} (tidy : cache.shelf.Tidy) (now : Nat)
    (writes : List Write) : (cache.writeAll now writes).limits = cache.limits := by
  induction writes generalizing cache with
  | nil => rfl
  | cons write rest inductionHypothesis =>
    have settles := write_settles_bid tidy now write
    exact (inductionHypothesis settles.tidy).trans settles.limits

/-- Writes that are made again change nothing. -/
theorem writeAll_again {cache : Cache} (tidy : cache.shelf.Tidy)
    (unbounded : cache.limits.capacity = 0) (now : Nat) (writes : List Write) (name : Name)
    (key : EntryKey) :
    ((cache.writeAll now writes).writeAll now writes).entryAt? name key =
      (cache.writeAll now writes).entryAt? name key := by
  have tidyAfter : (cache.writeAll now writes).shelf.Tidy := by
    rw [writeAll_eq]
    exact Change.applyAll_tidy tidy now _
  have limits := writeAll_limits tidy now writes
  rw [entryAt?_writeAll tidyAfter (limits ▸ unbounded), limits, entryAt?_writeAll tidy unbounded]
  exact Bid.results_results now _ _

/-! ### Hearing a response again -/

/-- What a response says does not depend on the cache. -/
theorem ingestResponse_eq (cache : Cache) (now : Nat) (message : Message) :
    cache.ingestResponse now message = ((digest? message).map Digest.ingested,
      cache.writeAll now (((digest? message).map Digest.writes).getD [])) := by
  unfold ingestResponse
  cases digest? message with
  | none => rfl
  | some digest => rfl

/-- No record of a coherent set is the same as another, and no signature is the same as a record.
-/
theorem apart_of_coherent {set : RRset} (coherent : set.Coherent) :
    set.all.Pairwise fun first second => ¬ first ≈ second := by
  refine List.pairwise_append.mpr ⟨coherent.distinct, coherent.distinctSignatures, ?_⟩
  intro record isRecord signature isSignature same
  have unsigned := coherent.records record isRecord
  rw [Record.isSignature, Record.type_eq_of_equiv record signature same] at unsigned
  exact Bool.false_ne_true (unsigned.symm.trans (coherent.signatures signature isSignature))

/-- A cache with room for all names that hears a response a second time, at the same time as the
first, reports the same of it and has the same entries as before. No set of it holds a record
twice. -/
theorem ingestResponse_again {cache : Cache} (reachable : Reachable cache)
    (unbounded : cache.limits.capacity = 0) (now : Nat) (message : Message) :
    let once := cache.ingestResponse now message
    let twice := once.2.ingestResponse now message
    twice.1 = once.1 ∧
      (∀ name key, twice.2.entryAt? name key = once.2.entryAt? name key) ∧
      ∀ name key entry set, twice.2.entryAt? name key = some entry → entry.set? = some set →
        set.all.Pairwise fun first second => ¬ first ≈ second := by
  intro once twice
  have onceReachable : Reachable once.2 := reachable.operation now (.ingest message) trivial
  have twiceReachable : Reachable twice.2 := onceReachable.operation now (.ingest message) trivial
  refine ⟨?_, fun name key => ?_, fun name key entry set found isSet =>
    apart_of_coherent (twiceReachable.inPlace name key entry set found isSet).1⟩
  · show (once.2.ingestResponse now message).1 = (cache.ingestResponse now message).1
    rw [ingestResponse_eq, ingestResponse_eq]
  · show ((cache.ingestResponse now message).2.ingestResponse now message).2.entryAt? name key =
      (cache.ingestResponse now message).2.entryAt? name key
    rw [ingestResponse_eq, ingestResponse_eq]
    exact writeAll_again reachable.tidy unbounded now _ name key

/-- A response with an address of `w.`, another one that comes along, and the server of the zone,
which is not to be kept. -/
def echoedResponse : Message :=
  { Message.responseTo (Message.query addressQuestion) with
    answers := [Record.address 1 300]
    authority := [⟨Name.ofOctets [0x77], .inet, 0, .ns (Name.ofOctets [0x77])⟩]
    additional := [Record.address 2 300] }

/-- A cache with a hint at the server of the zone. -/
def zoneHint : Cache :=
  (Change.storeSet (RRset.ofRecord ⟨Name.ofOctets [0x77], .inet, 300, .ns (Name.ofOctets [0x67])⟩)
    .hint).apply 1000 (Cache.new .inet ⟨0, none, 3600⟩)

/-- The address is written twice and the hint is cleared, and all is the same after a second
hearing. -/
theorem echoedResponse_again :
    let once := zoneHint.ingestResponse 1000 echoedResponse
    let twice := once.2.ingestResponse 1000 echoedResponse
    Reachable zoneHint ∧ zoneHint.limits.capacity = 0 ∧ once.1 ≠ none ∧ twice.1 = once.1 ∧
      zoneHint.entryAt? (Name.ofOctets [0x77]) (.type .ns) ≠ none ∧
      twice.2.entryAt? (Name.ofOctets [0x77]) (.type .ns) = none ∧
      twice.2.entryAt? (Name.ofOctets [0x77]) (.type .a) =
        some ⟨.positive (RRset.ofRecord (Record.address 1 300)), .nonAuthAnswer, 1300⟩ := by
  have reachable : Reachable zoneHint :=
    (Reachable.new .inet ⟨0, none, 3600⟩).step 1000 _ (RRset.ofRecord_coherent _)
  obtain ⟨outcome, entries, _⟩ := ingestResponse_again reachable rfl 1000 echoedResponse
  exact ⟨reachable, rfl, by decide +kernel, outcome, by decide +kernel,
    (entries _ _).trans (by decide +kernel), (entries _ _).trans (by decide +kernel)⟩

end StubResolver.Cache
