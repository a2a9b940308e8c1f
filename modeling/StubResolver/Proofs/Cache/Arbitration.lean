/-
This file settles that the order of additions does not matter, as long as they are made at one time
and credibility can tell them apart. Every addition offers an entry for a place. What is alive in
the place stays if it is more credible, and makes way otherwise; so the place goes to the most
credible of all offers, or stays with what was more credible than any of them.

The data has to last for this. What has nothing to keep displaces others without taking their place,
and an entry that has expired as soon as it is made counts for nothing when the next one comes. Both
would let an offer win that came late.
-/

import Mathlib.Data.List.Pairwise
import StubResolver.Proofs.Cache.Denial
import StubResolver.Proofs.Cache.Sweeping
import StubResolver.Proofs.Cache.Upkeep
import StubResolver.Proofs.Cache.Zone

namespace StubResolver.Cache

/-! ### Additions that last -/

/-- Additions of data that is to be kept: sets with a lifetime, and absences attested by the start
of a zone that lets them be remembered. -/
def Operation.Lasting : Operation → Prop
  | addSet set _ => set.Coherent ∧ set.ttl ≠ 0
  | addAbsence _ key zoneStart _ => key ≠ .type .any ∧ ∃ record start,
      zoneStart = some record ∧ record.ttl ≠ 0 ∧ record.data = .soa start ∧ start.minimum ≠ 0
  | _ => False

/-- The place that an addition is about, and the credibility of what it adds. -/
def Operation.place? : Operation → Option (Name × EntryKey × Credibility)
  | addSet set credibility => some (set.name.toAbsolute, .type set.type, credibility)
  | addAbsence name key _ credibility => some (name.toAbsolute, key, credibility)
  | _ => none

/-- Additions that are not about one place, or that credibility tells apart. -/
def Operation.ToldApart (first second : Operation) : Prop :=
  ∀ one ∈ first.place?, ∀ other ∈ second.place?,
    one.1 ≈ other.1 → one.2.1 = other.2.1 → one.2.2 ≠ other.2.2

instance : Std.Symm Operation.ToldApart where
  symm _ _ apart one isOne other isOther same equal :=
    (apart other isOther one isOne (Setoid.symm same) equal.symm).symm

/-! ### Offers -/

/-- An entry that is offered for a place. -/
structure Offer where
  name : Name
  key : EntryKey
  entry : Entry

/-- What an addition offers, unless it is refused or has nothing to keep. -/
def Operation.offer? (limits : CacheLimits) (now : Nat) : Operation → Option Offer
  | addSet set credibility =>
    if set.type.isMeta then none
    else (entryOfSet? limits now set.toAbsolute credibility).map
      (⟨set.name.toAbsolute, .type set.type, ·⟩)
  | addAbsence name key zoneStart credibility =>
    (entryOfAbsence? limits now zoneStart credibility).map (⟨name.toAbsolute, key, ·⟩)
  | _ => none

/-- What is found in every place. -/
abbrev View := Name → EntryKey → Option Entry

/-- What is found after an offer was made, if one was. -/
def View.accept (now : Nat) (view : View) : Option Offer → View
  | none => view
  | some offer => fun name key =>
    if offer.name ≈ name ∧ offer.key = key then
      settled ((view name key).filter fun entry => !entry.isExpired now) offer.entry
        offer.entry.credibility
    else
      view name key

/-- The more credible of two entries stands, and the new one if they are equally credible. -/
theorem settled_some (standing fresh : Entry) :
    settled (some standing) (some fresh) fresh.credibility =
      some (if fresh.credibility < standing.credibility then standing else fresh) := by
  unfold settled
  by_cases outranks : fresh.credibility < standing.credibility <;>
    simp [Option.filter_some, outranks]

/-- What stands is alive, if what was offered is. -/
theorem settled_filter {standing : Option Entry} {fresh : Entry} {alive : Entry → Bool}
    (freshAlive : alive fresh = true) (credibility : Credibility) :
    (settled (standing.filter alive) (some fresh) credibility).filter alive =
      settled (standing.filter alive) (some fresh) credibility := by
  cases found : settled (standing.filter alive) (some fresh) credibility with
  | none => rfl
  | some entry =>
    rw [Option.filter_some, if_pos]
    rcases settled_cases found with stands | new
    · exact (Option.filter_eq_some_iff.mp stands).2
    · rwa [← Option.some_inj.mp new]

/-- Of two entries that credibility tells apart, the same one stands whichever was offered first. -/
theorem settled_comm {standing : Option Entry} {alive : Entry → Bool} {first second : Entry}
    (firstAlive : alive first = true) (secondAlive : alive second = true)
    (apart : first.credibility ≠ second.credibility) :
    settled ((settled (standing.filter alive) (some first) first.credibility).filter alive)
        (some second) second.credibility =
      settled ((settled (standing.filter alive) (some second) second.credibility).filter alive)
        (some first) first.credibility := by
  have ranks : first.credibility.rank ≠ second.credibility.rank :=
    fun same => apart (Credibility.rank_injective _ _ same)
  rw [settled_filter firstAlive, settled_filter secondAlive]
  cases standing.filter alive with
  | none =>
    have alone (fresh : Entry) : settled none (some fresh) fresh.credibility = some fresh := rfl
    rw [alone, alone, settled_some, settled_some]
    simp only [Credibility.lt_iff_rank]
    split <;> split <;> first | rfl | omega
  | some standing =>
    simp only [settled_some, Credibility.lt_iff_rank]
    grind

/-- Offers of entries that are alive and told apart can be made in either order. -/
theorem View.accept_comm {now : Nat} (view : View) {first second : Offer}
    (firstAlive : first.entry.isExpired now = false)
    (secondAlive : second.entry.isExpired now = false)
    (apart : first.name ≈ second.name → first.key = second.key →
      first.entry.credibility ≠ second.entry.credibility) :
    (view.accept now (some first)).accept now (some second) =
      (view.accept now (some second)).accept now (some first) := by
  funext name key
  by_cases isFirst : first.name ≈ name ∧ first.key = key
  · by_cases isSecond : second.name ≈ name ∧ second.key = key
    · have differ := apart (Setoid.trans isFirst.1 (Setoid.symm isSecond.1))
        (isFirst.2.trans isSecond.2.symm)
      simp only [accept, if_pos isFirst, if_pos isSecond]
      exact settled_comm (by simp [firstAlive]) (by simp [secondAlive]) differ
    · simp only [accept, if_pos isFirst, if_neg isSecond]
  · simp only [accept, if_neg isFirst]

/-! ### What additions offer -/

section

variable {cache : Cache} {operation : Operation} {limits : CacheLimits} {now : Nat} {offer : Offer}

/-- An addition offers an entry for its place, with its credibility. -/
theorem Operation.place?_of_offer? (offers : operation.offer? limits now = some offer) :
    operation.place? = some (offer.name, offer.key, offer.entry.credibility) := by
  cases operation with
  | addSet set credibility =>
    simp only [offer?, Option.ite_none_left_eq_some, Option.map_eq_some_iff] at offers
    obtain ⟨_, entry, keeps, rfl⟩ := offers
    rw [entryOfSet?_eq_some keeps]
    rfl
  | addAbsence name key zoneStart credibility =>
    obtain ⟨entry, keeps, rfl⟩ := Option.map_eq_some_iff.mp offers
    cases zoneStart with
    | none => cases keeps
    | some record =>
      simp only [entryOfAbsence?, Option.ite_none_left_eq_some, Option.some_inj] at keeps
      rw [← keeps.2]
      rfl
  | _ => cases offers

/-- What an addition that lasts offers is alive. -/
theorem Operation.Lasting.offer?_alive (lasting : operation.Lasting) (inTime : now < lastSecond)
    (keepsSets : limits.longestPositive ≠ some 0) (keepsAbsences : limits.longestNegative ≠ 0)
    (offers : operation.offer? limits now = some offer) :
    offer.entry.isExpired now = false := by
  cases operation with
  | addSet set credibility =>
    simp only [offer?, Option.ite_none_left_eq_some, Option.map_eq_some_iff] at offers
    obtain ⟨_, entry, keeps, rfl⟩ := offers
    rw [entryOfSet?_eq_some keeps]
    refine ofSet_alive inTime ?_ keepsSets credibility
    rw [RRset.toAbsolute_ttl lasting.1]
    exact lasting.2
  | addAbsence name key zoneStart credibility =>
    obtain ⟨_, record, start, rfl, notZero, data, lasts⟩ := lasting
    obtain ⟨entry, keeps, rfl⟩ := Option.map_eq_some_iff.mp offers
    simp only [entryOfAbsence?, if_neg notZero, data, RecordData.minimum?, Option.getD_some,
      Option.some_inj] at keeps
    rw [← keeps]
    exact ofAbsence_alive inTime lasts keepsAbsences credibility
  | _ => cases lasting

/-- What an addition comes to that settles its place. -/
theorem Settles.entryAt?_eq {after : Cache} {name : Name} {key : EntryKey} {fresh : Entry}
    (unbounded : cache.limits.capacity = 0)
    (settles : Settles cache after name key
      (settled (cache.live? now name key) (some fresh) fresh.credibility)) :
    after.entryAt? = View.accept now cache.entryAt? (some ⟨name, key, fresh⟩) := by
  funext other otherKey
  by_cases there : name ≈ other ∧ key = otherKey
  · obtain ⟨same, rfl⟩ := there
    rw [settles.there other same, live?_congr cache same]
    simp only [View.accept, same, and_self, if_true]
    rfl
  · rw [settles.elsewhere_eq unbounded other otherKey there]
    simp only [View.accept, if_neg there]

/-- An addition that lasts makes its offer, and does nothing else to the entries. -/
theorem Operation.Lasting.apply (lasting : operation.Lasting) (tidy : cache.shelf.Tidy)
    (unbounded : cache.limits.capacity = 0) (keepsSets : cache.limits.longestPositive ≠ some 0)
    (now : Nat) :
    (operation.apply now cache).limits = cache.limits ∧
      (operation.apply now cache).entryAt? =
        View.accept now cache.entryAt? (operation.offer? cache.limits now) := by
  rw [Operation.apply_eq]
  cases operation with
  | addSet set credibility =>
    simp only [changes, offer?]
    split
    · exact ⟨rfl, rfl⟩
    · have settles := storeSet_settles tidy now set.toAbsolute credibility
      have fresh : entryOfSet? cache.limits now set.toAbsolute credibility =
          some (Entry.ofSet set.toAbsolute credibility now cache.limits.longestPositive) := by
        unfold entryOfSet?
        rw [RRset.toAbsolute_ttl lasting.1, if_neg (not_or.mpr ⟨lasting.2, keepsSets⟩)]
      rw [RRset.toAbsolute_name lasting.1, RRset.toAbsolute_type lasting.1, fresh] at settles
      simp only [fresh, Option.map_some]
      exact ⟨settles.limits, settles.entryAt?_eq unbounded⟩
  | addAbsence name key zoneStart credibility =>
    obtain ⟨notAll, record, start, rfl, notZero, data, _⟩ := lasting
    have settles := storeAbsence_settles tidy now name.toAbsolute key (some record) credibility
    simp only [changes, offer?, if_neg notAll, entryOfAbsence?, if_neg notZero, Option.map_some]
      at settles ⊢
    exact ⟨settles.limits, settles.entryAt?_eq unbounded⟩
  | _ => cases lasting

end

/-! ### Additions in any order -/

variable {cache : Cache}

/-- Additions that last make their offers one after the other. -/
theorem Operation.run_lasting (now : Nat) (operations : List Operation)
    (lasting : ∀ operation ∈ operations, operation.Lasting) (reachable : Reachable cache)
    (unbounded : cache.limits.capacity = 0) (keepsSets : cache.limits.longestPositive ≠ some 0) :
    let after := Operation.run (operations.map (now, ·)) cache
    Reachable after ∧ after.limits = cache.limits ∧
      after.entryAt? = operations.foldl
        (fun view operation => View.accept now view (operation.offer? cache.limits now))
        cache.entryAt? := by
  -- over the additions left, whatever cache the earlier ones have led to
  induction operations generalizing cache with
  | nil => exact ⟨reachable, rfl, rfl⟩
  | cons operation rest inductionHypothesis =>
    have lasts := lasting operation List.mem_cons_self
    have coherent : operation.Coherent := by
      cases operation with
      | addSet set credibility => exact lasts.1
      | _ => exact trivial
    obtain ⟨limits, entries⟩ := lasts.apply reachable.tidy unbounded keepsSets now
    have others := inductionHypothesis (fun other later => lasting other
      (List.mem_cons_of_mem _ later)) (reachable.operation now operation coherent)
      (limits ▸ unbounded) (limits ▸ keepsSets)
    rw [limits, entries] at others
    exact others

/-- In a cache with room for all names, additions that are made at one time, whose data lasts, and
which credibility tells apart where they are about one place, leave the same entries in whatever
order they are made. So every lookup has the same outcome afterwards, and whatever is asked of the
cache from then on, callers get the same replies, however it is swept in between. -/
theorem additions_commute {cache : Cache} (reachable : Reachable cache)
    (unbounded : cache.limits.capacity = 0) (keepsSets : cache.limits.longestPositive ≠ some 0)
    (keepsAbsences : cache.limits.longestNegative ≠ 0) (now : Nat) (inTime : now < lastSecond)
    {operations reordered : List Operation} (permutation : operations.Perm reordered)
    (lasting : ∀ operation ∈ operations, operation.Lasting)
    (apart : operations.Pairwise Operation.ToldApart) :
    let after := Operation.run (operations.map (now, ·)) cache
    let otherwise := Operation.run (reordered.map (now, ·)) cache
    (∀ name key, otherwise.entryAt? name key = after.entryAt? name key) ∧
    (∀ time name type least,
      (otherwise.lookup time name type least).1 = (after.lookup time name type least).1) ∧
    ∀ events : List (Nat × Event), (∀ event ∈ events, now ≤ event.1) →
      (events.Pairwise fun event next => event.1 ≤ next.1) →
      (∀ event ∈ events, event.2.operation.Coherent) →
      replies events otherwise = replies events after := by
  intro after otherwise
  obtain ⟨afterReachable, afterLimits, afterEntries⟩ :=
    Operation.run_lasting now operations lasting reachable unbounded keepsSets
  obtain ⟨otherReachable, otherLimits, otherEntries⟩ :=
    Operation.run_lasting now reordered (fun operation member => lasting operation
      (permutation.mem_iff.mpr member)) reachable unbounded keepsSets
  have same : otherwise.entryAt? = after.entryAt? := by
    rw [otherEntries, afterEntries]
    refine (permutation.foldl_eq' (fun first isFirst second isSecond view => ?_) _).symm
    by_cases equal : first = second
    · rw [equal]
    cases offers : first.offer? cache.limits now with
    | none => rfl
    | some offer =>
      cases others : second.offer? cache.limits now with
      | none => rfl
      | some other =>
        refine View.accept_comm view ?_ ?_ ?_
        · exact (lasting first isFirst).offer?_alive inTime keepsSets keepsAbsences offers
        · exact (lasting second isSecond).offer?_alive inTime keepsSets keepsAbsences others
        · exact apart.forall isFirst isSecond equal _ (Operation.place?_of_offer? offers) _
            (Operation.place?_of_offer? others)
  have twins (time : Nat) : Twins time after otherwise :=
    ⟨afterReachable, otherReachable, afterLimits ▸ unbounded, otherLimits.trans afterLimits.symm,
      fun name key => by unfold live?; rw [same]⟩
  refine ⟨fun name key => congrFun (congrFun same name) key,
    fun time name type least => Call.lookup_reply (twins time) name type least,
    fun events notBefore inOrder coherent => ?_⟩
  have own := Twins.refl otherReachable (otherLimits ▸ unbounded) now
  rw [← own.replies events notBefore inOrder coherent]
  exact (twins now).replies events notBefore inOrder coherent

/-- Three things that are said about the addresses of `w.` at one time, one of them that there are
none. -/
def rivals : List Operation :=
  [.addSet (RRset.ofRecord (Record.address 1 300)) .additional,
    .addAbsence (Name.ofOctets [0x77]) (.type .a) (some rootStart) .authAnswer,
    .addSet (RRset.ofRecord (Record.address 2 300)) .nonAuthAnswer]

/-- A cache that heard of an address from a zone, which has expired by then. -/
def outdatedCache : Cache :=
  (Change.storeSet (RRset.ofRecord (Record.address 3 60)) .zone).apply 900
    (Cache.new .inet ⟨0, none, 3600⟩)

/-- The absence prevails, whether it was said before the most credible address or after it. -/
theorem rivals_commute :
    let after := Operation.run (rivals.map (1000, ·)) outdatedCache
    let otherwise := Operation.run (rivals.reverse.map (1000, ·)) outdatedCache
    (∀ name key, otherwise.entryAt? name key = after.entryAt? name key) ∧
      after.entryAt? (Name.ofOctets [0x77]) (.type .a) = some ⟨.negative, .authAnswer, 1300⟩ ∧
      (otherwise.lookup 1100 (Name.ofOctets [0x77]) .a .normal).1 = .nxRRset := by
  intro after otherwise
  have reachable : Reachable outdatedCache :=
    (Reachable.new .inet ⟨0, none, 3600⟩).step 900 _ (RRset.ofRecord_coherent _)
  have lasting : ∀ operation ∈ rivals, operation.Lasting := by
    intro operation member
    simp only [rivals, List.mem_cons, List.not_mem_nil, or_false] at member
    rcases member with rfl | rfl | rfl
    · exact ⟨RRset.ofRecord_coherent _, by decide +kernel⟩
    · exact ⟨by decide, rootStart, _, rfl, by decide, rfl, by decide⟩
    · exact ⟨RRset.ofRecord_coherent _, by decide +kernel⟩
  have apart : rivals.Pairwise Operation.ToldApart := by
    simp [rivals, Operation.ToldApart, Operation.place?]
  obtain ⟨same, lookups, _⟩ := additions_commute reachable rfl (by decide) (by decide)
    1000 (by decide) (List.reverse_perm rivals).symm lasting apart
  refine ⟨same, by decide +kernel, ?_⟩
  rw [lookups]
  decide +kernel

end StubResolver.Cache
