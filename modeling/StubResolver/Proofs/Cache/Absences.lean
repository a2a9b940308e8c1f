/-
This file is about the names of which a cache records that they have nothing. A response tells that
something is missing, but not of which name. The cache takes it to mean the name that the trail has
come to, and records the absence there.

A trail should end because there is no alias to follow from where it has come. It also ends when the
only aliases left have been crossed before, when an alias leads nowhere, and when enough aliases
were crossed. And a redirection is overlooked whose labels are not aligned with those of the name.
In all these cases the response itself has something to say about the end of the trail, and the
absence denies it. In all others it has nothing to say, and the absence is no more than what it
tells.
-/

import StubResolver.Proofs.Cache.Cycle
import StubResolver.Proofs.Cache.Denial
import StubResolver.Proofs.Cache.Footprint

namespace StubResolver

/-- A set makes something else of a name: it is an alias of the name, or it redirects the names
below its owner, of which this is one. -/
def RRset.Redirects (set : RRset) (name : Name) : Prop :=
  set.type = .cname ∧ set.name ≈ name ∨ set.type = .dname ∧ name.LiesBelow set.name

namespace Cache

/-! ### What is installed -/

/-- What has been installed stands first, in the first slot. -/
theorem Shelf.head?_install (shelf : Shelf) (capacity : Nat) (name : Name) (key : EntryKey)
    (entry : Entry) : ∃ owner others, owner ≈ name ∧
      (shelf.install capacity name key entry).head? = some ⟨owner, (key, entry) :: others⟩ := by
  unfold install
  split
  · rename_i slot found
    exact ⟨slot.owner, slot.entries.erase key, owner_of_slot? found, rfl⟩
  · refine ⟨name, [], Setoid.refl name, ?_⟩
    unfold fit
    split
    · rfl
    · rename_i bounded
      rw [List.head?_take, if_neg bounded]
      rfl

/-- A cache shows what was installed last. -/
theorem Installs.unique {now later : Nat} {before other after : Cache} {name owner : Name}
    {key ownKey : EntryKey} {entry ownEntry : Entry}
    (installs : Installs now before after name key entry)
    (also : Installs later other after owner ownKey ownEntry) :
    name ≈ owner ∧ key = ownKey ∧ entry = ownEntry := by
  obtain ⟨holder, _, named, first⟩ := Shelf.head?_install
    (before.dropExpired now name key).shelf (before.dropExpired now name key).limits.capacity name
    key entry
  obtain ⟨_, _, alsoNamed, alsoFirst⟩ := Shelf.head?_install
    (other.dropExpired later owner ownKey).shelf
    (other.dropExpired later owner ownKey).limits.capacity owner ownKey ownEntry
  have shelves := congrArg (fun cache => cache.shelf.head?) (installs.symm.trans also)
  have same := Option.some.inj ((first.symm.trans shelves).trans alsoFirst)
  rw [Slot.mk.injEq, List.cons.injEq, Prod.mk.injEq] at same
  obtain ⟨rfl, ⟨rfl, rfl⟩, _⟩ := same
  exact ⟨Setoid.trans (Setoid.symm named) alsoNamed, rfl, rfl⟩

section

variable {cache : Cache} {now : Nat} {name owner : Name} {key ownKey : EntryKey} {entry : Entry}

/-- What an addition installs is what is added, in the place that it is added to. -/
theorem settle_installs (tidy : cache.shelf.Tidy) {credibility : Credibility}
    {fresh : Option Entry}
    (installs : Installs now cache ((cache.dropExpired now owner ownKey).settle owner ownKey
      credibility fresh) name key entry) :
    name ≈ owner ∧ fresh = some entry := by
  have counted := (installs.found tidy).2
  have notQuiet (quiet : Quiet cache ((cache.dropExpired now owner ownKey).settle owner ownKey
      credibility fresh)) : False := by
    rw [quiet.insertions] at counted
    omega
  have dropped := dropExpired_quiet cache now owner ownKey
  unfold settle at installs notQuiet
  cases fresh with
  | none => exact (notQuiet (dropped.trans (displace_quiet _ _ _ _))).elim
  | some added =>
    dsimp only at installs notQuiet
    split at installs
    · rename_i outranked
      rw [if_pos outranked] at notQuiet
      exact (notQuiet dropped).elim
    · obtain ⟨same, _, rfl⟩ := installs.unique rfl
      exact ⟨same, rfl⟩

/-- A set that is added is installed as a set. -/
theorem storeSet_installs (tidy : cache.shelf.Tidy) {set : RRset} {credibility : Credibility}
    (installs : Installs now cache (cache.storeSet now set credibility) name key entry) :
    entry.data ≠ .negative := by
  rw [storeSet_eq] at installs
  have added := (settle_installs tidy installs).2
  unfold entryOfSet? at added
  split at added
  · cases added
  · cases added
    exact EntryData.noConfusion

theorem storeAbsence_installs (tidy : cache.shelf.Tidy) {zoneStart : Option Record}
    {credibility : Credibility}
    (installs : Installs now cache (cache.storeAbsence now owner ownKey zoneStart credibility) name
      key entry) :
    name ≈ owner := by
  rw [storeAbsence_eq] at installs
  exact (settle_installs tidy installs).1

/-- An absence that a response attests is installed, unless something more credible stands there or
it does not last. -/
theorem installedDuring_of_write {message : Message} {digest : Digest}
    (said : digest? message = some digest) (earlier later : List Write) (zoneStart : Option Record)
    (credibility : Credibility)
    (writes : digest.writes = earlier ++ .absence name key zoneStart credibility :: later)
    (lasts : entryOfAbsence? (Change.applyAll now (earlier.map Change.ofWrite) cache).limits now
      zoneStart credibility = some entry)
    (free : ((Change.applyAll now (earlier.map Change.ofWrite) cache).dropExpired now name
      key).outranks name key credibility = false) :
    InstalledDuring name key entry [(now, .ingest message)] cache := by
  have steps : (Operation.ingest message).changes now cache =
      earlier.map Change.ofWrite ++ .storeAbsence name key zoneStart credibility ::
        later.map Change.ofWrite := by
    show ((digest? message).map fun digest => digest.writes.map Change.ofWrite).getD [] = _
    rw [said, Option.map_some, Option.getD_some, writes, List.map_append]
    rfl
  refine .here steps (Setoid.refl name) ?_
  show Installs now _ (Cache.storeAbsence _ now name key zoneStart credibility) name key entry
  rw [storeAbsence_eq, lasts]
  unfold settle
  dsimp only
  rw [free]
  rfl

/-- Where a response has an absence recorded. -/
theorem name_of_absence (reachable : Reachable cache) {message : Message}
    (nothing : entry.data = .negative)
    (installed : InstalledDuring name key entry [(now, .ingest message)] cache) :
    ∃ question, message.question = some question ∧
      name ≈ (trailThrough message question).current ∧
      (trailThrough message question).finals = [] := by
  cases installed with
  | later after => cases after
  | @here _ _ _ _ earlier later change owner steps same installs =>
    have coherent := (Operation.ingest message).changes_coherent trivial now cache
    rw [steps] at coherent
    have tidy := (reachable.applyAll now earlier fun other member =>
      coherent other (List.mem_append_left _ member)).tidy
    have member : change ∈ (Operation.ingest message).changes now cache :=
      steps ▸ List.mem_append_right _ List.mem_cons_self
    cases Operation.takes_of_mem_changes member with
    | ingest _ question write asked _ written =>
      refine ⟨question, asked, ?_⟩
      have stems := digestFor_stems message question write written
      cases stems with
      | absence key zoneStart incomplete about =>
        exact ⟨Setoid.trans (Setoid.symm same) (storeAbsence_installs tidy installs), incomplete⟩
      | _ => exact absurd nothing (storeSet_installs tidy installs)

end

/-! ### How a trail ends -/

/-- The sets of the aliases that a trail has crossed. -/
def Trail.crossedSets (trail : Trail) : List RRset := trail.used.take trail.aliases.length

/-- Why a trail has ended without an answer. -/
inductive Trail.Ends (trail : Trail) (answers : List RRset) (type : RecordType) (hops : Nat) :
    Prop where
  /-- It has crossed all the aliases that it may cross. -/
  | exhausted (full : trail.aliases.length = hops)
  /-- No set answers, and every alias has been crossed. -/
  | spent (unanswered : answers.filter (answersQuestion trail.current type) = [])
      (crossed : ∀ set ∈ answers, isAliasFor set trail.current = true → set ∈ trail.crossedSets)
  /-- No set answers, and the last alias leads nowhere. -/
  | lost (unanswered : answers.filter (answersQuestion trail.current type) = [])
      (stuck : trail.aliases.length < trail.used.length)

/-- Each member of a list is the one found first, or still there when that is taken away. -/
theorem eq_or_mem_eraseP {sets : List RRset} {holds : RRset → Bool} {first set : RRset}
    (found : sets.find? holds = some first) (member : set ∈ sets) :
    set = first ∨ set ∈ sets.eraseP holds := by
  obtain ⟨isFirst, before, after, rfl, none⟩ := List.find?_eq_some_iff_append.mp found
  have erased : (before ++ first :: after).eraseP holds = before ++ after := by
    rw [List.eraseP_append_right _ fun other inside => by simpa using none other inside,
      List.eraseP_cons_of_pos isFirst]
  rw [erased]
  rcases List.mem_append.mp member with early | late
  · exact Or.inr (List.mem_append_left _ early)
  · exact (List.mem_cons.mp late).imp_right (List.mem_append_right _)

/-- Following aliases goes on until there is a reason to end. -/
theorem follow_ends {answers : List RRset} {type : RecordType} (hops : Nat) (unused : List RRset)
    (trail : Trail) (known : ∀ set ∈ answers, set ∈ unused ∨ set ∈ trail.used)
    (alike : trail.used.length = trail.aliases.length)
    (unfinished : (follow answers type hops unused trail).finals = []) :
    (follow answers type hops unused trail).Ends answers type (trail.aliases.length + hops) := by
  induction hops generalizing unused trail with
  | zero => exact .exhausted rfl
  | succ hops inductionHypothesis =>
    unfold follow at unfinished ⊢
    split
    · rename_i unanswered
      rw [unanswered] at unfinished
      split
      · rename_i none
        refine .spent unanswered fun set member standsFor => ?_
        have isUsed := (known set member).resolve_left fun inside =>
          List.find?_eq_none.mp none set inside standsFor
        unfold Trail.crossedSets
        rwa [← alike, List.take_length]
      · rename_i set found
        rw [found] at unfinished
        dsimp only at unfinished ⊢
        split
        · refine .lost unanswered ?_
          show trail.aliases.length < (trail.used ++ [set]).length
          rw [List.length_append, alike]
          exact Nat.lt_succ_self _
        · rename_i next destination
          rw [destination] at unfinished
          have ends := inductionHypothesis _ _ ?_ ?_ unfinished
          · rwa [List.length_append, List.length_singleton, Nat.add_right_comm,
              Nat.add_assoc] at ends
          · intro other member
            rcases known other member with inside | isUsed
            · rcases eq_or_mem_eraseP found inside with rfl | left
              · exact Or.inr (List.mem_append_right _ (List.mem_singleton_self _))
              · exact Or.inl left
            · exact Or.inr (List.mem_append_left _ isUsed)
          · show (trail.used ++ [set]).length = (trail.aliases ++ [trail.current]).length
            rw [List.length_append, List.length_append, alike]
            rfl
    · rename_i answered
      split at unfinished
      · rename_i unanswered
        exact absurd unanswered answered
      · exact absurd unfinished answered

theorem trailOf_ends (question : Question) (answers : List RRset)
    (unfinished : (trailOf question answers).finals = []) :
    (trailOf question answers).Ends answers question.type (maxAliases + 1) := by
  have ends := follow_ends (maxAliases + 1) answers ⟨question.name.toAbsolute, [], [], []⟩
    (fun _ member => Or.inl member) rfl unfinished
  rwa [List.length_nil, Nat.zero_add] at ends

/-! ### What a response says of the end -/

end Cache

open Cache

/-- The answer section of a message has a set that answers its question for a name, or one that
makes something else of the name. -/
def Message.SpeaksOf (message : Message) (question : Question) (name : Name) : Prop :=
  ∃ set ∈ setsInClass message .answer question.recordClass,
    set.name ≈ name ∧ (question.type = .any ∨ set.type = question.type) ∨ set.Redirects name

theorem RRset.Redirects.congr {set : RRset} {name other : Name} (same : name ≈ other)
    (redirects : set.Redirects name) : set.Redirects other := by
  rcases redirects with ⟨isCname, own⟩ | ⟨isDname, below⟩
  · exact Or.inl ⟨isCname, Setoid.trans own same⟩
  · exact Or.inr ⟨isDname, below.congr same⟩

theorem Message.SpeaksOf.congr {message : Message} {question : Question} {name other : Name}
    (same : name ≈ other) (speaks : message.SpeaksOf question name) :
    message.SpeaksOf question other := by
  obtain ⟨set, member, ⟨own, asked⟩ | redirects⟩ := speaks
  · exact ⟨set, member, Or.inl ⟨Setoid.trans own same, asked⟩⟩
  · exact ⟨set, member, Or.inr (redirects.congr same)⟩

namespace Cache

/-- The trail of a question has ended where the response has something to say about the name that it
has come to. -/
inductive EndsEarly (message : Message) (question : Question) : Prop where
  /-- It has come back to a name of which an alias crossed before makes something else. -/
  | returned (set : RRset) (crossed : set ∈ (trailThrough message question).crossedSets)
      (redirects : set.Redirects (trailThrough message question).current)
  /-- There are aliases to follow, but one that leads nowhere was tried. -/
  | lost (stuck : (trailThrough message question).aliases.length <
        (trailThrough message question).used.length)
      (set : RRset) (present : set ∈ setsInClass message .answer question.recordClass)
      (redirects : set.Redirects (trailThrough message question).current)
  /-- It has crossed as many aliases as it may, and the name that they lead to is one more, or has
  an answer. -/
  | exhausted (full : (trailThrough message question).aliases.length = maxAliases + 1)
      (speaks : message.SpeaksOf question (trailThrough message question).current)
  /-- There is a redirection from above, but its labels are not aligned with those of the name. -/
  | overlooked (set : RRset) (present : set ∈ setsInClass message .answer question.recordClass)
      (isDname : set.type = .dname)
      (below : (trailThrough message question).current.LiesBelow set.name)
      (missed : (trailThrough message question).current.isWithin set.name = false)

/-- Without an answer, a response has something to say about the end of the trail exactly if the
trail has ended early. -/
theorem speaksOf_iff_endsEarly (message : Message) (question : Question)
    (incomplete : (trailThrough message question).finals = []) :
    message.SpeaksOf question (trailThrough message question).current ↔
      EndsEarly message question := by
  constructor
  · intro speaks
    have answersNot (set : RRset) (present : set ∈ setsInClass message .answer question.recordClass)
        (unanswered : (setsInClass message .answer question.recordClass).filter
          (answersQuestion (trailThrough message question).current question.type) = []) :
        ¬ (set.name ≈ (trailThrough message question).current ∧
          (question.type = .any ∨ set.type = question.type)) := by
      have nothing := List.filter_eq_nil_iff.mp unanswered set present
      unfold answersQuestion at nothing
      simpa using nothing
    cases trailOf_ends question _ incomplete with
    | exhausted full => exact .exhausted full speaks
    | lost unanswered stuck =>
      obtain ⟨set, present, own | redirects⟩ := speaks
      · exact absurd own (answersNot set present unanswered)
      · exact .lost stuck set present redirects
    | spent unanswered crossed =>
      obtain ⟨set, present, own | redirects⟩ := speaks
      · exact absurd own (answersNot set present unanswered)
      · rcases redirects with ⟨isCname, own⟩ | ⟨isDname, below⟩
        · exact .returned set (crossed set present (isAliasFor_iff.mpr (Or.inl ⟨isCname, own⟩)))
            (Or.inl ⟨isCname, own⟩)
        · cases within : (trailThrough message question).current.isWithin set.name with
          | false => exact .overlooked set present isDname below within
          | true =>
            have standsFor := isAliasFor_iff.mpr (Or.inr ⟨isDname, below.not_equiv, within⟩)
            exact .returned set (crossed set present standsFor) (Or.inr ⟨isDname, below⟩)
  · intro early
    cases early with
    | returned set crossed redirects =>
      have isUsed := (List.take_subset _ _) crossed
      exact ⟨set, (trailOf_within question _).used set isUsed, Or.inr redirects⟩
    | lost _ set present redirects => exact ⟨set, present, Or.inr redirects⟩
    | exhausted _ speaks => exact speaks
    | overlooked set present isDname below _ => exact ⟨set, present, Or.inr (Or.inr ⟨isDname, below⟩)⟩

/-- Wherever a response has an absence recorded in a cache, that is at the end of the trail through
its answers. The response has records of the type asked for there, or an alias from there, exactly
if the trail has ended early. -/
theorem absence_denies_iff {cache : Cache} (reachable : Reachable cache) {now : Nat}
    {message : Message} {name : Name} {key : EntryKey} {entry : Entry}
    (nothing : entry.data = .negative)
    (installed : InstalledDuring name key entry [(now, .ingest message)] cache) :
    ∃ question, message.question = some question ∧
      name ≈ (trailThrough message question).current ∧
      (message.SpeaksOf question name ↔ EndsEarly message question) := by
  obtain ⟨question, asked, same, incomplete⟩ := name_of_absence reachable nothing installed
  refine ⟨question, asked, same, ?_⟩
  rw [← speaksOf_iff_endsEarly message question incomplete]
  exact ⟨.congr same, .congr (Setoid.symm same)⟩

/-- The name `w.` is an alias for `g.`. -/
def aliasThere : Record := ⟨Name.ofOctets [0x77], .inet, 300, .cname (Name.ofOctets [0x67])⟩

/-- The name `g.` is an alias for `w.`. -/
def aliasBack : Record := ⟨Name.ofOctets [0x67], .inet, 300, .cname (Name.ofOctets [0x77])⟩

/-- A response to a question for the addresses of `w.` that has only aliases, and the start of the
root zone. -/
def addressless (aliases : List Record) : Message :=
  { Message.responseTo (Message.query addressQuestion) with
    answers := aliases
    authority := [rootStart] }

/-- The absence is recorded of `g.`, of which the response has nothing. -/
theorem addressless_denies_nothing :
    Reachable (Cache.new .inet ⟨0, none, 3600⟩) ∧
      InstalledDuring (Name.ofOctets [0x67]) (.type .a) ⟨.negative, .nonAuthAnswer, 1300⟩
        [(1000, .ingest (addressless [aliasThere]))] (Cache.new .inet ⟨0, none, 3600⟩) ∧
      ¬ (addressless [aliasThere]).SpeaksOf addressQuestion (Name.ofOctets [0x67]) ∧
      ¬ EndsEarly (addressless [aliasThere]) addressQuestion := by
  have reachable := Reachable.new .inet ⟨0, none, 3600⟩
  have installed : InstalledDuring (Name.ofOctets [0x67]) (.type .a)
      ⟨.negative, .nonAuthAnswer, 1300⟩ [(1000, .ingest (addressless [aliasThere]))]
      (Cache.new .inet ⟨0, none, 3600⟩) :=
    installedDuring_of_write rfl [.set (RRset.ofRecord aliasThere) .nonAuthAnswer] []
      (some rootStart) .nonAuthAnswer (by decide +kernel) (by decide +kernel) (by decide +kernel)
  obtain ⟨question, asked, _, exactly⟩ := absence_denies_iff reachable rfl installed
  cases asked
  have apart : ∀ set ∈ setsInClass (addressless [aliasThere]) .answer .inet,
      ¬ set.name ≈ Name.ofOctets [0x67] ∧ set.type ≠ .dname := by decide +kernel
  have silent : ¬ (addressless [aliasThere]).SpeaksOf addressQuestion (Name.ofOctets [0x67]) := by
    rintro ⟨set, present, ⟨own, _⟩ | ⟨_, own⟩ | ⟨isDname, _⟩⟩
    · exact (apart set present).1 own
    · exact (apart set present).1 own
    · exact (apart set present).2 isDname
  exact ⟨reachable, installed, silent, fun early => silent (exactly.mpr early)⟩

/-- Where `g.` is an alias for `w.` in turn, the absence is recorded of `w.`, of which the response
itself has an alias. -/
theorem addressless_denies_alias :
    InstalledDuring (Name.ofOctets [0x77]) (.type .a) ⟨.negative, .nonAuthAnswer, 1300⟩
        [(1000, .ingest (addressless [aliasThere, aliasBack]))]
        (Cache.new .inet ⟨0, none, 3600⟩) ∧
      (addressless [aliasThere, aliasBack]).SpeaksOf addressQuestion (Name.ofOctets [0x77]) := by
  constructor
  · exact installedDuring_of_write rfl [.set (RRset.ofRecord aliasThere) .nonAuthAnswer,
      .set (RRset.ofRecord aliasBack) .nonAuthAnswer] [] (some rootStart) .nonAuthAnswer
      (by decide +kernel) (by decide +kernel) (by decide +kernel)
  · exact ⟨RRset.ofRecord aliasThere, by decide +kernel, Or.inr (Or.inl ⟨rfl, Setoid.refl _⟩)⟩

end Cache

end StubResolver
