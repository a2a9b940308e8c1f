/-
This file settles whether a cache can deny a name that it holds records of. It can. What was said
about a name as a whole and what was said about one of its types are kept under keys of their own,
and neither displaces the other, in whatever order they came. When both can be used, the records
come first: the name is denied only to those who ask for a type of which nothing is known, and only
if it neither stands for another name nor is the start of a zone.

Above the name that was asked for nothing can deny it, so all depends on the rules of one level.
-/

import StubResolver.Proofs.Cache.Levels

namespace StubResolver

namespace Cache

/-! ### Which rule speaks -/

/-- A name above the one that was asked for neither denies it nor answers. -/
theorem ancestorRules_speak {level : Level} {outcome : Outcome}
    (spoken : firstToSpeak level.ancestorRules = some outcome) :
    ∃ set, outcome = .dname set ∨ outcome = .delegation set := by
  obtain ⟨rule, member, speaks⟩ := List.exists_of_findSome?_eq_some spoken
  rw [id_eq] at speaks
  simp only [Level.ancestorRules, List.mem_cons, List.not_mem_nil, or_false] at member
  rcases member with rfl | rfl
  · obtain ⟨set, _, rfl⟩ := Option.map_eq_some_iff.mp speaks
    exact ⟨set, Or.inl rfl⟩
  · obtain ⟨set, _, rfl⟩ := Option.map_eq_some_iff.mp speaks
    exact ⟨set, Or.inr rfl⟩

/-- An outcome that no name above can come to is the verdict of the name itself. -/
theorem decision_verdicts_eq_iff (view : Name → Level) (name : Name) (type : RecordType)
    {outcome : Outcome} (known : outcome ≠ .unknown)
    (own : ∀ set, outcome ≠ .dname set ∧ outcome ≠ .delegation set) :
    decision (verdicts view name type) = outcome ↔
      firstToSpeak ((view name).exactRules type) = some outcome := by
  have notAbove : ∀ names, firstToSpeak ((ancestorVerdicts view names).map Prod.snd) ≠
      some outcome := by
    intro names spoken
    obtain ⟨verdict, member, speaks⟩ := List.exists_of_findSome?_eq_some spoken
    rw [id_eq] at speaks
    unfold ancestorVerdicts at member
    rw [List.map_map, List.mem_map] at member
    obtain ⟨above, _, rfl⟩ := member
    obtain ⟨set, isDname | isDelegation⟩ := ancestorRules_speak speaks
    · exact (own set).1 isDname
    · exact (own set).2 isDelegation
  unfold decision verdicts
  rw [List.map_cons]
  unfold firstToSpeak
  rw [List.findSome?_cons]
  dsimp only [id_eq]
  cases (view name).exactRules type |>.findSome? id with
  | some verdict =>
    dsimp only
    rw [Option.getD_some, Option.some_inj]
  | none =>
    dsimp only
    refine ⟨fun decided => ?_, nofun⟩
    cases spoken : List.findSome? id
        ((ancestorVerdicts view (shortened name name.labelCount)).map Prod.snd) with
    | none =>
      rw [spoken] at decided
      exact absurd decided.symm known
    | some verdict =>
      rw [spoken, Option.getD_some] at decided
      exact absurd (decided ▸ spoken) (notAbove _)

namespace Level

variable {level : Level} {type : RecordType}

/-- Records are held at a level if one of its types has a usable set. -/
def HoldsRecords (level : Level) : Prop := ∃ type set, level.set? type = some set

/-- A name is denied for a type if it is said not to exist, and nothing else is said before. -/
structure Denies (level : Level) (type : RecordType) : Prop where
  denied : (level .name).isSome
  nothingOfType : level (.type type) = none
  noAlias : level.set? .cname = none
  noZone : level.set? .ns = none

theorem sets_eq_nil_iff : level.sets = [] ↔ ¬ level.HoldsRecords := by
  unfold HoldsRecords
  rw [List.eq_nil_iff_forall_not_mem]
  simp only [mem_sets, not_exists]
  exact forall_comm

/-- A level that speaks of one type denies it if all other rules are silent. -/
theorem exactRules_denies_iff (notAll : type ≠ .any) :
    firstToSpeak (level.exactRules type) = some .nxDomain ↔ level.Denies type := by
  unfold exactRules firstToSpeak
  rw [if_neg notAll]
  constructor
  · intro spoken
    have said : level.answer? type = none := by
      cases held : level (.type type) with
      | none => exact congrArg (Option.map _) held
      | some entry =>
        have answers : level.answer? type = some ((entry.set?.map .single).getD .nxRRset) :=
          congrArg (Option.map _) held
        rw [List.findSome?_cons, answers] at spoken
        cases isSet : entry.set? <;> rw [isSet] at spoken <;> cases spoken
    have alone : level.set? .cname = none := by
      cases found : level.set? .cname with
      | none => rfl
      | some set => simp [said, standsFor?, found] at spoken
    have inside : level.set? .ns = none := by
      cases found : level.set? .ns with
      | none => rfl
      | some set => simp [said, standsFor?, alone, delegates?, found] at spoken
    refine ⟨?_, Option.map_eq_none_iff.mp said, alone, inside⟩
    cases denied : level .name with
    | none => simp [said, standsFor?, alone, delegates?, inside, denies?, denied] at spoken
    | some entry => rfl
  · rintro ⟨denied, nothing, alone, inside⟩
    obtain ⟨entry, isDenied⟩ := Option.isSome_iff_exists.mp denied
    simp [answer?, nothing, standsFor?, alone, delegates?, inside, denies?, isDenied]

/-- A level that speaks of all types denies none where it holds records. -/
theorem exactRules_all_of_holdsRecords (holds : level.HoldsRecords) :
    firstToSpeak (level.exactRules .any) = some (.successful level.sets) := by
  have some := mt sets_eq_nil_iff.mp (not_not_intro holds)
  unfold exactRules firstToSpeak answersAll?
  rw [if_pos rfl, if_neg some]
  rfl

/-- Records that answer a question are held, and if the question was for one type, that type is
known. -/
theorem holdsRecords_of_exactRules {sets : List RRset}
    (answered : firstToSpeak (level.exactRules type) = some (.successful sets)) :
    level.HoldsRecords ∧ (type ≠ .any → level (.type type) ≠ none) := by
  unfold exactRules firstToSpeak at answered
  split at answered
  · rename_i all
    refine ⟨?_, fun notAll => absurd all notAll⟩
    refine Classical.byContradiction fun none => ?_
    rw [List.findSome?_cons] at answered
    unfold answersAll? denies? at answered
    rw [if_pos (sets_eq_nil_iff.mpr none)] at answered
    cases denied : level .name <;> simp [denied] at answered
  · cases held : level (.type type) with
    | none =>
      have silent : level.answer? type = none := congrArg (Option.map _) held
      cases alone : level.set? .cname <;> cases inside : level.set? .ns <;>
        cases denied : level .name <;>
        simp [silent, standsFor?, alone, delegates?, inside, denies?, denied] at answered
    | some entry =>
      refine ⟨⟨type, ?_⟩, fun _ => nofun⟩
      cases isSet : entry.set? with
      | none => simp [answer?, held, isSet] at answered
      | some set => exact ⟨set, by simp [set?, held, isSet]⟩

end Level

/-! ### Denials of names that hold records -/

variable {cache : Cache}

/-- A lookup says that a name does not exist exactly if the rules of the name itself say so. -/
theorem lookup_eq_iff (reachable : Reachable cache) (now : Nat) (name : Name) (type : RecordType)
    (least : Credibility) (outcome : Outcome) (known : outcome ≠ .unknown)
    (own : ∀ set, outcome ≠ .dname set ∧ outcome ≠ .delegation set) :
    (cache.lookup now name type least).1 = outcome ↔
      firstToSpeak ((cache.usable? now least name.toAbsolute).exactRules type) = some outcome := by
  rw [(lookup_eq reachable.tidy reachable.inPlace now name type least).1]
  exact decision_verdicts_eq_iff _ _ _ known own

/-- Where a cache has found records of a name, it denies the name exactly to those who ask for one
type of which it knows nothing, if something has said that the name does not exist, and it neither
stands for another name nor is the start of a zone. The same is said after the records were found.
So a type of which something is known is never denied, and all types together are not. -/
theorem lookup_denies_iff (reachable : Reachable cache) (now : Nat) (name : Name)
    (first second : RecordType) (least : Credibility) (sets : List RRset)
    (found : (cache.lookup now name first least).1 = .successful sets) :
    let level := cache.usable? now least name.toAbsolute
    let left := (cache.lookup now name first least).2
    ((cache.lookup now name second least).1 = .nxDomain ↔ second ≠ .any ∧ level.Denies second) ∧
      (left.lookup now name second least).1 = (cache.lookup now name second least).1 ∧
      (second = first ∨ second = .any ∨ level (.type second) ≠ none →
        (cache.lookup now name second least).1 ≠ .nxDomain) := by
  have tidy := reachable.tidy
  have inPlace := reachable.inPlace
  obtain ⟨holds, known⟩ := Level.holdsRecords_of_exactRules
    ((lookup_eq_iff reachable now name first least (.successful sets) nofun
      fun _ => ⟨nofun, nofun⟩).mp found)
  have denies : (cache.lookup now name second least).1 = .nxDomain ↔
      second ≠ .any ∧ (cache.usable? now least name.toAbsolute).Denies second := by
    rw [lookup_eq_iff reachable now name second least .nxDomain nofun fun _ => ⟨nofun, nofun⟩]
    by_cases all : second = .any
    · rw [all, Level.exactRules_all_of_holdsRecords holds]
      exact ⟨nofun, fun ⟨notAll, _⟩ => absurd rfl notAll⟩
    · rw [Level.exactRules_denies_iff all, and_iff_right all]
  refine ⟨denies, ?_, ?_⟩
  · have visits := (lookup_eq tidy inPlace now name first least).2
    have after := reachable.step now (.lookup name first least) trivial
    have outcome := (lookup_eq after.tidy after.inPlace now name second least).1
    rw [(lookup_eq tidy inPlace now name second least).1]
    exact outcome.trans (by rw [← visits.usable? least]; rfl)
  · rintro held isDenied
    obtain ⟨notAll, denied⟩ := denies.mp isDenied
    rcases held with rfl | rfl | held
    · exact known notAll denied.nothingOfType
    · exact notAll rfl
    · exact held denied.nothingOfType

/-- The root says about itself for how long it may be remembered what does not exist. -/
def rootStart : Record :=
  ⟨.root, .inet, 3600, .soa ⟨.root, .root, 1, 7200, 900, 604800, 300⟩⟩

/-- Two things that are said about `w.`: it has an address, and it does not exist. -/
def contradiction : List Change :=
  [.storeSet (RRset.ofRecord (Record.address 1 300)) .normal,
    .storeAbsence (Name.ofOctets [0x77]) .name (some rootStart) .normal]

/-- A cache that has learned several things, at one time. -/
def learned (changes : List Change) : Cache :=
  Change.applyAll 1000 changes (Cache.new .inet ⟨0, none, 3600⟩)

theorem contradiction_coherent : ∀ change ∈ contradiction, change.Coherent := by
  simp [contradiction, Change.Coherent, RRset.ofRecord_coherent]

/-- Whichever was said first: whoever asks for the texts of `w.` is told that it does not exist, and
whoever asks for its addresses is not. -/
theorem learned_denies_texts :
    let cache := learned contradiction.reverse
    Reachable cache ∧
      (cache.lookup 1100 (Name.ofOctets [0x77]) .a .normal).1 =
        .successful [RRset.ofRecord (Record.address 1 300)] ∧
      (cache.lookup 1100 (Name.ofOctets [0x77]) .txt .normal).1 = .nxDomain ∧
      (cache.lookup 1100 (Name.ofOctets [0x77]) .a .normal).1 ≠ .nxDomain := by
  intro cache
  have reachable : Reachable cache := (Reachable.new _ _).applyAll 1000 _ fun change member =>
    contradiction_coherent change (List.mem_reverse.mp member)
  have found : (cache.lookup 1100 (Name.ofOctets [0x77]) .a .normal).1 =
      .successful [RRset.ofRecord (Record.address 1 300)] := by decide +kernel
  obtain ⟨denies, _, _⟩ := lookup_denies_iff reachable 1100 (Name.ofOctets [0x77]) .a .txt .normal
    _ found
  obtain ⟨_, _, held⟩ := lookup_denies_iff reachable 1100 (Name.ofOctets [0x77]) .a .a .normal
    _ found
  exact ⟨reachable, found, denies.mpr ⟨by decide, by decide +kernel, by decide +kernel,
    by decide +kernel, by decide +kernel⟩, held (Or.inl rfl)⟩

/-- It is not so that a name of which records are found is never denied. -/
theorem lookup_denies_name_with_records :
    ¬ ∀ cache, Reachable cache → ∀ now name first second least sets,
      (cache.lookup now name first least).1 = .successful sets →
        (cache.lookup now name second least).1 ≠ .nxDomain := by
  intro never
  have reachable : Reachable (learned contradiction) :=
    (Reachable.new _ _).applyAll 1000 _ contradiction_coherent
  exact never _ reachable 1100 (Name.ofOctets [0x77]) .a .txt .normal
    [RRset.ofRecord (Record.address 1 300)] (by decide +kernel) (by decide +kernel)

end Cache

end StubResolver
