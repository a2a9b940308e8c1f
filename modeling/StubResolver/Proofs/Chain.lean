/-
This file fixes what a chain of aliases is: from a name to the target of an alias of that name, on
to the target of an alias of the target, and so forth. Every link is an alias set met on the way. A
set of the type CNAME belongs to the name itself, and one of the type DNAME redirects the names
below its owner.

Links are followed as the program works out where they lead. Whether they lead where they should is
another question, and the answer is in the wildcard labels of the names concerned.
-/

import StubResolver.Proofs.Name.Subdomains
import StubResolver.RRset

namespace StubResolver

/-! ### Links -/

/-- A name met on the way, and the set that says what it stands for. -/
structure Link where
  crossed : Name
  set : RRset

namespace Link

/-- Where the program takes a link to lead. -/
def LeadsTo (link : Link) (next : Name) : Prop :=
  ∃ target, link.set.aliasTarget? = some target ∧
    (link.set.type = .cname ∧ link.set.name ≈ link.crossed ∧ next = target ∨
      link.set.type = .dname ∧ ¬ link.set.name ≈ link.crossed ∧
        link.crossed.absolute = link.set.name.absolute ∧
        link.crossed.substitute link.set.name target = .ok next)

/-- Where a link leads: to the target of the first record of a set that belongs to the name, or to
the name moved from below the owner of a set to below the target of its first record. -/
def IsGenuine (link : Link) (next : Name) : Prop :=
  ∃ target, link.set.aliasTarget? = some target ∧
    (link.set.type = .cname ∧ link.set.name ≈ link.crossed ∧ next = target ∨
      link.set.type = .dname ∧ link.crossed.LiesBelow link.set.name ∧
        link.crossed.IsMoved link.set.name target next)

/-- A redirection among names that do not align: one of them begins with a wildcard label, which is
not counted, and the other does not. -/
def Misaligned (link : Link) : Prop :=
  link.set.type = .dname ∧ link.crossed.startsWild ≠ link.set.name.startsWild

/-- A link leads where it should unless names do not align. -/
theorem LeadsTo.isGenuine {link : Link} {next : Name} (leads : link.LeadsTo next)
    (aligned : ¬ link.Misaligned) : link.IsGenuine next := by
  obtain ⟨target, isTarget, own | ⟨type, differ, absolute, moved⟩⟩ := leads
  · exact ⟨target, isTarget, Or.inl own⟩
  · have alike : link.crossed.startsWild = link.set.name.startsWild := by
      by_cases same : link.crossed.startsWild = link.set.name.startsWild
      · exact same
      · exact absurd ⟨type, same⟩ aligned
    obtain ⟨within, _⟩ := (Name.substitute_eq_ok_iff _ _ _ _).mp moved
    exact ⟨target, isTarget, Or.inr ⟨type,
      Name.liesBelow_of_isWithin alike absolute differ within,
      Name.isMoved_of_substitute alike moved⟩⟩

/-- Where names do not align, a link leads elsewhere than it should. -/
theorem LeadsTo.not_misaligned {link : Link} {next other : Name} (leads : link.LeadsTo next)
    (genuine : link.IsGenuine other) (same : next ≈ other) : ¬ link.Misaligned := by
  rintro ⟨type, differ⟩
  obtain ⟨target, isTarget, ⟨own, _⟩ | ⟨_, _, _, moved⟩⟩ := leads
  · exact absurd (own.symm.trans type) (by decide)
  · obtain ⟨otherTarget, isOther, ⟨own, _⟩ | ⟨_, _, isMoved⟩⟩ := genuine
    · exact absurd (own.symm.trans type) (by decide)
    · cases isTarget.symm.trans isOther
      exact differ (Name.startsWild_eq_of_isMoved moved same isMoved)

end Link

/-! ### Chains -/

/-- A chain of links from one name to another, where `step` says where links lead. -/
def Chain (step : Link → Name → Prop) : Name → List Link → Name → Prop
  | start, [], last => start ≈ last
  | start, link :: rest, last =>
    start ≈ link.crossed ∧ ∃ next, step link next ∧ Chain step next rest last

namespace Chain

variable {step : Link → Name → Prop} {start middle last : Name} {links others : List Link}

/-- A chain starts from a name in whatever case. -/
theorem congr_start (same : middle ≈ start) (chain : Chain step start links last) :
    Chain step middle links last := by
  cases links with
  | nil => exact Setoid.trans same chain
  | cons link rest => exact ⟨Setoid.trans same chain.1, chain.2⟩

theorem append (chain : Chain step start links middle) (later : Chain step middle others last) :
    Chain step start (links ++ others) last := by
  induction links generalizing start with
  | nil => exact later.congr_start chain
  | cons link rest inductionHypothesis =>
    obtain ⟨starts, next, leads, rest⟩ := chain
    exact ⟨starts, next, leads, inductionHypothesis rest⟩

/-- A chain with one more link. -/
theorem snoc (chain : Chain step start links middle) {link : Link} (joins : middle ≈ link.crossed)
    (leads : step link last) : Chain step start (links ++ [link]) last :=
  chain.append ⟨joins, last, leads, Setoid.refl last⟩

/-- Links that lead on in one way lead on in another. -/
theorem imp {other : Link → Name → Prop} (chain : Chain step start links last)
    (implies : ∀ link ∈ links, ∀ next, step link next → other link next) :
    Chain other start links last := by
  induction links generalizing start with
  | nil => exact chain
  | cons link rest inductionHypothesis =>
    obtain ⟨starts, next, leads, others⟩ := chain
    exact ⟨starts, next, implies link List.mem_cons_self next leads,
      inductionHypothesis others fun later member => implies later (List.mem_cons_of_mem _ member)⟩

/-- Every link of a chain leads somewhere. -/
theorem each (chain : Chain step start links last) : ∀ link ∈ links, ∃ next, step link next := by
  induction links generalizing start with
  | nil => exact fun _ none => absurd none List.not_mem_nil
  | cons link rest inductionHypothesis =>
    obtain ⟨_, next, leads, others⟩ := chain
    intro other member
    rcases List.mem_cons.mp member with rfl | later
    · exact ⟨next, leads⟩
    · exact inductionHypothesis others other later

/-- Chains of the same links to the same name start from the same name. -/
theorem start_unique {step' : Link → Name → Prop} (chain : Chain step start links last)
    (other : Chain step' middle links last) : start ≈ middle := by
  cases links with
  | nil => exact Setoid.trans chain (Setoid.symm other)
  | cons link rest => exact Setoid.trans chain.1 (Setoid.symm other.1)

end Chain

/-- A chain of links that the program follows is genuine exactly if no names are misaligned. -/
theorem Chain.isGenuine_iff {start last : Name} {links : List Link}
    (chain : Chain Link.LeadsTo start links last) :
    Chain Link.IsGenuine start links last ↔ ∀ link ∈ links, ¬ link.Misaligned := by
  induction links generalizing start with
  | nil => exact ⟨fun _ _ member => absurd member List.not_mem_nil, fun _ => chain⟩
  | cons link rest inductionHypothesis =>
    obtain ⟨starts, next, leads, others⟩ := chain
    constructor
    · rintro ⟨_, other, genuine, genuineOthers⟩
    -- the rest starts where the link leads, so the link has to lead there genuinely
      have same := others.start_unique genuineOthers
      have restGenuine := (inductionHypothesis others).mp (genuineOthers.congr_start same)
      intro member present
      rcases List.mem_cons.mp present with rfl | later
      · exact leads.not_misaligned genuine same
      · exact restGenuine member later
    · intro aligned
      refine ⟨starts, next, leads.isGenuine (aligned link List.mem_cons_self), ?_⟩
      exact (inductionHypothesis others).mpr fun member later =>
        aligned member (List.mem_cons_of_mem _ later)

end StubResolver
