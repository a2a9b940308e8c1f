/-
This file settles which names a resolution attempts. The law of the search path lists candidates:
the name under the root and under each suffix, in an order that depends on how many labels it has,
without those that do not fit. Attempts are made in the order of that list, and they stop at the
first one that decides the resolution or crosses an alias.

Search keeps the law except in one situation. When the root comes first and its attempt crosses an
alias without deciding the resolution, the alias is overlooked, and the first suffix is attempted
all the same. After that the search does stop, since the alias has not been forgotten. The main
statement says that this is the only way in which the law is broken.

To speak of attempts, search is run with a way of attempting that takes down what it is asked for.
Search does not look into attempts, so taking them down changes nothing.
-/

import StubResolver.Proofs.Name.Letters
import StubResolver.Proofs.Resolver.Rounds
import StubResolver.Resolver.Search

namespace StubResolver

variable {World : Type}

/-! ### The law -/

/-- The absolute name that a suffix makes of a name, if it fits. -/
def Name.completed? (name suffix : Name) : Option Name :=
  ofLabels? (name.labels ++ suffix.labels) true

/-- The suffixes that complete a relative name, in the order in which they are to be tried. -/
def Request.suffixes (request : Request) : List Name :=
  if request.options.searchPath = [] then
    [.root]
  else if request.options.ndots < request.name.labelCount then
    .root :: request.options.searchPath
  else
    request.options.searchPath ++ [.root]

/-- The names that are candidates for an attempt, in order. An absolute name is the only one. -/
def Request.candidates (request : Request) : List Name :=
  if request.name.absolute then
    [request.name]
  else
    request.suffixes.filterMap request.name.completed?

/-- An attempt that was made: the name it started from, and what the resolution remembered after
it. -/
structure AttemptMade where
  start : Name
  later : Progress

/-- Whether no further attempt is to follow: this one decided the resolution or crossed an alias. -/
def AttemptMade.isLast (made : AttemptMade) : Bool := made.later.isDone || made.later.foundAlias

/-- What the law says about the attempts made for a list of candidates. -/
structure FollowsLaw (candidates : List Name) (attempts : List AttemptMade) : Prop where
  /-- They start from the candidates, in order and with none left out. -/
  inOrder : attempts.map AttemptMade.start <+: candidates
  /-- None is made after one that is to be the last. -/
  noneAfter : ∀ made ∈ attempts.dropLast, made.isLast = false
  /-- They go on until one is to be the last, or until there is no further candidate. -/
  complete : attempts.map AttemptMade.start = candidates ∨
    ∃ made ∈ attempts.getLast?, made.isLast = true

namespace FollowsLaw

theorem nil : FollowsLaw [] [] := ⟨List.prefix_rfl, by simp, Or.inl rfl⟩

/-- An attempt that is to be the last may leave candidates over. -/
theorem last (rest : List Name) (made : AttemptMade) (isLast : made.isLast = true) :
    FollowsLaw (made.start :: rest) [made] :=
  ⟨by simp, by simp, Or.inr ⟨made, by simp, isLast⟩⟩

/-- An attempt that is not to be the last is followed by those for the other candidates. -/
theorem cons {rest : List Name} {attempts : List AttemptMade} (made : AttemptMade)
    (goesOn : made.isLast = false) (law : FollowsLaw rest attempts) :
    FollowsLaw (made.start :: rest) (made :: attempts) where
  inOrder := by
    rw [List.map_cons, List.cons_prefix_cons]
    exact ⟨rfl, law.inOrder⟩
  noneAfter := by
    intro other member
    cases attempts with
    | nil => simp at member
    | cons head tail =>
      rw [List.dropLast_cons_of_ne_nil (List.cons_ne_nil _ _), List.mem_cons] at member
      rcases member with rfl | member
      · exact goesOn
      · exact law.noneAfter other member
  complete := by
    rcases law.complete with all | ⟨other, member, isLast⟩
    · exact Or.inl (by rw [List.map_cons, all])
    · refine Or.inr ⟨other, ?_, isLast⟩
      cases attempts with
      | nil => simp at member
      | cons head tail => rwa [List.getLast?_cons_cons]

/-- A single candidate leaves no choice. -/
theorem single (made : AttemptMade) : FollowsLaw [made.start] [made] :=
  ⟨List.prefix_rfl, by simp, Or.inl rfl⟩

/-- Attempts that go on after one that is to be the last break the law. -/
theorem not_of_isLast {candidates : List Name} (first second : AttemptMade)
    (rest : List AttemptMade) (isLast : first.isLast = true) :
    ¬ FollowsLaw candidates (first :: second :: rest) := by
  intro law
  have goesOn := law.noneAfter first (by simp)
  rw [isLast] at goesOn
  cases goesOn

end FollowsLaw

/-! ### Taking down attempts -/

namespace Progress

/-- A way of attempting that takes down what it is asked for and what comes of it. -/
def Attempting.recorded (attempting : Attempting World) :
    Attempting (World × List AttemptMade) :=
  fun name progress (world, made) =>
    let (later, left) := attempting name progress world
    (later, left, made ++ [⟨name, later⟩])

/-- The attempts that a search makes. -/
def attemptsOf (attempting : Attempting World) (request : Request) (world : World) :
    List AttemptMade :=
  (search attempting.recorded request (world, [])).2.2

theorem recorded_apply (attempting : Attempting World) (name : Name) (progress : Progress)
    (world : World) (made : List AttemptMade) :
    attempting.recorded name progress (world, made) =
      ((attempting name progress world).1, (attempting name progress world).2,
        made ++ [⟨name, (attempting name progress world).1⟩]) := rfl

variable (attempting : Attempting World) (request : Request)

/-- An attempt under a suffix, taken down. -/
theorem attemptUnder_recorded (suffix : Name) (progress : Progress) (world : World)
    (made : List AttemptMade) :
    ∃ fresh, attemptUnder attempting.recorded request suffix progress (world, made) =
      ((attemptUnder attempting request suffix progress world).1,
        (attemptUnder attempting request suffix progress world).2, made ++ fresh) := by
  unfold attemptUnder
  split
  · exact ⟨_, recorded_apply attempting _ progress world made⟩
  · exact ⟨[], by rw [List.append_nil]⟩

/-- Attempts under several suffixes, taken down. -/
theorem attemptUnderEach_recorded (suffixes : List Name) (progress : Progress) (world : World)
    (made : List AttemptMade) :
    ∃ fresh, attemptUnderEach attempting.recorded request progress (world, made) suffixes =
      ((attemptUnderEach attempting request progress world suffixes).1,
        (attemptUnderEach attempting request progress world suffixes).2, made ++ fresh) := by
  induction suffixes generalizing progress world made with
  | nil => exact ⟨[], by simp [attemptUnderEach]⟩
  | cons suffix rest inductionHypothesis =>
    obtain ⟨fresh, first⟩ := attemptUnder_recorded attempting request suffix progress world made
    simp only [attemptUnderEach, first]
    split
    · exact ⟨fresh, rfl⟩
    · obtain ⟨others, later⟩ := inductionHypothesis
        (attemptUnder attempting request suffix progress world).1
        (attemptUnder attempting request suffix progress world).2 (made ++ fresh)
      exact ⟨fresh ++ others, by rw [later, List.append_assoc]⟩

/-- Taking down attempts changes nothing about a search. -/
theorem search_recorded (world : World) (made : List AttemptMade) :
    ∃ fresh, search attempting.recorded request (world, made) =
      ((search attempting request world).1, (search attempting request world).2,
        made ++ fresh) := by
  unfold search
  split
  · exact ⟨_, recorded_apply attempting _ start world made⟩
  · split
    · obtain ⟨fresh, first⟩ := attemptUnder_recorded attempting request .root start world made
      rw [first]
      dsimp only
      split
      · exact ⟨fresh, rfl⟩
      · obtain ⟨others, later⟩ := attemptUnderEach_recorded attempting request
          request.options.searchPath (attemptUnder attempting request .root start world).1
          (attemptUnder attempting request .root start world).2 (made ++ fresh)
        exact ⟨fresh ++ others, by rw [later, List.append_assoc]⟩
    · exact attemptUnderEach_recorded attempting request _ start world made

/-! ### Attempts under suffixes keep the law -/

variable {request}

theorem completed?_of_qualify (relative : request.name.absolute = false) (suffix : Name) :
    request.name.completed? suffix =
      match request.name.qualify suffix with
      | .ok complete => some complete.toAbsolute
      | .error _ => none := by
  unfold Name.completed? Name.qualify Name.ofLabels Name.ofLabels?
  rw [relative, if_neg Bool.false_ne_true]
  by_cases fits : wireLength (request.name.labels ++ suffix.labels) ≤ maxNameLength
  · simp only [dif_pos fits]
    rfl
  · simp only [dif_neg fits]

/-- The root completes every relative name. -/
theorem completed?_root (name : Name) : name.completed? .root = some name.toAbsolute := by
  rw [Name.completed?, Name.ofLabels?_eq_some_iff]
  exact ⟨(List.append_nil _).symm, rfl⟩

/-- A suffix that makes no name leaves no attempt. -/
theorem attemptUnder_of_none (relative : request.name.absolute = false) (suffix : Name)
    (tooLong : request.name.completed? suffix = none) (progress : Progress) (world : World) :
    attemptUnder attempting request suffix progress world =
      ({ progress with nameTooLong := true }, world) := by
  rw [completed?_of_qualify relative] at tooLong
  unfold attemptUnder
  cases qualified : request.name.qualify suffix with
  | ok other =>
    rw [qualified] at tooLong
    cases tooLong
  | error _ => rfl

/-- A suffix that makes a name has that name attempted. -/
theorem attemptUnder_of_some (relative : request.name.absolute = false) (suffix complete : Name)
    (fits : request.name.completed? suffix = some complete) (progress : Progress)
    (world : World) :
    attemptUnder attempting request suffix progress world =
      attempting complete progress world := by
  rw [completed?_of_qualify relative] at fits
  unfold attemptUnder
  cases qualified : request.name.qualify suffix with
  | ok other =>
    rw [qualified] at fits
    cases fits
    rfl
  | error _ =>
    rw [qualified] at fits
    cases fits

/-- As long as no alias has been met and nothing is decided, suffixes are attempted by the law. -/
theorem attemptUnderEach_followsLaw (relative : request.name.absolute = false)
    (suffixes : List Name) (progress : Progress) (undecided : progress.isDone = false)
    (noAlias : progress.foundAlias = false) (world : World) (made : List AttemptMade) :
    ∃ fresh, (attemptUnderEach attempting.recorded request progress (world, made)
        suffixes).2.2 = made ++ fresh ∧
      FollowsLaw (suffixes.filterMap request.name.completed?) fresh := by
  -- over the suffixes left, whatever was attempted before
  induction suffixes generalizing progress world made with
  | nil => exact ⟨[], (List.append_nil _).symm, FollowsLaw.nil⟩
  | cons suffix rest inductionHypothesis =>
    rw [attemptUnderEach]
    cases completes : request.name.completed? suffix with
    | none =>
      rw [attemptUnder_of_none _ relative suffix completes]
      have undecidedStill : (({ progress with nameTooLong := true } : Progress).isDone ||
          progress.foundAlias) = false := by
        rw [noAlias, Bool.or_false]
        exact undecided
      dsimp only
      rw [undecidedStill, if_neg Bool.false_ne_true, List.filterMap_cons_none completes]
      exact inductionHypothesis { progress with nameTooLong := true } undecided noAlias world made
    | some complete =>
      rw [attemptUnder_of_some _ relative suffix complete completes, recorded_apply,
        List.filterMap_cons_some completes]
      simp only
      split
      · rename_i isLast
        exact ⟨_, rfl, FollowsLaw.last _ ⟨complete, _⟩ isLast⟩
      · rename_i goesOn
        rw [Bool.not_eq_true, Bool.or_eq_false_iff] at goesOn
        obtain ⟨others, taken, law⟩ := inductionHypothesis _ goesOn.1 goesOn.2
          (attempting complete progress world).2
          (made ++ [⟨complete, (attempting complete progress world).1⟩])
        refine ⟨⟨complete, (attempting complete progress world).1⟩ :: others, ?_,
          law.cons ⟨complete, (attempting complete progress world).1⟩ ?_⟩
        · rw [taken, List.append_assoc, List.singleton_append]
        · rw [AttemptMade.isLast, goesOn.1, goesOn.2, Bool.or_false]

/-! ### The alias that is overlooked -/

/-- The situation in which search breaks the law: the root comes first, its attempt crosses an
alias without deciding the resolution, and the first suffix makes a name. -/
structure OverlooksAlias (attempting : Attempting World) (request : Request) (world : World) :
    Prop where
  relative : request.name.absolute = false
  rootFirst : request.options.ndots < request.name.labelCount
  crossed : (attempting request.name.toAbsolute start world).1.foundAlias = true
  undecided : (attempting request.name.toAbsolute start world).1.isDone = false
  suffixFits : ∃ suffix ∈ request.options.searchPath.head?,
    (request.name.completed? suffix).isSome

/-- What the root-first attempt leaves when it is not the last. -/
theorem search_rootFirst (relative : request.name.absolute = false)
    (rootFirst : request.options.ndots < request.name.labelCount) (world : World) :
    search attempting request world =
      if (attempting request.name.toAbsolute start world).1.isDone then
        attempting request.name.toAbsolute start world
      else
        attemptUnderEach attempting request (attempting request.name.toAbsolute start world).1
          (attempting request.name.toAbsolute start world).2 request.options.searchPath := by
  unfold search
  rw [relative, if_neg Bool.false_ne_true, if_pos rootFirst,
    attemptUnder_of_some _ relative _ _ (completed?_root request.name)]

/-- Where the root does not come first, it comes last. -/
theorem search_rootLast (relative : request.name.absolute = false)
    (rootLast : ¬ request.options.ndots < request.name.labelCount) (world : World) :
    search attempting request world =
      attemptUnderEach attempting request start world (request.options.searchPath ++ [.root]) := by
  unfold search
  rw [relative, if_neg Bool.false_ne_true, if_neg rootLast]

theorem candidates_rootFirst (relative : request.name.absolute = false)
    (rootFirst : request.options.ndots < request.name.labelCount) :
    request.candidates = request.name.toAbsolute ::
      request.options.searchPath.filterMap request.name.completed? := by
  unfold Request.candidates Request.suffixes
  rw [relative, if_neg Bool.false_ne_true, if_pos rootFirst]
  split
  · rename_i empty
    rw [empty, List.filterMap_cons_some (completed?_root request.name)]
  · rw [List.filterMap_cons_some (completed?_root request.name)]

theorem candidates_rootLast (relative : request.name.absolute = false)
    (rootLast : ¬ request.options.ndots < request.name.labelCount) :
    request.candidates =
      (request.options.searchPath ++ [Name.root]).filterMap request.name.completed? := by
  unfold Request.candidates Request.suffixes
  rw [relative, if_neg Bool.false_ne_true, if_neg rootLast]
  split
  · rename_i empty
    rw [empty, List.nil_append]
  · rfl

/-- After the overlooked alias one more candidate is attempted. -/
theorem attemptsOf_of_overlooksAlias (world : World)
    (keepsAlias : ∀ name progress world, progress.foundAlias = true →
      (attempting name progress world).1.foundAlias = true)
    (overlooks : OverlooksAlias attempting request world) :
    ∃ second, attemptsOf attempting request world =
        [⟨request.name.toAbsolute, (attempting request.name.toAbsolute start world).1⟩, second] ∧
      [request.name.toAbsolute, second.start] = request.candidates.take 2 := by
  obtain ⟨relative, rootFirst, crossed, undecided, suffix, isHead, fits⟩ := overlooks
  obtain ⟨complete, completes⟩ := Option.isSome_iff_exists.mp fits
  obtain ⟨rest, path⟩ : ∃ rest, request.options.searchPath = suffix :: rest := by
    cases path : request.options.searchPath with
    | nil => simp [path] at isHead
    | cons head tail =>
      rw [path, List.head?_cons, Option.mem_some_iff] at isHead
      exact ⟨tail, by rw [isHead]⟩
  refine ⟨⟨complete, (attempting complete (attempting request.name.toAbsolute start world).1
    (attempting request.name.toAbsolute start world).2).1⟩, ?_, ?_⟩
  · rw [attemptsOf, search_rootFirst _ relative rootFirst, recorded_apply]
    dsimp only
    rw [undecided, if_neg Bool.false_ne_true, path, attemptUnderEach,
      attemptUnder_of_some _ relative suffix complete completes, recorded_apply]
    dsimp only
    rw [keepsAlias _ _ _ crossed, Bool.or_true, if_pos rfl]
    rfl
  · rw [candidates_rootFirst relative rootFirst, path, List.filterMap_cons_some completes]
    rfl

/-- An alias stops the search at a first suffix that makes no name, and where there is none. -/
theorem attemptUnderEach_of_foundAlias (relative : request.name.absolute = false)
    (suffixes : List Name)
    (unfit : ∀ suffix ∈ suffixes.head?, request.name.completed? suffix = none)
    (progress : Progress) (crossed : progress.foundAlias = true) (world : World) :
    (attemptUnderEach attempting request progress world suffixes).2 = world := by
  cases suffixes with
  | nil => rfl
  | cons suffix rest =>
    rw [attemptUnderEach, attemptUnder_of_none _ relative suffix (unfit suffix rfl)]
    dsimp only
    rw [crossed, Bool.or_true, if_pos rfl]

/-- With the root first, the attempts follow the law unless an alias is overlooked. -/
theorem attemptsOf_rootFirst (relative : request.name.absolute = false)
    (rootFirst : request.options.ndots < request.name.labelCount) (world : World)
    (heeds : ¬ OverlooksAlias attempting request world) :
    FollowsLaw request.candidates (attemptsOf attempting request world) := by
  rw [candidates_rootFirst relative rootFirst, attemptsOf,
    search_rootFirst _ relative rootFirst, recorded_apply]
  dsimp only
  generalize attempted : attempting request.name.toAbsolute start world = outcome
  obtain ⟨first, left⟩ := outcome
  by_cases decided : first.isDone = true
  · rw [if_pos decided]
    exact FollowsLaw.last _ ⟨request.name.toAbsolute, first⟩
      (by rw [AttemptMade.isLast, decided, Bool.true_or])
  rw [if_neg decided]
  by_cases crossed : first.foundAlias = true
  · have unfit : ∀ suffix ∈ request.options.searchPath.head?,
        request.name.completed? suffix = none := by
      refine fun suffix isHead => Option.not_isSome_iff_eq_none.mp fun fits => heeds ?_
      exact ⟨relative, rootFirst, by rw [attempted]; exact crossed,
        by rw [attempted]; exact Bool.not_eq_true _ ▸ decided, suffix, isHead, fits⟩
    rw [attemptUnderEach_of_foundAlias _ relative _ unfit _ crossed]
    exact FollowsLaw.last _ ⟨request.name.toAbsolute, first⟩
      (by rw [AttemptMade.isLast, crossed, Bool.or_true])
  · have undecided : first.isDone = false := Bool.not_eq_true _ ▸ decided
    have noAlias : first.foundAlias = false := Bool.not_eq_true _ ▸ crossed
    obtain ⟨fresh, taken, law⟩ := attemptUnderEach_followsLaw attempting relative
      request.options.searchPath first undecided noAlias left [⟨request.name.toAbsolute, first⟩]
    rw [List.nil_append, taken]
    exact law.cons ⟨request.name.toAbsolute, first⟩
      (by rw [AttemptMade.isLast, undecided, noAlias, Bool.or_false])

/-- Where no alias is overlooked, the attempts follow the law. -/
theorem attemptsOf_followsLaw (world : World)
    (heeds : ¬ OverlooksAlias attempting request world) :
    FollowsLaw request.candidates (attemptsOf attempting request world) := by
  by_cases absolute : request.name.absolute = true
  · rw [Request.candidates, if_pos absolute, attemptsOf, search, if_pos absolute, recorded_apply]
    exact FollowsLaw.single ⟨request.name, _⟩
  have relative : request.name.absolute = false := Bool.not_eq_true _ ▸ absolute
  by_cases rootFirst : request.options.ndots < request.name.labelCount
  · exact attemptsOf_rootFirst attempting relative rootFirst world heeds
  · rw [candidates_rootLast relative rootFirst, attemptsOf,
      search_rootLast _ relative rootFirst]
    obtain ⟨fresh, taken, law⟩ := attemptUnderEach_followsLaw attempting relative
      (request.options.searchPath ++ [.root]) start rfl rfl world []
    rw [taken]
    exact law

/-! ### The attempts of a resolution -/

/-- Whatever the cache and the servers say, the attempts of a resolution follow the law exactly if
no alias is overlooked. If one is, the second candidate is attempted, and no other after it. The
attempts are those of the resolution itself, since taking them down changes nothing about it, and
of a suffix that makes no name nothing is kept but that the name was too long. -/
theorem attempts_followLaw_iff (services : Services World) (request : Request) (world : World) :
    search (Attempting.recorded (attempt services request)) request (world, []) =
      ((search (attempt services request) request world).1,
        (search (attempt services request) request world).2,
        attemptsOf (attempt services request) request world) ∧
    (FollowsLaw request.candidates (attemptsOf (attempt services request) request world) ↔
      ¬ OverlooksAlias (attempt services request) request world) ∧
    (OverlooksAlias (attempt services request) request world →
      (attemptsOf (attempt services request) request world).map AttemptMade.start =
        request.candidates.take 2) ∧
    (request.name.absolute = false → ∀ suffix progress left,
      maxNameLength < wireLength (request.name.labels ++ suffix.labels) →
      attemptUnder (attempt services request) request suffix progress left =
        ({ progress with nameTooLong := true }, left)) := by
  have afterAlias (overlooks : OverlooksAlias (attempt services request) request world) :=
    attemptsOf_of_overlooksAlias (attempt services request) world
      (attempt_foundAlias services request) overlooks
  refine ⟨?_, ⟨?_, attemptsOf_followsLaw (attempt services request) world⟩, ?_, ?_⟩
  · obtain ⟨attempts, same⟩ := search_recorded (attempt services request) request world []
    rw [attemptsOf, same]
  · intro law overlooks
    obtain ⟨second, made, _⟩ := afterAlias overlooks
    rw [made] at law
    refine FollowsLaw.not_of_isLast _ second [] ?_ law
    rw [AttemptMade.isLast, overlooks.crossed, Bool.or_true]
  · intro overlooks
    obtain ⟨second, made, starts⟩ := afterAlias overlooks
    rw [made, ← starts]
    rfl
  · intro relative suffix progress left tooLong
    have unfit := (Name.ofLabels?_eq_none_iff _ true).mpr tooLong
    exact attemptUnder_of_none _ relative suffix unfit progress left

/-- A cache that knows of one alias, from `w.` to `g.`, and servers that do not answer. -/
def aliasOnly : Services Unit where
  lookup := fun world name _ _ =>
    (if name ≈ Name.ofOctets [0x77] then
      .cname (RRset.ofRecord ⟨Name.ofOctets [0x77], .inet, 300, .cname (Name.ofOctets [0x67])⟩)
    else .unknown, world)
  ingest := fun world _ => (none, world)
  send := fun world _ => (.error .queryTimeout, world)

/-- The request for the addresses of `w`, where the root comes before the suffix `c.`. -/
def rootFirstRequest : Request :=
  ⟨{ Name.ofOctets [0x77] with absolute := false }, .a, .inet, ⟨[Name.ofOctets [0x63]], 0, .normal⟩⟩

/-- The law fails for a resolution that overlooks an alias. -/
theorem attempts_break_law :
    ¬ FollowsLaw rootFirstRequest.candidates
      (attemptsOf (attempt aliasOnly rootFirstRequest) rootFirstRequest ()) := by
  have overlooks : OverlooksAlias (attempt aliasOnly rootFirstRequest) rootFirstRequest () :=
    ⟨by decide +kernel, by decide +kernel, by decide +kernel, by decide +kernel,
      Name.ofOctets [0x63], by decide +kernel, by decide +kernel⟩
  obtain ⟨second, made, _⟩ := attemptsOf_of_overlooksAlias _ _
    (attempt_foundAlias aliasOnly rootFirstRequest) overlooks
  rw [made]
  exact FollowsLaw.not_of_isLast _ second [] (by decide +kernel)

end Progress

end StubResolver
