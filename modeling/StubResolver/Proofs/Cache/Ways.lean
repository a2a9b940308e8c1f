/-
This file says which ways lead through a cache that agrees with a source. A way crosses aliases that
can be used, each at the name that it belongs to. A response of the source lays such a way: all that
its trail has crossed can be used afterwards, and so can the answer at the end, of which there is
only one. Where a trail has no answer, the cache may come to deny the type at its end. The way there
then leads to nothing, and a name from which it goes on is doomed.
-/

import StubResolver.Proofs.Cache.Zone

namespace StubResolver

variable {zone : Zone}

/-- An alias set of a source belongs to the name itself. -/
theorem Zone.Holds.cname {set : RRset} (held : zone.Holds set) {name : Name}
    (standsFor : Cache.isAliasFor set name = true) : set.type = .cname ∧ set.name ≈ name := by
  rcases Cache.isAliasFor_iff.mp standsFor with own | ⟨isDname, _⟩
  · exact own
  · unfold Holds at held
    rw [isDname, zone.noRedirection] at held
    cases held

namespace Cache

variable {now : Nat} {cache before after : Cache} {type : RecordType} {start middle last : Name}
  {links : List Link}

/-! ### Ways -/

/-- A link can be crossed by asking a cache. -/
structure CachedLink (cache : Cache) (now : Nat) (link : Link) (next : Name) : Prop where
  known : cache.HasSet now link.crossed .cname link.set
  leads : link.set.aliasTarget? = some next

/-- A way through a cache. A question for the aliases themselves does not cross any. -/
structure Way (cache : Cache) (now : Nat) (type : RecordType) (start : Name) (links : List Link)
    (last : Name) : Prop where
  chain : Chain (cache.CachedLink now) start links last
  unasked : links ≠ [] → type ≠ .cname

namespace Way

theorem nil (cache : Cache) (now : Nat) (type : RecordType) (start : Name) :
    cache.Way now type start [] start := ⟨Setoid.refl start, fun filled => absurd rfl filled⟩

/-- A way starts from a name in whatever case. -/
theorem congr_start (same : middle ≈ start) (way : cache.Way now type start links last) :
    cache.Way now type middle links last := ⟨way.chain.congr_start same, way.unasked⟩

theorem append {others : List Link} (way : cache.Way now type start links middle)
    (further : cache.Way now type middle others last) :
    cache.Way now type start (links ++ others) last := by
  refine ⟨way.chain.append further.chain, fun filled => ?_⟩
  cases links with
  | nil => exact further.unasked filled
  | cons link rest => exact way.unasked nofun

/-- A way with one link more. -/
theorem snoc (way : cache.Way now type start links middle) {set : RRset}
    (known : cache.HasSet now middle .cname set) (leads : set.aliasTarget? = some last)
    (unasked : type ≠ .cname) : cache.Way now type start (links ++ [⟨middle, set⟩]) last :=
  ⟨way.chain.snoc (Setoid.refl _) ⟨known, leads⟩, fun _ => unasked⟩

/-- A way stays as long as its aliases do. -/
theorem keep (way : before.Way now type start links last)
    (keeps : type ≠ .cname → ∀ name set, before.HasSet now name .cname set →
      after.HasSet now name .cname set) : after.Way now type start links last := by
  refine ⟨way.chain.imp fun link member next crosses => ?_, way.unasked⟩
  have unasked := way.unasked (List.ne_nil_of_mem member)
  exact ⟨keeps unasked _ _ crosses.known, crosses.leads⟩

/-- Where a way ends at a set of the type asked for, there is no alias, so it has not passed there
before. -/
theorem not_passed (clean : Clean zone now cache) (way : cache.Way now type start links last)
    {set : RRset} (found : cache.HasSet now last type set) :
    ∀ link ∈ links, ¬ link.crossed ≈ last := by
  intro link member same
  obtain ⟨_, crosses⟩ := way.chain.each link member
  have standsFor := clean.held (crosses.known.congr same)
  exact way.unasked (List.ne_nil_of_mem member) (zone.alone standsFor (clean.held found))

end Way

/-! ### What is answered on the way -/

variable {deniable : Name → RecordType → Prop} {name : Name} {set : RRset}

/-- A set of the type asked for is the answer. -/
theorem Consistent.lookup_found (consistent : Consistent zone now deniable cache)
    (absolute : name.absolute = true) (single : type ≠ .any)
    (found : cache.HasSet now name type set) :
    (cache.lookup now name type .normal).1 = .single set := by
  obtain ⟨known, usable, isSet⟩ := Option.bind_eq_some_iff.mp found
  rcases consistent.lookup_cases absolute single with ⟨entry, same, outcome⟩ | ⟨unknown, _⟩
  · cases usable.symm.trans same
    rw [outcome, isSet]
    rfl
  · cases usable.symm.trans unknown

/-- Where the type is denied, that is the answer. -/
theorem Consistent.lookup_denied (consistent : Consistent zone now deniable cache)
    (absolute : name.absolute = true) (single : type ≠ .any) {entry : Entry}
    (usable : cache.usable? now .normal name (.type type) = some entry)
    (nothing : entry.set? = none) : (cache.lookup now name type .normal).1 = .nxRRset := by
  rcases consistent.lookup_cases absolute single with ⟨other, same, outcome⟩ | ⟨unknown, _⟩
  · cases usable.symm.trans same
    rw [outcome, nothing]
    rfl
  · cases usable.symm.trans unknown

/-- Where a name has an alias, the alias is the answer, unless the type is denied. -/
theorem Consistent.lookup_alias (consistent : Consistent zone now deniable cache)
    (absolute : name.absolute = true) (single : type ≠ .any) (unasked : type ≠ .cname)
    (known : cache.HasSet now name .cname set) :
    (cache.lookup now name type .normal).1 = .cname set ∨
      (cache.lookup now name type .normal).1 = .nxRRset ∧ deniable name type := by
  rcases consistent.lookup_cases absolute single with
    ⟨entry, usable, outcome⟩ | ⟨_, ⟨other, knownToo, outcome⟩ | ⟨unknown, _⟩⟩
  · rcases consistent.agrees name type entry usable with ⟨other, _, held⟩ | ⟨nothing, allowed⟩
    · exact absurd (zone.alone (consistent.held known) held) unasked
    · rw [outcome, nothing]
      exact Or.inr ⟨rfl, allowed⟩
  · rw [outcome, known.unique knownToo]
    exact Or.inl rfl
  · exact absurd known (unknown set)

/-! ### Names that are doomed -/

/-- Whoever comes to the name is led, by aliases that can be used, to where the type is denied. -/
inductive Doomed (cache : Cache) (now : Nat) (type : RecordType) : Name → Prop where
  | denied (name : Name) (entry : Entry)
      (usable : cache.usable? now .normal name (.type type) = some entry)
      (nothing : entry.set? = none) : Doomed cache now type name
  | onward (name next : Name) (set : RRset) (known : cache.HasSet now name .cname set)
      (leads : set.aliasTarget? = some next) (doomed : Doomed cache now type next) :
      Doomed cache now type name

theorem Doomed.congr {other : Name} (same : name ≈ other)
    (doomed : cache.Doomed now type name) : cache.Doomed now type other := by
  cases doomed with
  | denied _ entry usable nothing =>
    rw [usable?_congr cache same] at usable
    exact .denied other entry usable nothing
  | onward _ next set known leads doomed =>
    exact .onward other next set (known.congr same) leads doomed

/-- The start of a way is doomed if its end is. -/
theorem Doomed.of_chain (doomed : cache.Doomed now type last)
    (chain : Chain (cache.CachedLink now) start links last) : cache.Doomed now type start := by
  induction links generalizing start with
  | nil => exact doomed.congr (Setoid.symm chain)
  | cons link rest inductionHypothesis =>
    obtain ⟨starts, next, crosses, others⟩ := chain
    exact (Doomed.onward link.crossed next link.set crosses.known crosses.leads
      (inductionHypothesis others)).congr (Setoid.symm starts)

/-- Names are doomed by what can be used. -/
theorem Doomed.of_usable (doomed : before.Doomed now type name)
    (same : after.usable? now .normal = before.usable? now .normal) :
    after.Doomed now type name := by
  induction doomed with
  | denied name entry usable nothing =>
    rw [← same] at usable
    exact .denied name entry usable nothing
  | onward name next set known leads _ inductionHypothesis =>
    exact .onward name next set (known.of_usable same) leads inductionHypothesis

/-- What is answered at a doomed name: that the type is denied, or an alias that leads to a name
that is doomed as well. -/
theorem Doomed.lookup (doomed : cache.Doomed now type name)
    (consistent : Consistent zone now deniable cache) (absolute : name.absolute = true)
    (single : type ≠ .any) (unasked : type ≠ .cname) :
    (cache.lookup now name type .normal).1 = .nxRRset ∨
      ∃ set next, (cache.lookup now name type .normal).1 = .cname set ∧
        zone.set? name .cname = some set ∧ set.aliasTarget? = some next ∧
        cache.Doomed now type next := by
  cases doomed with
  | denied _ entry usable nothing =>
    exact Or.inl (consistent.lookup_denied absolute single usable nothing)
  | onward _ next set known leads doomed =>
    rcases consistent.lookup_alias absolute single unasked known with outcome | ⟨outcome, _⟩
    · exact Or.inr ⟨set, next, outcome, consistent.held known, leads, doomed⟩
    · exact Or.inl outcome

/-! ### The way that a response lays -/

/-- Where there are no redirections, an alias leads to the target of its first record. -/
theorem aliasDestination?_cname {set : RRset} (isCname : set.type = .cname) (name : Name) :
    aliasDestination? set name = set.aliasTarget?.map Name.toAbsolute := by
  unfold aliasDestination?
  rw [isCname]
  cases set.aliasTarget? <;> rfl

/-- An alias that belongs to the name itself, taken as an outcome. -/
theorem aliasOutcome_cname {set : RRset} (isCname : set.type = .cname) :
    aliasOutcome set = .cname set := by
  unfold aliasOutcome
  rw [isCname]
  rfl

/-- What the trail of a response of the source crosses are aliases of the names themselves, and it
crosses none if the aliases are asked for. -/
theorem Crosses.cname {answers : List RRset} (held : ∀ set ∈ answers, zone.Holds set) {link : Link}
    {next : Name} (crosses : Crosses answers type link next) :
    link.set.type = .cname ∧ link.set.name ≈ link.crossed ∧ link.set.aliasTarget? = some next ∧
      type ≠ .cname := by
  have holds := held link.set crosses.present
  obtain ⟨isCname, owner⟩ := holds.cname crosses.standsFor
  refine ⟨isCname, owner, ?_, fun asked => ?_⟩
  · have leads := crosses.leads
    rw [aliasDestination?_cname isCname] at leads
    obtain ⟨target, isTarget, same⟩ := Option.map_eq_some_iff.mp leads
    rw [isTarget, ← same, Name.toAbsolute_of_absolute _ ((zone.absolute holds).2 target isTarget)]
  · have answers : answersQuestion link.crossed type link.set = true :=
      decide_eq_true ⟨owner, Or.inr (isCname.trans asked.symm)⟩
    have nothing := crosses.unanswered
    rw [List.filter_eq_nil_iff] at nothing
    exact nothing link.set crosses.present answers

/-- What is told of the trail of a response of the source, if anything is: an alias set, which is
that of the first link, unless it has no alias to give. -/
theorem firstAliasOr_cases {answers : List RRset} (held : ∀ set ∈ answers, zone.Holds set)
    {trail : Trail} {stuck : Option RRset} (walks : trail.Walks answers type start links stuck)
    (otherwise : Outcome) : firstAliasOr trail otherwise = otherwise ∨
      ∃ set, firstAliasOr trail otherwise = .cname set ∧
        (set.aliasTarget? = none ∨ ∃ link rest, links = link :: rest ∧ link.set = set) := by
  have used := walks.used
  unfold firstAliasOr
  cases links with
  | nil =>
    cases stuck with
    | none =>
      rw [used]
      exact Or.inl rfl
    | some set =>
      obtain ⟨present, _, standsFor, leads⟩ := walks.deadEnd set rfl
      have isCname := ((held set present).cname standsFor).1
      rw [aliasDestination?_cname isCname, Option.map_eq_none_iff] at leads
      rw [used]
      exact Or.inr ⟨set, aliasOutcome_cname isCname, Or.inl leads⟩
  | cons link rest =>
    obtain ⟨_, _, crosses, _⟩ := walks.chain
    rw [used]
    refine Or.inr ⟨link.set, aliasOutcome_cname (crosses.cname held).1, Or.inr ?_⟩
    exact ⟨link, rest, rfl, rfl⟩

variable {message : Message} {question : Question} {stuck : Option RRset}

/-- The trail of a response of the source can be retraced in the cache that has learned from it. -/
theorem Clean.ingest_way (clean : Clean zone now before) (served : zone.Serves message)
    (inTime : now < lastSecond) (asked : message.question = some question)
    (useful : message.result.isCacheable = true)
    (walks : (trailThrough message question).Walks
      (setsInClass message .answer question.recordClass) question.type start links stuck) :
    (before.ingestResponse now message).2.Way now question.type start links
      (trailThrough message question).current := by
  obtain ⟨_, learns, known⟩ := clean.ingest served inTime asked useful
  have held : ∀ set ∈ setsInClass message .answer question.recordClass, zone.Holds set :=
    fun set present => (served.inClass (Or.inl rfl) present).1
  refine ⟨walks.chain.imp fun link member next crosses => ?_, fun filled => ?_⟩
  · obtain ⟨isCname, owner, leads, unasked⟩ := crosses.cname held
    have used : link.set ∈ (trailThrough message question).used := by
      rw [walks.used]
      exact List.mem_append_left _ (List.mem_map_of_mem member)
    have certain (name : Name) : ¬ (trailThrough message question).Deniable question name .cname :=
      fun deniable => unasked deniable.2.2.symm
    have knows := known link.set (List.mem_append_left _ used) (isCname ▸ certain _)
    have holds := (held link.set crosses.present).at (Setoid.refl _)
    rw [isCname] at knows holds
    exact ⟨(learns.consistent.has (certain _) knows holds).congr owner, leads⟩
  · obtain ⟨link, member⟩ := List.exists_mem_of_ne_nil links filled
    obtain ⟨_, crosses⟩ := walks.chain.each link member
    exact (crosses.cname held).2.2.2

/-- A response of the source with an answer denies nothing, and its answer is one set, which can be
used. -/
theorem Clean.ingest_answered (clean : Clean zone now before) (served : zone.Serves message)
    (inTime : now < lastSecond) (asked : message.question = some question)
    (useful : message.result.isCacheable = true) (single : question.type ≠ .any)
    (answered : (trailThrough message question).finals ≠ []) :
    Clean zone now (before.ingestResponse now message).2 ∧
      ∃ set, (trailThrough message question).finals = [set] ∧
        (before.ingestResponse now message).2.HasSet now (trailThrough message question).current
          question.type set := by
  obtain ⟨_, learns, known⟩ := clean.ingest served inTime asked useful
  obtain ⟨links, stuck, walks⟩ :=
    trailOf_walks question (setsInClass message .answer question.recordClass)
  have certain (name : Name) (type : RecordType) :
      ¬ (trailThrough message question).Deniable question name type :=
    fun deniable => answered deniable.1
  refine ⟨learns.consistent.mono certain, ?_⟩
  obtain ⟨set, rest, finals⟩ := List.exists_cons_of_ne_nil answered
  have answers := (walks.finals.resolve_left answered).2
  rw [answers_unique single (answers.symm.trans finals)] at finals
  have final : set ∈ (trailThrough message question).finals :=
    finals ▸ List.mem_singleton.mpr rfl
  obtain ⟨present, answering⟩ := walks.within.finals set final
  obtain ⟨owner, wanted⟩ := of_decide_eq_true answering
  have knows := known set (List.mem_append_right _ final) (certain _ _)
  have holds := (served.inClass (Or.inl rfl) present).1.at (Setoid.refl _)
  rw [wanted.resolve_left single] at knows holds
  exact ⟨set, finals, (learns.consistent.has (certain _ _) knows holds).congr owner⟩

/-- Where only the type at the end of a trail may be denied, it is denied, or nothing is. -/
theorem Consistent.clean_or_doomed {trail : Trail}
    (consistent : Consistent zone now (trail.Deniable question) cache) :
    Clean zone now cache ∨ cache.Doomed now question.type trail.current := by
  by_cases denied : ∃ entry, cache.usable? now .normal trail.current (.type question.type) =
      some entry ∧ entry.set? = none
  · obtain ⟨entry, usable, nothing⟩ := denied
    exact Or.inr (.denied trail.current entry usable nothing)
  · refine Or.inl ⟨consistent.reachable, consistent.unbounded, consistent.keepsSets, ?_⟩
    intro name type entry usable
    rcases consistent.agrees name type entry usable with held | ⟨nothing, _, same, rfl⟩
    · exact Or.inl held
    · rw [← usable?_congr cache same] at usable
      exact absurd ⟨entry, usable, nothing⟩ denied

end Cache

end StubResolver
