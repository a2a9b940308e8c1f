/-
This file proves that documents are read whose lines are written in the plainest way: a header, or a
key without quotes and its value with one blank on each side of the equality sign.

Reading takes the lines apart one after the other and adds what they state to the document. Where
every table has one header and every key of a table one line, a line never meets what a line before
it has put there, and the document comes out as the list of its tables.
-/

import StubResolver.Proofs.Toml.Values

namespace StubResolver.Toml

/-! ### Keys -/

/-- A key that stands without quotes. -/
structure IsBareKey (key : String) : Prop where
  filled : key.toList ≠ []
  bare : key.toList.all isBareKeyChar = true

instance (key : String) : Decidable (IsBareKey key) :=
  decidable_of_iff (key.toList ≠ [] ∧ key.toList.all isBareKeyChar = true)
    ⟨fun ⟨filled, bare⟩ => ⟨filled, bare⟩, fun ⟨filled, bare⟩ => ⟨filled, bare⟩⟩

section

variable {key : String} (isKey : IsBareKey key)
include isKey

theorem IsBareKey.each : ∀ char ∈ key.toList, isBareKeyChar char = true :=
  List.all_eq_true.mp isKey.bare

theorem IsBareKey.unbroken : '\r' ∉ key.toList :=
  fun member => Bool.noConfusion (isKey.each _ member)

theorem IsBareKey.isWordChar_of_head {char : Char} {rest : List Char}
    (isFirst : (key.toList ++ rest).head? = some char) : isWordChar char = true := by
  rw [List.head?_append_of_ne_nil _ isKey.filled] at isFirst
  simp [isWordChar, isKey.each char (List.mem_of_head? isFirst)]

/-- Without quotes a key is read up to the first character that stands in no key. -/
theorem readKey_append {rest : List Char}
    (ends : ∀ char ∈ rest.head?, isBareKeyChar char = false)
    (noDot : (skipGap rest).head? ≠ some '.') :
    readKey (key.toList ++ rest) = some ([key], skipGap rest) := by
  obtain ⟨taken, dropped⟩ := takeWhile_append_of_ends isKey.each ends
  have begun : skipGap (key.toList ++ rest) = key.toList ++ rest :=
    skipGap_of_head fun char isFirst => isGap_of_isWordChar (isKey.isWordChar_of_head isFirst)
  have part : readKeyPart (key.toList ++ rest) = some (key, rest) := by
    unfold readKeyPart
    rw [taken, dropped]
    simp [isKey.filled]
  obtain ⟨most, enough⟩ : ∃ most, (key.toList ++ rest).length = most + 1 := by
    refine Nat.exists_eq_succ_of_ne_zero fun empty => ?_
    exact isKey.filled (List.append_eq_nil_iff.mp (List.length_eq_zero_iff.mp empty)).1
  unfold readKey
  rw [begun, enough, readKeyParts, part]
  simp only [Option.bind_eq_bind, Option.bind_some]
  split
  · rename_i dotted
    rw [dotted] at noDot
    exact absurd rfl noDot
  · rfl

end

/-! ### Lines -/

/-- What is written on a line, and after the end of the line before it, makes a statement. -/
structure States (line : List Char) (statement : Statement) : Prop where
  unbroken : '\r' ∉ line
  reads : ∀ rest, ∃ begun, skipVoid false (line ++ '\n' :: rest) = some begun ∧ begun ≠ [] ∧
    readStatement begun = some (statement, '\n' :: rest)

/-- A line may come after an empty one. -/
theorem States.afterEmpty {line : List Char} {statement : Statement}
    (states : States line statement) : States ('\n' :: line) statement := by
  refine ⟨?_, states.reads⟩
  rw [List.mem_cons, not_or]
  exact ⟨by decide, states.unbroken⟩

/-- A key without quotes in brackets is a header. -/
theorem IsBareKey.states_header {key : String} (isKey : IsBareKey key) :
    States ('[' :: (key.toList ++ [']'])) (.header [key]) := by
  refine ⟨?_, fun rest => ?_⟩
  · rw [List.mem_cons, List.mem_append, not_or, not_or]
    exact ⟨by decide, isKey.unbroken, by decide⟩
  have layout : '[' :: (key.toList ++ [']']) ++ '\n' :: rest =
      '[' :: (key.toList ++ ']' :: '\n' :: rest) := by simp
  refine ⟨'[' :: (key.toList ++ ']' :: '\n' :: rest), ?_, List.cons_ne_nil _ _, ?_⟩
  · rw [layout]
    rfl
  have read : readKey (key.toList ++ ']' :: '\n' :: rest) = some ([key], ']' :: '\n' :: rest) :=
    readKey_append isKey (by rintro char ⟨⟩; rfl) (by simp [skipGap, isGap])
  rw [readStatement]
  · rw [read]
    rfl
  · intro others same
    have bracket : (key.toList ++ ']' :: '\n' :: rest).head? = some '[' := by
      rw [same]
      rfl
    exact Bool.noConfusion (isKey.isWordChar_of_head bracket)

/-- A setting as it is written on a line, with what it means. -/
structure Setting where
  key : String
  written : List Char
  value : Value
  isKey : IsBareKey key
  means : Means written value

/-- The line of a setting. -/
def Setting.line (setting : Setting) : List Char :=
  setting.key.toList ++ ' ' :: '=' :: ' ' :: setting.written

theorem Setting.states (setting : Setting) :
    States setting.line (.pair [setting.key] setting.value) := by
  obtain ⟨key, written, value, isKey, means⟩ := setting
  refine ⟨?_, fun rest => ?_⟩
  · simp [Setting.line, isKey.unbroken, means.unbroken]
  have layout : Setting.line ⟨key, written, value, isKey, means⟩ ++ '\n' :: rest =
      key.toList ++ ' ' :: '=' :: ' ' :: (written ++ '\n' :: rest) := by simp [Setting.line]
  rw [layout]
  refine ⟨_, skipVoid_of_head fun char isFirst =>
    isVoid_of_isWordChar (isKey.isWordChar_of_head isFirst), by simp [isKey.filled], ?_⟩
  have gap : skipGap (' ' :: (written ++ '\n' :: rest)) = written ++ '\n' :: rest := by
    show skipGap (written ++ '\n' :: rest) = _
    refine skipGap_of_head ?_
    rw [List.head?_append_of_ne_nil _ means.filled]
    exact means.starts
  have read : readPair (readValue greatestDepth)
      (key.toList ++ ' ' :: '=' :: ' ' :: (written ++ '\n' :: rest)) =
        some (([key], value), '\n' :: rest) := by
    have afterKey : readKey (key.toList ++ ' ' :: '=' :: ' ' :: (written ++ '\n' :: rest)) =
        some ([key], '=' :: ' ' :: (written ++ '\n' :: rest)) :=
      readKey_append isKey (by rintro char ⟨⟩; rfl) (by simp [skipGap, isGap])
    unfold readPair
    simp only [Option.bind_eq_bind, afterKey, Option.bind_some, readChar, if_true, gap, means.reads]
  rw [readStatement]
  · rw [read]
    rfl
  all_goals
    intro others same
    have bracket := congrArg List.head? same
    exact Bool.noConfusion (isKey.isWordChar_of_head bracket)

/-- Lines with the end of each. -/
def linesText (lines : List (List Char × Statement)) : List Char :=
  lines.flatMap fun line => line.1 ++ ['\n']

/-- Lines are read one after the other. -/
theorem readStatements_lines {lines : List (List Char × Statement)}
    (states : ∀ line ∈ lines, States line.1 line.2) {most : Nat} (enough : lines.length < most) :
    readStatements most (linesText lines) = some (lines.map Prod.snd) := by
  induction lines generalizing most with
  | nil =>
    cases most with
    | zero => exact absurd enough (Nat.not_lt_zero _)
    | succ most => rfl
  | cons line lines inductionHypothesis =>
    cases most with
    | zero => exact absurd enough (Nat.not_lt_zero _)
    | succ most =>
      obtain ⟨begun, void, filled, statement⟩ :=
        (states line List.mem_cons_self).reads (linesText lines)
      have layout : linesText (line :: lines) = line.1 ++ '\n' :: linesText lines := by
        simp [linesText]
      have ended : endLine ('\n' :: linesText lines) = some (linesText lines) := rfl
      have after := inductionHypothesis
        (fun other member => states other (List.mem_cons_of_mem _ member))
        (Nat.lt_of_succ_lt_succ enough)
      rw [layout, readStatements, void]
      cases begun with
      | nil => exact absurd rfl filled
      | cons char others =>
        simp only [Option.bind_eq_bind, Option.bind_some, statement, ended, after, Option.map_some,
          List.map_cons]

theorem length_le_linesText (lines : List (List Char × Statement)) :
    lines.length ≤ (linesText lines).length := by
  induction lines with
  | nil => exact Nat.le_refl 0
  | cons line lines inductionHypothesis =>
    simp only [linesText, List.flatMap_cons, List.length_append, List.length_cons] at *
    omega

/-! ### Groups of settings -/

/-- The last table of a document is found under its key when the key is new. -/
theorem lookup_append_self {entries : Entries} {key : String} (new : entries.lookup key = none)
    (value : Value) : (entries ++ [(key, value)]).lookup key = some value := by
  simp [List.lookup_append, new]

theorem setEntry_append_self {entries : Entries} {key : String} (new : entries.lookup key = none)
    (old value : Value) :
    setEntry (entries ++ [(key, old)]) key value = entries ++ [(key, value)] := by
  have others : entries.filter (fun entry => entry.1 ≠ key) = entries := by
    refine List.filter_eq_self.mpr fun entry member => ?_
    have differ := List.lookup_eq_none_iff.mp new entry member
    exact decide_eq_true (bne_iff_ne.mp differ).symm
  unfold setEntry
  rw [List.filter_append, others]
  simp

/-- A header that is new opens a table at the end of the document. -/
theorem add_header {draft : Draft} {name : String} (new : draft.entries.lookup name = none) :
    draft.add (.header [name]) = some ⟨[name], draft.entries ++ [(name, .table .header [])]⟩ := by
  simp [Draft.add, openTable, splitLast, alter, new]

/-- A setting that is new is put at the end of the table that was opened last. -/
theorem add_pair {entries inner : Entries} {name key : String} {value : Value}
    (new : entries.lookup name = none) (newInside : inner.lookup key = none) :
    Draft.add ⟨[name], entries ++ [(name, .table .header inner)]⟩ (.pair [key] value) =
      some ⟨[name], entries ++ [(name, .table .header (inner ++ [(key, value)]))]⟩ := by
  simp [Draft.add, alter, lookup_append_self new, setEntry_append_self new, mayPass, define,
    splitLast, newInside]

/-- The entries that settings make. -/
def entriesOf (settings : List Setting) : Entries :=
  settings.map fun setting => (setting.key, setting.value)

theorem lookup_entriesOf {settings : List Setting} {key : String}
    (new : key ∉ settings.map Setting.key) : (entriesOf settings).lookup key = none := by
  refine List.lookup_eq_none_iff.mpr fun entry member => ?_
  obtain ⟨setting, isSetting, rfl⟩ := List.mem_map.mp member
  refine bne_iff_ne.mpr fun same => new ?_
  exact List.mem_map.mpr ⟨setting, isSetting, same.symm⟩

/-- Settings with different keys are added to the table one after the other. -/
theorem add_settings {entries : Entries} {name : String} (new : entries.lookup name = none)
    (before settings : List Setting)
    (distinct : ((before ++ settings).map Setting.key).Nodup) :
    (settings.map fun setting => Statement.pair [setting.key] setting.value).foldlM Draft.add
        ⟨[name], entries ++ [(name, .table .header (entriesOf before))]⟩ =
      some ⟨[name], entries ++ [(name, .table .header (entriesOf (before ++ settings)))]⟩ := by
  induction settings generalizing before with
  | nil => rw [List.append_nil]; rfl
  | cons setting settings inductionHypothesis =>
    have grown : before ++ setting :: settings = (before ++ [setting]) ++ settings := by simp
    have newInside : setting.key ∉ before.map Setting.key := by
      rw [List.map_append, List.nodup_append] at distinct
      exact fun member => distinct.2.2 _ member _ (by simp) rfl
    have one : entriesOf (before ++ [setting]) =
        entriesOf before ++ [(setting.key, setting.value)] := by
      simp [entriesOf]
    rw [List.map_cons, List.foldlM_cons, add_pair new (lookup_entriesOf newInside), ← one]
    rw [grown] at distinct ⊢
    exact inductionHypothesis (before ++ [setting]) distinct

/-- A header with the settings under it. -/
structure Group where
  name : String
  settings : List Setting
  isKey : IsBareKey name
  distinct : (settings.map Setting.key).Nodup

/-- The entries of the table that a group makes. -/
def Group.entries (group : Group) : Entries := entriesOf group.settings

/-- The table that a group makes, under its name. -/
def Group.entry (group : Group) : String × Value := (group.name, .table .header group.entries)

/-- The lines of a group. -/
def Group.lines (group : Group) : List (List Char × Statement) :=
  ('[' :: (group.name.toList ++ [']']), .header [group.name]) ::
    group.settings.map fun setting =>
      (setting.line, .pair [setting.key] setting.value)

theorem Group.states (group : Group) : ∀ line ∈ group.lines, States line.1 line.2 := by
  intro line member
  rcases List.mem_cons.mp member with rfl | later
  · exact group.isKey.states_header
  · obtain ⟨setting, _, rfl⟩ := List.mem_map.mp later
    exact setting.states

/-- A group with a new name is added to the document as a table. -/
theorem Group.add (group : Group) {draft : Draft} (new : draft.entries.lookup group.name = none) :
    (group.lines.map Prod.snd).foldlM Draft.add draft =
      some ⟨[group.name], draft.entries ++ [group.entry]⟩ := by
  have pairs := add_settings new [] group.settings group.distinct
  unfold Group.lines
  rw [List.map_cons, List.foldlM_cons, add_header new, List.map_map]
  exact pairs

/-! ### Documents -/

/-- Lines after an empty one. -/
def afterEmpty : List (List Char × Statement) → List (List Char × Statement)
  | [] => []
  | line :: lines => ('\n' :: line.1, line.2) :: lines

/-- The lines of several groups, with an empty one between any two. -/
def documentLines : List Group → List (List Char × Statement)
  | [] => []
  | group :: groups => group.lines ++ groups.flatMap fun next => afterEmpty next.lines

theorem documentLines_states (groups : List Group) :
    ∀ line ∈ documentLines groups, States line.1 line.2 := by
  cases groups with
  | nil => exact fun _ nothing => absurd nothing List.not_mem_nil
  | cons group groups =>
    intro line member
    rcases List.mem_append.mp member with here | later
    · exact group.states line here
    · obtain ⟨next, _, inside⟩ := List.mem_flatMap.mp later
      rcases List.mem_cons.mp inside with rfl | other
      · exact (next.states _ List.mem_cons_self).afterEmpty
      · exact next.states line (List.mem_cons_of_mem _ other)

theorem documentLines_statements (groups : List Group) :
    (documentLines groups).map Prod.snd = groups.flatMap fun group => group.lines.map Prod.snd := by
  cases groups with
  | nil => rfl
  | cons group groups =>
    show (group.lines ++ _).map _ = _
    rw [List.map_append, List.map_flatMap]
    rfl

/-- Groups with different names are added to the document one after the other. -/
theorem add_groups (before groups : List Group)
    (distinct : ((before ++ groups).map Group.name).Nodup) (current : List String) :
    ∃ last, (groups.flatMap fun group => group.lines.map Prod.snd).foldlM Draft.add
        ⟨current, before.map Group.entry⟩ =
      some ⟨last, (before ++ groups).map Group.entry⟩ := by
  induction groups generalizing before current with
  | nil => exact ⟨current, by rw [List.append_nil]; rfl⟩
  | cons group groups inductionHypothesis =>
    have grown : before ++ group :: groups = (before ++ [group]) ++ groups := by simp
    have new : (before.map Group.entry).lookup group.name = none := by
      rw [List.map_append, List.nodup_append] at distinct
      refine List.lookup_eq_none_iff.mpr fun entry member => ?_
      obtain ⟨other, isGroup, rfl⟩ := List.mem_map.mp member
      have differ := distinct.2.2 other.name (List.mem_map_of_mem isGroup) group.name (by simp)
      exact bne_iff_ne.mpr (Ne.symm differ)
    have added : (group.lines.map Prod.snd).foldlM Draft.add ⟨current, before.map Group.entry⟩ =
        some ⟨[group.name], before.map Group.entry ++ [group.entry]⟩ := group.add new
    rw [grown] at distinct ⊢
    obtain ⟨last, rest⟩ := inductionHypothesis (before ++ [group]) distinct [group.name]
    refine ⟨last, ?_⟩
    rw [List.flatMap_cons, List.foldlM_append, added]
    rw [List.map_append] at rest
    exact rest

theorem plainLineEnds_of_none {text : List Char} (unbroken : '\r' ∉ text) :
    plainLineEnds text = text := by
  induction text with
  | nil => rfl
  | cons char rest inductionHypothesis =>
    rw [List.mem_cons, not_or] at unbroken
    rw [plainLineEnds, inductionHypothesis unbroken.2]
    rintro _ rfl
    exact absurd rfl unbroken.1

theorem linesText_unbroken {lines : List (List Char × Statement)}
    (states : ∀ line ∈ lines, States line.1 line.2) : '\r' ∉ linesText lines := by
  intro member
  obtain ⟨line, isLine, inside⟩ := List.mem_flatMap.mp member
  rcases List.mem_append.mp inside with written | last
  · exact (states line isLine).unbroken written
  · exact absurd last (by decide)

/-- A document of groups is read as their tables. -/
theorem read_documentLines {groups : List Group} (distinct : (groups.map Group.name).Nodup) :
    read (linesText (documentLines groups)) = some (groups.map Group.entry) := by
  have states := documentLines_states groups
  have noMark : dropMark (linesText (documentLines groups)) = linesText (documentLines groups) := by
    cases groups <;> rfl
  have statements := readStatements_lines states (Nat.lt_succ_of_le (length_le_linesText _))
  obtain ⟨last, added⟩ := add_groups [] groups distinct []
  rw [documentLines_statements] at statements
  unfold read
  simp only [noMark, plainLineEnds_of_none (linesText_unbroken states),
    Option.bind_eq_bind, statements, Option.bind_some]
  show (List.foldlM Draft.add ⟨[], List.map Group.entry []⟩ _).bind _ = _
  rw [added]
  rfl

end StubResolver.Toml
