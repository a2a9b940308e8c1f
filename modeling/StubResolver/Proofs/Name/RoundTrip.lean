/-
This file proves which names are read from the texts that are written for them. Every octet of a
label is read as the character of its number, however it had to be escaped. What the reader makes of
these characters is the label they came from, but for its case, as long as no part of the label is
the ASCII form of an international label. Those are written as what they stand for and read through
tables, and some of them are not read back.
-/

import StubResolver.Name.Printer
import StubResolver.Name.Reader
import StubResolver.Proofs.Name.Suffixes

namespace StubResolver

/-- The character that has the number of an octet. -/
def octetChar (octet : UInt8) : Char := Char.ofNat octet.toNat

/-- The characters that have the numbers of the octets of a label. -/
def Label.chars (label : Label) : List Char := label.octets.map octetChar

/-- Whether a label is read as an international one: a part between its full stops starts like the
ASCII form of such a label. An underscore at the front keeps a label as it is. -/
def Label.isInternational (label : Label) : Bool :=
  label.chars.head? != some '_' &&
    (splitAtEach (· == '.') (label.chars.map Char.toLower)).any fun part =>
      (Idna.aceBody? part).isSome

/-- What follows a step is only done if the step leads to a value. -/
theorem exists_of_bind_eq_ok {Fault Value Result : Type} {step : Except Fault Value}
    {next : Value → Except Fault Result} {result : Result} (done : step >>= next = .ok result) :
    ∃ value, step = .ok value ∧ next value = .ok result := by
  cases step with
  | error fault => cases done
  | ok value => exact ⟨value, rfl, done⟩

namespace Name

/-! ### Octets -/

/-- What holds of the octets one by one holds of all. -/
theorem forall_octet {holds : UInt8 → Prop} (each : ∀ value < 256, holds (UInt8.ofNat value))
    (octet : UInt8) : holds octet := by
  have here := each octet.toNat octet.toNat_lt
  rwa [UInt8.ofNat_toNat] at here

/-- A character that stands for itself in a label. -/
def StandsForItself (char : Char) : Prop :=
  char ≠ '.' ∧ char ≠ '\\' ∧ (isControl char || isBlank char) = false

instance (char : Char) : Decidable (StandsForItself char) :=
  inferInstanceAs (Decidable (_ ∧ _ ∧ _))

theorem standsForItself_of_isPlainOctet : ∀ (first : Bool) (octet : UInt8),
    isPlainOctet first octet = true → StandsForItself (octetChar octet) := by
  intro first
  refine forall_octet ?_
  cases first <;> decide +kernel

/-- A visible character that is escaped is no number. -/
theorem isNumeric_of_not_isPlainOctet : ∀ (first : Bool) (octet : UInt8),
    isPlainOctet first octet = false → 0x20 < octet ∧ octet < 0x7f →
      isNumeric (octetChar octet) = false := by
  intro first
  refine forall_octet ?_
  cases first <;> decide +kernel

/-- An octal digit as it is written is read as the digit. -/
theorem octalDigit_ofNat (digit : Nat) (small : digit < 8) :
    isNumeric (Char.ofNat (digit + 0x30)) = true ∧
      octalDigit (Char.ofNat (digit + 0x30)) = .ok digit := by
  have written : ∀ digit < 8, isNumeric (Char.ofNat (digit + 0x30)) = true ∧
      ('0' ≤ Char.ofNat (digit + 0x30) ∧ Char.ofNat (digit + 0x30) ≤ '7') ∧
      (Char.ofNat (digit + 0x30)).toNat - '0'.toNat = digit := by
    decide +kernel
  obtain ⟨numeric, range, value⟩ := written digit small
  refine ⟨numeric, ?_⟩
  unfold octalDigit
  rw [if_pos range, value]

/-- The octal digits of an octet are read as its character. -/
theorem readFrom_octalDigits (name : Name) (label : List Char) (octet : UInt8) (rest : List Char) :
    readFrom name label .afterBackslash (octalDigits octet ++ rest) =
      readFrom name (label ++ [octetChar octet]) .inLabel rest := by
  have bound : octet.toNat < 256 := octet.toNat_lt
  have high : (octet / 64).toNat = octet.toNat / 64 := UInt8.toNat_div octet 64
  have middle : (octet / 8 % 8).toNat = octet.toNat / 8 % 8 := by
    rw [UInt8.toNat_mod, UInt8.toNat_div]
    rfl
  have low : (octet % 8).toNat = octet.toNat % 8 := UInt8.toNat_mod octet 8
  obtain ⟨isNumericHigh, readHigh⟩ := octalDigit_ofNat (octet.toNat / 64) (by omega)
  obtain ⟨isNumericMiddle, readMiddle⟩ := octalDigit_ofNat (octet.toNat / 8 % 8) (by omega)
  obtain ⟨isNumericLow, readLow⟩ := octalDigit_ofNat (octet.toNat % 8) (by omega)
  have value :
      (octet.toNat / 64 * 8 + octet.toNat / 8 % 8) * 8 + octet.toNat % 8 = octet.toNat := by
    omega
  simp [octalDigits, octetChar, readFrom, high, middle, low, isNumericHigh, readHigh,
    isNumericMiddle, readMiddle, isNumericLow, readLow, value, bind, Except.bind]

/-- Every octet is read as the character of its number. -/
theorem readFrom_octetText (name : Name) (label : List Char) (first : Bool) (octet : UInt8)
    (rest : List Char) :
    readFrom name label .inLabel (octetText first octet ++ rest) =
      readFrom name (label ++ [octetChar octet]) .inLabel rest := by
  have intoEscape (text : List Char) :
      readFrom name label .inLabel ('\\' :: text) = readFrom name label .afterBackslash text := by
    rw [readFrom, if_neg (by decide), if_pos rfl]
  unfold octetText
  split
  · rename_i plain
    obtain ⟨noStop, noBackslash, allowed⟩ := standsForItself_of_isPlainOctet first octet plain
    show readFrom name label .inLabel (octetChar octet :: rest) = _
    rw [readFrom, if_neg noStop, if_neg noBackslash, allowed, if_neg Bool.false_ne_true]
  · rename_i notPlain
    split
    · rename_i visible
      have noNumber : isNumeric (octetChar octet) = false :=
        isNumeric_of_not_isPlainOctet first octet (Bool.not_eq_true _ ▸ notPlain) visible
      show readFrom name label .inLabel ('\\' :: octetChar octet :: rest) = _
      rw [intoEscape, readFrom, noNumber, if_neg Bool.false_ne_true]
    · rw [List.cons_append, intoEscape, readFrom_octalDigits]

/-- The octets of a label are read as its characters. -/
theorem readFrom_octetsText (name : Name) (label : Label) (rest : List Char) :
    readFrom name [] .inLabel (octetsText label.octets ++ rest) =
      readFrom name label.chars .inLabel rest := by
  have later (octets : List UInt8) (before : List Char) :
      readFrom name before .inLabel (octets.flatMap (octetText false) ++ rest) =
        readFrom name (before ++ octets.map octetChar) .inLabel rest := by
    induction octets generalizing before with
    | nil => rw [List.flatMap_nil, List.nil_append, List.map_nil, List.append_nil]
    | cons octet octets inductionHypothesis =>
      rw [List.flatMap_cons, List.append_assoc, readFrom_octetText, inductionHypothesis,
        List.append_assoc]
      rfl
  unfold Label.chars
  cases label.octets with
  | nil => rfl
  | cons octet octets =>
    rw [octetsText, List.append_assoc, readFrom_octetText, later]
    rfl

/-! ### Characters of labels -/

theorem toNat_octetChar : ∀ octet : UInt8, (octetChar octet).toNat.toUInt8 = octet :=
  forall_octet (by decide +kernel)

theorem isAscii_of_isAlphanum {char : Char} (alphanumeric : char.isAlphanum = true) :
    char.toNat < 0x80 := by
  have upTo (last : Char) (isAscii : last.toNat < 0x80) (bound : char.val ≤ last.val) :
      char.toNat < 0x80 :=
    Nat.lt_of_le_of_lt (UInt32.le_iff_toNat_le.mp bound) isAscii
  rcases (Bool.or_eq_true _ _).mp alphanumeric with letter | digit
  · rcases (Bool.or_eq_true _ _).mp letter with upper | lower
    · exact upTo 'Z' (by decide) (of_decide_eq_true upper).2
    · exact upTo 'z' (by decide) (of_decide_eq_true ((Bool.and_eq_true _ _).mp lower).2)
  · exact upTo '9' (by decide) (of_decide_eq_true ((Bool.and_eq_true _ _).mp digit).2)

/-- A character that may stand in a label is an ASCII character. -/
theorem isAscii_of_isLabelChar {first : Bool} {char : Char}
    (legal : isLabelChar first char = true) : char.toNat < 0x80 := by
  simp only [isLabelChar, Bool.or_eq_true, Bool.and_eq_true, beq_iff_eq] at legal
  rcases legal with (((alphanumeric | rfl) | rfl) | ⟨rfl, _⟩) | ⟨rfl, _⟩
  · exact isAscii_of_isAlphanum alphanumeric
  all_goals decide

theorem isAscii_of_isLabelText {text : List Char} (legal : isLabelText text = true) :
    ∀ char ∈ text, char.toNat < 0x80 := by
  cases text with
  | nil => cases legal
  | cons first rest =>
    obtain ⟨legalFirst, legalRest⟩ := (Bool.and_eq_true _ _).mp legal
    intro char member
    rcases List.mem_cons.mp member with rfl | later
    · exact isAscii_of_isLabelChar legalFirst
    · exact isAscii_of_isLabelChar (List.all_eq_true.mp legalRest char later)

/-- The characters of a label have its octets for their numbers. -/
theorem octets_of_chars (label : Label) :
    label.chars.map (fun char => char.toNat.toUInt8) = label.octets := by
  unfold Label.chars
  rw [List.map_map]
  exact (List.map_congr_left fun octet _ => toNat_octetChar octet).trans (List.map_id _)

/-- The same characters after their capitals have been lowered. -/
theorem octets_of_lowered_chars (label : Label) :
    (label.chars.map Char.toLower).map (fun char => char.toNat.toUInt8) =
      label.lowered.octets := by
  have lowers : ∀ octet : UInt8, (octetChar octet).toLower.toNat.toUInt8 = lowerOctet octet :=
    forall_octet (by decide +kernel)
  unfold Label.chars
  rw [List.map_map, List.map_map]
  exact List.map_congr_left fun octet _ => lowers octet

/-- Lowering capitals leaves a text one that may be a label. -/
theorem isLabelText_lowered {label : Label} (legal : isLabelText label.chars = true) :
    isLabelText (label.chars.map Char.toLower) = true := by
  have keeps (first : Bool) : ∀ octet : UInt8, isLabelChar first (octetChar octet) = true →
      isLabelChar first (octetChar octet).toLower = true := by
    refine forall_octet ?_
    cases first <;> decide +kernel
  unfold Label.chars at *
  cases octets : label.octets with
  | nil => exact absurd octets label.nonempty
  | cons first rest =>
    rw [octets] at legal
    obtain ⟨legalFirst, legalRest⟩ := (Bool.and_eq_true _ _).mp legal
    refine (Bool.and_eq_true _ _).mpr ⟨keeps true first legalFirst, ?_⟩
    rw [List.all_map, List.all_map, List.all_eq_true] at *
    exact fun octet member => keeps false octet (legalRest octet member)

/-- ASCII characters take one octet each. -/
theorem utf8ByteSize_of_isAscii {text : List Char} (ascii : ∀ char ∈ text, char.toNat < 0x80) :
    (String.ofList text).utf8ByteSize = text.length := by
  induction text with
  | nil => rfl
  | cons char rest inductionHypothesis =>
    have one : char.utf8Size = 1 :=
      Char.utf8Size_eq_one_iff.mpr (Nat.le_of_lt_succ (ascii char List.mem_cons_self))
    rw [String.ofList_cons, String.utf8ByteSize_append, String.utf8ByteSize_singleton, one,
      inductionHypothesis fun other later => ascii other (List.mem_cons_of_mem _ later),
      List.length_cons, Nat.add_comm]

/-! ### Labels -/

theorem exists_splitAtEach (separates : Char → Bool) (text : List Char) :
    ∃ piece pieces, splitAtEach separates text = piece :: pieces := by
  cases text with
  | nil => exact ⟨[], [], rfl⟩
  | cons char rest =>
    rw [splitAtEach]
    split
    · exact ⟨[], _, rfl⟩
    · split
      · exact ⟨[char], [], rfl⟩
      · exact ⟨_, _, rfl⟩

/-- A label that starts like an ASCII form is read as an international one. -/
theorem isInternational_of_startsLikeForm {label : Label}
    (starts : label.octets.take 4 = [0x78, 0x6e, 0x2d, 0x2d]) : label.isInternational = true := by
  have octets : label.octets = 0x78 :: 0x6e :: 0x2d :: 0x2d :: label.octets.drop 4 :=
    (List.take_append_drop 4 label.octets).symm.trans (congrArg (· ++ label.octets.drop 4) starts)
  have chars : label.chars =
      'x' :: 'n' :: '-' :: '-' :: (label.octets.drop 4).map octetChar :=
    congrArg (List.map octetChar) octets
  obtain ⟨piece, pieces, split⟩ := exists_splitAtEach (· == '.')
    (((label.octets.drop 4).map octetChar).map Char.toLower)
  have pieces : splitAtEach (· == '.') (label.chars.map Char.toLower) =
      ('x' :: 'n' :: '-' :: '-' :: piece) :: pieces := by
    rw [chars]
    show splitAtEach (· == '.') ('x' :: 'n' :: '-' :: '-' :: _) = _
    simp only [splitAtEach, split]
    rfl
  unfold Label.isInternational
  rw [pieces, chars]
  rfl

/-- A label that is not read as an international one is written octet by octet. -/
theorem text_of_not_isInternational {label : Label} (plain : label.isInternational = false) :
    label.text = octetsText label.octets := by
  have noForm : label.international? = none := by
    unfold Label.international?
    rw [if_neg]
    intro starts
    exact Bool.false_ne_true (plain.symm.trans (isInternational_of_startsLikeForm starts))
  unfold Label.text
  rw [noForm]
  rfl

theorem asciiLabel_eq {text : List Char} {label : Label} (legal : isLabelText text = true)
    (octets : text.map (fun char => char.toNat.toUInt8) = label.octets) :
    asciiLabel text = .ok label := by
  have found : Label.ofOctets? label.octets = some label := dif_pos ⟨label.nonempty, label.short⟩
  unfold asciiLabel
  rw [if_pos legal, octets, found]

/-- The ASCII form of a label that is not read as an international one is the label with its
capitals lowered. -/
theorem toAscii?_chars {label : Label} (ascii : ∀ char ∈ label.chars, char.toNat < 0x80)
    (plain : label.isInternational = false) (noUnderscore : label.chars.head? ≠ some '_') :
    Idna.toAscii? label.chars = some (label.chars.map Char.toLower) := by
  have allAscii : label.chars.all Idna.isAscii = true :=
    List.all_eq_true.mpr fun char member => decide_eq_true (ascii char member)
  have noForm : (splitAtEach (· == '.') (label.chars.map Char.toLower)).all
      (fun part => (Idna.aceBody? part).isNone) = true := by
    unfold Label.isInternational at plain
    rw [bne_iff_ne.mpr noUnderscore, Bool.true_and, List.any_eq_false] at plain
    refine List.all_eq_true.mpr fun part member => ?_
    rw [Option.isNone_iff_eq_none, ← Option.not_isSome_iff_eq_none]
    exact plain part member
  unfold Idna.toAscii?
  exact if_pos ((Bool.and_eq_true _ _).mpr ⟨allAscii, noForm⟩)

/-- The characters of a label are read as the label, but for its case. -/
theorem labelOfText_chars {label : Label} (legal : isLabelText label.chars = true)
    (plain : label.isInternational = false) :
    ∃ again, labelOfText label.chars = .ok again ∧ again.lowered = label.lowered := by
  have ascii := isAscii_of_isLabelText legal
  have short : ¬ 63 < (String.ofList label.chars).utf8ByteSize := by
    rw [utf8ByteSize_of_isAscii ascii, Label.chars, List.length_map]
    exact Nat.not_lt.mpr label.short
  have wild (isWild : label.chars = ['*']) : Label.wildcard = label := by
    have octets := octets_of_chars label
    rw [isWild] at octets
    cases label
    cases octets
    rfl
  unfold labelOfText
  dsimp only
  by_cases isWild : label.chars = ['*']
  · rw [if_pos isWild]
    exact ⟨Label.wildcard, rfl, congrArg Label.lowered (wild isWild)⟩
  · rw [if_neg isWild, if_neg short]
    by_cases underscore : label.chars.head? = some '_'
    · rw [if_pos underscore]
      exact ⟨label, asciiLabel_eq legal (octets_of_chars label), rfl⟩
    · rw [if_neg underscore, toAscii?_chars ascii plain underscore]
      exact ⟨label.lowered, asciiLabel_eq (isLabelText_lowered legal)
        (octets_of_lowered_chars label), label.lowered_lowered⟩

/-! ### Names -/

/-- A label that is read as itself, but for its case. -/
structure ReadsBack (label : Label) : Prop where
  legal : isLabelText label.chars = true
  plain : label.isInternational = false

/-- The characters of a label, once read, add the label to a name that has room for it. -/
theorem addLabel_chars (name : Name) {label : Label} (readsBack : ReadsBack label)
    (fits : wireLength (name.labels ++ [label]) ≤ maxNameLength) :
    ∃ longer, addLabel name label.chars = .ok longer ∧
      longer.labels.map Label.lowered = (name.labels ++ [label]).map Label.lowered := by
  obtain ⟨again, read, same⟩ := labelOfText_chars readsBack.legal readsBack.plain
  have lowered : (name.labels ++ [again]).map Label.lowered =
      (name.labels ++ [label]).map Label.lowered := by
    simp only [List.map_append, List.map_cons, List.map_nil, same]
  have fitsAgain : wireLength (name.labels ++ [again]) ≤ maxNameLength :=
    Nat.le_trans (Nat.le_of_eq (wireLength_eq_of_lowered lowered)) fits
  refine ⟨⟨name.labels ++ [again], false, fitsAgain⟩, ?_, lowered⟩
  unfold addLabel ofLabels?
  rw [read]
  simp only [bind, Except.bind, dif_pos fitsAgain]

/-- Labels, each with a full stop behind it. -/
def closedLabels (labels : List Label) : List Char :=
  labels.flatMap fun label => label.text ++ ['.']

/-- Labels with full stops behind them are read one after the other, and the name is absolute. -/
theorem readFrom_closedLabels {labels : List Label} (readBack : ∀ label ∈ labels, ReadsBack label)
    (name : Name) (fits : wireLength (name.labels ++ labels) ≤ maxNameLength) :
    ∃ again, readFrom name [] .inLabel (closedLabels labels) = .ok again ∧ again.absolute = true ∧
      again.labels.map Label.lowered = (name.labels ++ labels).map Label.lowered := by
  induction labels generalizing name with
  | nil => exact ⟨name.toAbsolute, rfl, rfl, by rw [List.append_nil]; rfl⟩
  | cons label labels inductionHypothesis =>
    have readsBack := readBack label List.mem_cons_self
    have parts := wireLength_append (name.labels ++ [label]) labels
    have positive : 1 ≤ wireLength labels := by
      cases labels with
      | nil => exact Nat.le_refl 1
      | cons other others => exact Nat.le_trans (Nat.le_add_left 1 _) (Nat.le_add_right _ _)
    rw [List.append_assoc, List.singleton_append] at parts
    obtain ⟨longer, added, same⟩ := addLabel_chars name readsBack (by omega)
    have sameAll : (longer.labels ++ labels).map Label.lowered =
        (name.labels ++ label :: labels).map Label.lowered := by
      rw [List.map_append, same, ← List.map_append, List.append_assoc, List.singleton_append]
    obtain ⟨again, read, absolute, sameAgain⟩ := inductionHypothesis
      (fun other later => readBack other (List.mem_cons_of_mem _ later)) longer
      (Nat.le_trans (Nat.le_of_eq (wireLength_eq_of_lowered sameAll)) fits)
    refine ⟨again, ?_, absolute, sameAgain.trans sameAll⟩
    have text : closedLabels (label :: labels) =
        octetsText label.octets ++ '.' :: closedLabels labels := by
      rw [← text_of_not_isInternational readsBack.plain]
      simp [closedLabels]
    rw [text, readFrom_octetsText, readFrom, if_pos rfl, added]
    exact read

/-- An absolute name is written as its labels with full stops behind them, or one for the root. -/
theorem chars_of_absolute {name : Name} (absolute : name.absolute = true) :
    name.chars = if name.labels = [] then ['.'] else closedLabels name.labels := by
  have joined (label : Label) (labels : List Label) :
      Idna.joinLabels ((label :: labels).map Label.text) ++ ['.'] =
        closedLabels (label :: labels) := by
    induction labels generalizing label with
    | nil => rw [closedLabels, List.flatMap_cons, List.flatMap_nil, List.append_nil]; rfl
    | cons next labels inductionHypothesis =>
      have step : closedLabels (label :: next :: labels) =
          label.text ++ '.' :: closedLabels (next :: labels) := by
        simp [closedLabels]
      rw [step, ← inductionHypothesis]
      simp [Idna.joinLabels]
  unfold chars
  rw [absolute, if_pos rfl]
  cases name.labels with
  | nil => rfl
  | cons label labels => rw [if_neg (List.cons_ne_nil _ _), joined]

/-- Labels with full stops behind them are not the text of the root, nor empty. -/
theorem length_closedLabels {label : Label} (readsBack : ReadsBack label) (labels : List Label) :
    2 ≤ (closedLabels (label :: labels)).length := by
  have filled : octetsText label.octets ≠ [] := by
    cases octets : label.octets with
    | nil => exact absurd octets label.nonempty
    | cons octet octets =>
      rw [octetsText]
      unfold octetText
      split
      · exact List.cons_ne_nil _ _
      · split <;> exact List.cons_ne_nil _ _
  have positive := List.length_pos_iff.mpr filled
  rw [← text_of_not_isInternational readsBack.plain] at positive
  simp only [closedLabels, List.flatMap_cons, List.length_append, List.length_singleton]
  omega

/-- An absolute name is read from its text, but for its case, if its labels are read back. -/
theorem parse_text {name : Name} (absolute : name.absolute = true)
    (readBack : ∀ label ∈ name.labels, ReadsBack label) :
    ∃ again, parse name.text = .ok again ∧ again ≈ name := by
  obtain ⟨again, read, againAbsolute, same⟩ : ∃ again, read name.chars = .ok again ∧
      again.absolute = true ∧
      again.labels.map Label.lowered = name.labels.map Label.lowered := by
    rw [chars_of_absolute absolute]
    cases labels : name.labels with
    | nil => exact ⟨root, rfl, rfl, rfl⟩
    | cons label others =>
      have long := length_closedLabels (readBack label (labels ▸ List.mem_cons_self)) others
      obtain ⟨again, read, againAbsolute, same⟩ :=
        readFrom_closedLabels readBack empty name.fits
      rw [labels] at read same
      refine ⟨again, ?_, againAbsolute, same⟩
      unfold Name.read
      rw [if_neg (List.cons_ne_nil _ _), if_neg, if_neg, read]
      · intro isEmpty
        rw [isEmpty] at long
        exact absurd long (by decide)
      · intro isRoot
        rw [isRoot] at long
        exact absurd long (by decide)
  refine ⟨again, ?_, (equiv_iff_labels againAbsolute absolute).mpr same⟩
  unfold parse text
  rw [String.toList_ofList, read]

/-! ### Names that were read -/

/-- A label that was read is a text that may be looked up. -/
theorem isLabelText_of_labelOfText {text : List Char} {label : Label}
    (read : labelOfText text = .ok label) : isLabelText label.chars = true := by
  have ofAscii {text : List Char} (read : asciiLabel text = .ok label) :
      isLabelText label.chars = true := by
    unfold asciiLabel at read
    split at read
    · rename_i legal
      have chars : text.map (fun char => octetChar char.toNat.toUInt8) = text := by
        refine (List.map_congr_left fun char member => ?_).trans (List.map_id text)
        have small := isAscii_of_isLabelText legal char member
        have same : char.toNat.toUInt8.toNat = char.toNat := Nat.mod_eq_of_lt (by omega)
        rw [octetChar, same, Char.ofNat_toNat, id]
      split at read
      · rename_i made
        cases read
        unfold Label.ofOctets? at made
        split at made
        · cases made
          rw [Label.chars, List.map_map]
          exact chars.symm ▸ legal
        · cases made
      · cases read
    · cases read
  unfold labelOfText at read
  dsimp only at read
  split at read
  · cases read
    decide
  · split at read
    · cases read
    · split at read
      · exact ofAscii read
      · split at read
        · exact ofAscii read
        · cases read

theorem addLabel_eq_ok {name longer : Name} {text : List Char}
    (added : addLabel name text = .ok longer) :
    ∃ label, labelOfText text = .ok label ∧ longer.labels = name.labels ++ [label] := by
  obtain ⟨label, read, added⟩ := exists_of_bind_eq_ok added
  refine ⟨label, read, ?_⟩
  dsimp only at added
  split at added
  · rename_i made
    cases added
    exact ((ofLabels?_eq_some_iff _ _ _).mp made).1
  · cases added

/-- All labels of a name may be looked up. -/
def IsLegal (name : Name) : Prop := ∀ label ∈ name.labels, isLabelText label.chars = true

theorem IsLegal.addLabel {name longer : Name} {text : List Char} (legal : name.IsLegal)
    (added : addLabel name text = .ok longer) : longer.IsLegal := by
  obtain ⟨last, read, labels⟩ := addLabel_eq_ok added
  intro label member
  rw [labels] at member
  rcases List.mem_append.mp member with before | isLast
  · exact legal label before
  · rw [List.mem_singleton.mp isLast]
    exact isLabelText_of_labelOfText read

/-- Reading on adds labels that may be looked up to those that were read. -/
theorem IsLegal.readFrom {name result : Name} {label : List Char} {spot : Spot} {text : List Char}
    (legal : name.IsLegal) (read : readFrom name label spot text = .ok result) :
    result.IsLegal := by
  induction text generalizing name label spot with
  | nil =>
    rw [Name.readFrom] at read
    split at read
    · cases read
      exact legal
    · exact legal.addLabel read
  | cons char rest inductionHypothesis =>
    cases spot with
    | inLabel =>
      rw [Name.readFrom] at read
      split at read
      · obtain ⟨longer, added, read⟩ := exists_of_bind_eq_ok read
        exact inductionHypothesis (legal.addLabel added) read
      · split at read
        · exact inductionHypothesis legal read
        · split at read
          · cases read
          · exact inductionHypothesis legal read
    | afterBackslash =>
      rw [Name.readFrom] at read
      split at read
      · obtain ⟨digit, _, read⟩ := exists_of_bind_eq_ok read
        exact inductionHypothesis legal read
      · exact inductionHypothesis legal read
    | inEscape digits =>
      rw [Name.readFrom] at read
      split at read
      · obtain ⟨digit, _, read⟩ := exists_of_bind_eq_ok read
        split at read
        · exact inductionHypothesis legal read
        · exact inductionHypothesis legal read
      · cases read

/-- All labels of a name that was read may be looked up. -/
theorem isLegal_of_parse {text : String} {name : Name} (parsed : parse text = .ok name) :
    name.IsLegal := by
  have noLabel (name : Name) (none : name.labels = []) : name.IsLegal := by
    intro label member
    rw [none] at member
    cases member
  unfold parse at parsed
  cases found : read text.toList with
  | error fault =>
    rw [found] at parsed
    cases parsed
  | ok result =>
    rw [found] at parsed
    cases parsed
    unfold read at found
    split at found
    · cases found
      exact noLabel _ rfl
    · split at found
      · cases found
        exact noLabel _ rfl
      · exact (noLabel empty rfl).readFrom found

end Name

end StubResolver
