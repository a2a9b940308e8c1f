/-
This file proves that addresses are read from the texts that are written for them: those of hosts of
either kind, and those of servers with their ports and zones. What an IPv6 address leaves out when
it is written is found again because the groups on both sides tell how many zeros are missing.

A reader takes an address from the front of a text, so the lemmas about readers have a rest of the
text in them, and say how it must not go on for the address to end where it does.
-/

import StubResolver.Address.Reader
import StubResolver.Proofs.Text.Digits
import Mathlib.Data.List.TakeWhile

namespace StubResolver

/-! ### Where numbers end -/

/-- The rest of a text goes on with no decimal digit. -/
def EndsDecimal (rest : List Char) : Prop := ∀ char ∈ rest.head?, char.isDigit = false

/-- The rest of a text goes on neither with a hexadecimal digit nor with a full stop, which would
make the digits before it those of an IPv4 address. -/
def EndsGroup (rest : List Char) : Prop :=
  ∀ char ∈ rest.head?, isHexDigit char = false ∧ char ≠ '.'

theorem isHexDigit_of_isDigit {char : Char} (isDigit : char.isDigit = true) :
    isHexDigit char = true := by
  unfold isHexDigit
  rw [hexDigit?_of_isDigit isDigit]
  rfl

theorem EndsGroup.endsDecimal {rest : List Char} (ends : EndsGroup rest) : EndsDecimal rest := by
  intro char first
  rw [← Bool.not_eq_true]
  intro isDigit
  exact Bool.false_ne_true ((ends char first).1.symm.trans (isHexDigit_of_isDigit isDigit))

theorem endsDecimal_cons {char : Char} {rest : List Char} (noDigit : char.isDigit = false) :
    EndsDecimal (char :: rest) := by
  rintro _ ⟨⟩
  exact noDigit

theorem endsGroup_cons {char : Char} {rest : List Char} (noDigit : isHexDigit char = false)
    (noStop : char ≠ '.') : EndsGroup (char :: rest) := by
  rintro _ ⟨⟩
  exact ⟨noDigit, noStop⟩

/-! ### Parts -/

/-- A decimal number is read from its digits. -/
theorem readDecimal_digitsOf {greatest value : Nat} (bound : value ≤ greatest) {rest : List Char}
    (ends : EndsDecimal rest) :
    readDecimal greatest (digitsOf value ++ rest) = some (value, rest) := by
  obtain ⟨taken, dropped⟩ := takeWhile_append_of_ends isDigit_of_mem_digitsOf ends
  unfold readDecimal
  rw [taken, dropped, readDigits?_digitsOf bound]

/-- An octet is read from its digits, which are not too many and have no needless zero. -/
theorem readOctet_digitsOf (octet : UInt8) {rest : List Char} (ends : EndsDecimal rest) :
    readOctet (digitsOf octet.toNat ++ rest) = some (octet, rest) := by
  have bound : octet.toNat ≤ 255 := Nat.le_of_lt_succ octet.toNat_lt
  have short : (digitsOf octet.toNat).length ≤ 3 :=
    (Nat.length_toDigits_le_iff (by decide) (by decide)).mpr (by omega)
  have noNeedlessZero : (digitsOf octet.toNat).head? = some '0' →
      (digitsOf octet.toNat).length ≤ 1 := by
    intro startsWithZero
    by_cases isZero : octet.toNat = 0
    · rw [isZero]
      decide
    · exact absurd startsWithZero (head?_toDigits isZero)
  obtain ⟨taken, dropped⟩ := takeWhile_append_of_ends isDigit_of_mem_digitsOf ends
  unfold readOctet
  dsimp only
  rw [taken, dropped, if_neg, readDigits?_digitsOf bound]
  · simp
  · rintro (long | ⟨startsWithZero, longer⟩)
    · omega
    · have := noNeedlessZero startsWithZero
      omega

/-- There is no octet where there is no digit. -/
theorem readOctet_of_endsDecimal {text : List Char} (noDigit : EndsDecimal text) :
    readOctet text = none := by
  unfold readOctet
  dsimp only
  rw [(takeWhile_of_ends noDigit).1]
  rfl

theorem IPv6.isHexDigit_of_mem_groupChars (group : UInt16) :
    ∀ char ∈ groupChars group, isHexDigit char = true :=
  hexDigit?_isSome_of_mem_toDigits group.toNat

/-- A group is read from its digits. -/
theorem readGroup_groupChars (group : UInt16) {rest : List Char} (ends : EndsGroup rest) :
    readGroup (IPv6.groupChars group ++ rest) = some (group, rest) := by
  have short : (IPv6.groupChars group).length ≤ 4 :=
    (Nat.length_toDigits_le_iff (by decide) (by decide)).mpr group.toNat_lt
  have filled : (IPv6.groupChars group).isEmpty = false :=
    List.isEmpty_eq_false_iff.mpr Nat.toDigits_ne_nil
  have value : (hexValue (IPv6.groupChars group)).toUInt16 = group := by
    unfold IPv6.groupChars
    rw [hexValue_toDigits]
    exact UInt16.ofNat_toNat
  obtain ⟨taken, dropped⟩ := takeWhile_append_of_ends (IPv6.isHexDigit_of_mem_groupChars group)
    fun char first => (ends char first).1
  unfold readGroup
  dsimp only
  rw [taken, dropped, if_neg, value]
  rw [filled]
  rintro (isEmpty | long)
  · exact Bool.false_ne_true isEmpty
  · omega

/-- There is no group where there is no hexadecimal digit. -/
theorem readGroup_of_endsGroup {text : List Char} (noDigit : EndsGroup text) :
    readGroup text = none := by
  unfold readGroup
  dsimp only
  rw [(takeWhile_of_ends fun char first => (noDigit char first).1).1]
  rfl

theorem readChar_self (char : Char) (rest : List Char) :
    readChar char (char :: rest) = some ((), rest) := if_pos rfl

theorem readChar_of_ne {expected : Char} {text : List Char} (differs : text.head? ≠ some expected) :
    readChar expected text = none := by
  cases text with
  | nil => rfl
  | cons char rest => exact if_neg fun same => differs (congrArg some same)

/-! ### IPv4 addresses -/

/-- An IPv4 address is read from its text. -/
theorem IPv4.read_chars (address : IPv4) {rest : List Char} (ends : EndsDecimal rest) :
    IPv4.read (address.chars ++ rest) = some (address, rest) := by
  have dot (octet : UInt8) (others : List Char) :
      readOctet (digitsOf octet.toNat ++ '.' :: others) = some (octet, '.' :: others) :=
    readOctet_digitsOf octet (endsDecimal_cons rfl)
  unfold IPv4.read IPv4.chars
  simp only [List.append_assoc, List.cons_append, dot, readChar_self, readOctet_digitsOf _ ends,
    Option.bind_eq_bind, Option.bind_some]

/-- There is no IPv4 address where there is no digit. -/
theorem IPv4.read_of_endsDecimal {text : List Char} (noDigit : EndsDecimal text) :
    IPv4.read text = none := by
  unfold IPv4.read
  rw [readOctet_of_endsDecimal noDigit]
  rfl

theorem readOctet_rest {text rest : List Char} {octet : UInt8}
    (read : readOctet text = some (octet, rest)) : rest = text.dropWhile Char.isDigit := by
  unfold readOctet at read
  dsimp only at read
  split at read
  · cases read
  · split at read
    · cases read
      rfl
    · cases read

/-- There is no IPv4 address where there is a group, because no full stop follows its digits. -/
theorem IPv4.read_groupChars (group : UInt16) {rest : List Char} (ends : EndsGroup rest) :
    IPv4.read (IPv6.groupChars group ++ rest) = none := by
  -- What comes after some digits is in the group or after it.
  have afterDigits : ∀ word : List Char, (∀ char ∈ word, isHexDigit char = true) →
      ((word ++ rest).dropWhile Char.isDigit).head? ≠ some '.' := by
    intro word digits
    induction word with
    | nil =>
      rw [List.nil_append, (takeWhile_of_ends ends.endsDecimal).2]
      exact fun first => (ends '.' first).2 rfl
    | cons char others inductionHypothesis =>
      rw [List.cons_append, List.dropWhile_cons]
      split
      · exact inductionHypothesis fun other later => digits other (List.mem_cons_of_mem _ later)
      · rintro ⟨⟩
        exact Bool.false_ne_true (digits '.' List.mem_cons_self)
  unfold IPv4.read
  cases found : readOctet (IPv6.groupChars group ++ rest) with
  | none => rfl
  | some read =>
    have stops : readChar '.' read.2 = none := by
      rw [readOctet_rest found]
      exact readChar_of_ne (afterDigits _ (IPv6.isHexDigit_of_mem_groupChars group))
    simp only [Option.bind_eq_bind, Option.bind_some, stops, Option.bind_none]

namespace IPv6

/-! ### Groups of IPv6 addresses -/

/-- The rest of a text goes on with no group, not even after a colon. -/
structure EndsGroups (rest : List Char) : Prop where
  here : EndsGroup rest
  afterColon : ∀ others, rest = ':' :: others → EndsGroup others

/-- The rest of a text goes on with nothing that could belong to an IPv6 address. -/
def EndsAddress (rest : List Char) : Prop :=
  ∀ char ∈ rest.head?, isHexDigit char = false ∧ char ≠ '.' ∧ char ≠ ':'

theorem EndsAddress.endsGroups {rest : List Char} (ends : EndsAddress rest) : EndsGroups rest where
  here char first := ⟨(ends char first).1, (ends char first).2.1⟩
  afterColon _ same := absurd rfl (ends ':' (same ▸ rfl)).2.2

/-- Two colons end groups. -/
theorem endsGroups_colons (rest : List Char) : EndsGroups (':' :: ':' :: rest) where
  here := endsGroup_cons rfl (by decide)
  afterColon := by
    rintro _ ⟨⟩
    exact endsGroup_cons rfl (by decide)

/-- Groups that are not the first ones, each after a colon. -/
def laterChars (groups : List UInt16) : List Char :=
  groups.flatMap fun group => ':' :: groupChars group

theorem groupsChars_cons (group : UInt16) (groups : List UInt16) :
    groupsChars (group :: groups) = groupChars group ++ laterChars groups := by
  induction groups generalizing group with
  | nil => exact (List.append_nil _).symm
  | cons next groups inductionHypothesis =>
    rw [groupsChars, inductionHypothesis]
    · rfl
    · exact List.cons_ne_nil _ _

/-- A group ends where the next one begins. -/
theorem endsGroup_laterChars (groups : List UInt16) {rest : List Char} (ends : EndsGroup rest) :
    EndsGroup (laterChars groups ++ rest) := by
  cases groups with
  | nil => exact ends
  | cons group groups => exact endsGroup_cons rfl (by decide)

theorem readPart_of_endsGroups (first : Bool) {rest : List Char} (ends : EndsGroups rest) :
    readPart first IPv4.read rest = none ∧ readPart first readGroup rest = none := by
  unfold readPart
  cases first with
  | true =>
    exact ⟨IPv4.read_of_endsDecimal ends.here.endsDecimal, readGroup_of_endsGroup ends.here⟩
  | false =>
    simp only [Bool.false_eq_true, if_false]
    by_cases colon : rest.head? = some ':'
    · obtain ⟨others, rfl⟩ : ∃ others, rest = ':' :: others := List.head?_eq_some_iff.mp colon
      have noGroup := ends.afterColon others rfl
      rw [readChar_self]
      exact ⟨IPv4.read_of_endsDecimal noGroup.endsDecimal, readGroup_of_endsGroup noGroup⟩
    · rw [readChar_of_ne colon]
      exact ⟨rfl, rfl⟩

/-- No groups are read where there is none. -/
theorem readGroups_of_endsGroups (room : Nat) (first : Bool) {rest : List Char}
    (ends : EndsGroups rest) : readGroups room first rest = ([], false, rest) := by
  cases room with
  | zero => rfl
  | succ room =>
    obtain ⟨noInner, noGroup⟩ := readPart_of_endsGroups first ends
    rw [readGroups, noInner, noGroup, ite_self]

/-- What is read of a text that starts with a group. -/
theorem readGroups_cons (room : Nat) (first : Bool) (group : UInt16) {rest : List Char}
    (ends : EndsGroup rest) :
    readGroups (room + 1) first ((if first then [] else [':']) ++ groupChars group ++ rest) =
      ((group :: (readGroups room false rest).1, (readGroups room false rest).2)) := by
  have noInner : readPart first IPv4.read
      ((if first then [] else [':']) ++ groupChars group ++ rest) = none := by
    cases first with
    | true => exact IPv4.read_groupChars group ends
    | false => exact IPv4.read_groupChars group ends
  have found : readPart first readGroup
      ((if first then [] else [':']) ++ groupChars group ++ rest) = some (group, rest) := by
    cases first with
    | true => exact readGroup_groupChars group ends
    | false => exact readGroup_groupChars group ends
  rw [readGroups, noInner, found, ite_self]

/-- Later groups are read up to where they end, if there is room for them. -/
theorem readGroups_laterChars {groups : List UInt16} {room : Nat} (fits : groups.length ≤ room)
    {rest : List Char} (ends : EndsGroups rest) :
    readGroups room false (laterChars groups ++ rest) = (groups, false, rest) := by
  induction groups generalizing room with
  | nil => exact readGroups_of_endsGroups room false ends
  | cons group groups inductionHypothesis =>
    obtain ⟨room, rfl⟩ := Nat.exists_eq_add_of_lt (Nat.lt_of_lt_of_le (Nat.succ_pos _) fits)
    rw [Nat.zero_add] at fits ⊢
    have text : laterChars (group :: groups) ++ rest =
        [':'] ++ groupChars group ++ (laterChars groups ++ rest) := by
      simp [laterChars]
    have step := readGroups_cons room false group (endsGroup_laterChars groups ends.here)
    rw [text]
    refine step.trans ?_
    rw [inductionHypothesis (Nat.le_of_succ_le_succ fits)]

/-- Groups are read up to where they end, if there is room for them. -/
theorem readGroups_groupsChars (groups : List UInt16) {room : Nat} (fits : groups.length ≤ room)
    {rest : List Char} (ends : EndsGroups rest) :
    readGroups room true (groupsChars groups ++ rest) = (groups, false, rest) := by
  cases groups with
  | nil => exact readGroups_of_endsGroups room true ends
  | cons group groups =>
    obtain ⟨room, rfl⟩ := Nat.exists_eq_add_of_lt (Nat.lt_of_lt_of_le (Nat.succ_pos _) fits)
    rw [Nat.zero_add] at fits ⊢
    have step := readGroups_cons room true group (endsGroup_laterChars groups ends.here)
    rw [groupsChars_cons, List.append_assoc]
    refine step.trans ?_
    rw [readGroups_laterChars (Nat.le_of_succ_le_succ fits) ends]

/-! ### What is left out -/

/-- The longest run of zeros is a run of zeros, between the groups before it and those after. -/
theorem longestZeros_eq (place : Nat) (groups : List UInt16) :
    ∃ before after, groups = before ++ List.replicate (longestZeros place groups).2 0 ++ after ∧
      (longestZeros place groups).1 = place + before.length := by
  induction groups generalizing place with
  | nil => exact ⟨[], [], rfl, rfl⟩
  | cons group rest inductionHypothesis =>
    obtain ⟨before, after, split, found⟩ := inductionHypothesis (place + 1)
    unfold longestZeros
    dsimp only
    split
    · refine ⟨[], (group :: rest).dropWhile (fun group => decide (group = 0)), ?_, rfl⟩
      have zeros : (group :: rest).takeWhile (fun group => decide (group = 0)) =
          List.replicate (leadingZeros (group :: rest)) 0 := by
        refine List.eq_replicate_iff.mpr ⟨rfl, fun zero member => ?_⟩
        simpa using List.mem_takeWhile_imp member
      rw [← zeros, List.nil_append]
      exact List.takeWhile_append_dropWhile.symm
    · refine ⟨group :: before, after, ?_, ?_⟩
      · rw [List.cons_append, List.cons_append, ← split]
      · rw [found, List.length_cons]
        omega

/-- Groups are those before the longest run of zeros, the zeros, and those after them. -/
theorem take_longestZeros_drop (groups : List UInt16) {place length : Nat}
    (run : longestZeros 0 groups = (place, length)) :
    place + length ≤ groups.length ∧
      groups.take place ++ List.replicate length 0 ++ groups.drop (place + length) = groups := by
  obtain ⟨before, after, split, found⟩ := longestZeros_eq 0 groups
  rw [run] at split found
  dsimp only at split found
  rw [found, Nat.zero_add, split]
  have front : (before ++ List.replicate length 0 ++ after).take before.length = before := by
    rw [List.append_assoc, List.take_left]
  have back : (before ++ List.replicate length 0 ++ after).drop (before.length + length) = after :=
    List.drop_left' (by simp)
  rw [front, back]
  exact ⟨by simp, rfl⟩

theorem ofGroups?_groups (address : IPv6) : ofGroups? address.groups = some address :=
  dif_pos address.size

/-- Two colons stand for as many zeros as are missing beside the groups before and after them. -/
theorem read_colons (before : List UInt16) {after : List UInt16} (short : before.length < 8)
    {text rest : List Char} {inner : Bool} (read : readGroups (7 - before.length) true text = (after, inner, rest))
    {address : IPv6}
    (same : before ++ List.replicate (8 - before.length - after.length) 0 ++ after =
      address.groups) :
    IPv6.read (groupsChars before ++ ':' :: ':' :: text) = some (address, rest) := by
  unfold IPv6.read
  rw [readGroups_groupsChars before (Nat.le_of_lt short) (endsGroups_colons text)]
  dsimp only
  rw [if_neg (Nat.ne_of_lt short), if_neg Bool.false_ne_true]
  simp only [readChar_self, Option.bind_eq_bind, Option.bind_some, read, same, ofGroups?_groups,
    Option.map_some]

/-! ### IPv4 addresses inside -/

/-- The groups of an address that stands for an IPv4 address. -/
def mappedGroups (inner : IPv4) : List UInt16 :=
  [0, 0, 0, 0, 0, 0xffff, inner.first.toUInt16 * 256 + inner.second.toUInt16,
    inner.third.toUInt16 * 256 + inner.fourth.toUInt16]

/-- A group is its two octets. -/
theorem octets_group (group : UInt16) :
    (group / 256).toUInt8.toUInt16 * 256 + group.toUInt8.toUInt16 = group := by
  have small := group.toNat_lt
  refine UInt16.toNat_inj.mp ?_
  simp only [UInt16.toNat_add, UInt16.toNat_mul, UInt8.toNat_toUInt16, UInt16.toNat_toUInt8,
    UInt16.toNat_div, UInt16.reduceToNat]
  omega

theorem mapped?_eq_some {address : IPv6} {inner : IPv4} (mapped : address.mapped? = some inner) :
    address.groups = mappedGroups inner := by
  unfold mapped? at mapped
  split at mapped
  · rename_i groups
    cases mapped
    rw [groups, mappedGroups, octets_group, octets_group]
  · cases mapped

/-- The IPv4 address at the end is read as the last two groups. -/
theorem readGroups_mapped (inner : IPv4) {rest : List Char} (ends : EndsDecimal rest) :
    readGroups 7 true ('f' :: 'f' :: 'f' :: 'f' :: ':' :: (inner.chars ++ rest)) =
      ((mappedGroups inner).drop 5, true, rest) := by
  have here : EndsGroup (':' :: (inner.chars ++ rest)) := endsGroup_cons rfl (by decide)
  have written : groupChars 0xffff = ['f', 'f', 'f', 'f'] := by decide
  have step := readGroups_cons 6 true 0xffff here
  have last : readGroups 6 false (':' :: (inner.chars ++ rest)) =
      ((mappedGroups inner).drop 6, true, rest) := by
    have found : readPart false IPv4.read (':' :: (inner.chars ++ rest)) = some (inner, rest) :=
      inner.read_chars ends
    rw [readGroups, if_neg (by decide), found]
    rfl
  rw [written, last] at step
  exact step

/-! ### IPv6 addresses -/

/-- An IPv6 address is read from its text. -/
theorem read_chars (address : IPv6) {rest : List Char} (ends : EndsAddress rest) :
    IPv6.read (address.chars ++ rest) = some (address, rest) := by
  unfold chars
  split
  case h_1 inner mapped =>
    have groups := mapped?_eq_some mapped
    exact read_colons [] (by decide)
      (readGroups_mapped inner ends.endsGroups.here.endsDecimal) groups.symm
  case h_2 =>
    have size := address.size
    cases run : longestZeros 0 address.groups with | mk place length =>
    obtain ⟨within, parts⟩ := take_longestZeros_drop address.groups run
    dsimp only
    split
    · rename_i long
      have before : (address.groups.take place).length = place := by
        rw [List.length_take]
        omega
      have after : (address.groups.drop (place + length)).length = 8 - (place + length) := by
        rw [List.length_drop, size]
      have fits : (address.groups.drop (place + length)).length ≤
          7 - (address.groups.take place).length := by omega
      have tail := readGroups_groupsChars (address.groups.drop (place + length)) fits
        ends.endsGroups
      have zeros : 8 - (address.groups.take place).length -
          (address.groups.drop (place + length)).length = length := by omega
      rw [List.append_assoc]
      exact read_colons _ (by omega) tail (by rw [zeros, parts])
    · have whole := readGroups_groupsChars address.groups (Nat.le_of_eq size) ends.endsGroups
      unfold IPv6.read
      rw [whole]
      dsimp only
      rw [if_pos size, ofGroups?_groups]
      rfl

/-- No IPv4 address is read where an IPv6 address is written. -/
theorem read_chars_none (address : IPv6) {rest : List Char} (ends : EndsAddress rest) :
    IPv4.read (address.chars ++ rest) = none := by
  have noneOfGroups (groups : List UInt16) {text : List Char} (ends : EndsGroup text) :
      IPv4.read (groupsChars groups ++ text) = none := by
    cases groups with
    | nil => exact IPv4.read_of_endsDecimal ends.endsDecimal
    | cons group groups =>
      rw [groupsChars_cons, List.append_assoc]
      exact IPv4.read_groupChars group (endsGroup_laterChars groups ends)
  unfold chars
  split
  · rfl
  · dsimp only
    split
    · rw [List.append_assoc]
      exact noneOfGroups _ (endsGroups_colons _).here
    · exact noneOfGroups _ ends.endsGroups.here

end IPv6

/-! ### Whole texts -/

/-- The address of a host is read from its text. -/
theorem Address.parse?_chars (address : Address) : parse? address.chars = some address := by
  have read : Address.read (address.chars ++ []) = some (address, []) := by
    unfold Address.read
    cases address with
    | v4 address =>
      rw [chars, address.read_chars (by rintro _ ⟨⟩)]
    | v6 address =>
      have ends : IPv6.EndsAddress [] := by rintro _ ⟨⟩
      rw [chars, address.read_chars_none ends, address.read_chars ends]
      rfl
  rw [List.append_nil] at read
  unfold parse? wholly
  rw [read]

/-- The zone of an address is read from what is written for it, which is nothing for zero. -/
theorem readZone_chars (zone : UInt32) (rest : List Char) :
    readZone ((if zone = 0 then [] else '%' :: digitsOf zone.toNat) ++ ']' :: rest) =
      some (zone, ']' :: rest) := by
  unfold readZone
  by_cases isZero : zone = 0
  · rw [if_pos isZero, List.nil_append, readChar_of_ne (by simp), isZero]
  · have bound : zone.toNat ≤ 0xffffffff := Nat.le_of_lt_succ zone.toNat_lt
    rw [if_neg isZero, List.cons_append, readChar_self]
    dsimp only
    rw [readDecimal_digitsOf bound (endsDecimal_cons rfl), Option.map_some]
    simp

/-- An address ends where its zone begins, or else where the bracket is closed. -/
theorem endsAddress_zone (zone : UInt32) (rest : List Char) :
    IPv6.EndsAddress ((if zone = 0 then [] else '%' :: digitsOf zone.toNat) ++ ']' :: rest) := by
  split
  · rintro _ ⟨⟩
    decide
  · rintro _ ⟨⟩
    decide

/-- A server is read from its text. -/
theorem ServerAddress.parseWithPort?_chars (server : ServerAddress) :
    parseWithPort? server.chars = some server := by
  have port (port : UInt16) :
      readDecimal 0xffff (digitsOf port.toNat) = some (port.toNat, []) := by
    have bound : port.toNat ≤ 0xffff := Nat.le_of_lt_succ port.toNat_lt
    have ends : EndsDecimal [] := by rintro _ ⟨⟩
    rw [← readDecimal_digitsOf bound ends, List.append_nil]
  have read : (readV4 server.chars).or (readV6 server.chars) = some (server, []) := by
    cases server with
    | v4 address port' =>
      have first : IPv4.read (address.chars ++ ':' :: digitsOf port'.toNat) =
          some (address, ':' :: digitsOf port'.toNat) :=
        address.read_chars (endsDecimal_cons rfl)
      unfold readV4 chars
      simp only [first, readChar_self, port, Option.bind_eq_bind, Option.bind_some,
        UInt16.ofNat_toNat, Option.some_or]
    | v6 address port' zone =>
      have notV4 (text : List Char) : readV4 ('[' :: text) = none := by
        unfold readV4
        rw [IPv4.read_of_endsDecimal (endsDecimal_cons rfl)]
        rfl
      unfold chars
      dsimp only
      rw [List.cons_append, List.cons_append, List.append_assoc, notV4, Option.none_or]
      unfold readV6
      simp only [readChar_self, address.read_chars (endsAddress_zone zone _),
        readZone_chars, port, Option.bind_eq_bind, Option.bind_some, UInt16.ofNat_toNat]
  unfold parseWithPort? wholly
  dsimp only
  rw [read]

end StubResolver
