/-
This file proves that the servers of a system survive their way through text. They are read from the
lines of a text, become text again among the settings that they complete, and are read from there in
another way, which would also take servers with ports. What is sent to in the end are the addresses
that the text gives, in the order of its lines, and the other lines make no difference to them.

Every list of addresses takes this way: there is a text that gives these addresses and no others.
-/

import StubResolver.ResolvConf
import StubResolver.Proofs.Servers
import StubResolver.Proofs.Toml.Words

namespace StubResolver

namespace ResolvConf

/-! ### What lines give -/

/-- The word that a line of words gives as the address of a server. -/
def nameserver? : List (List Char) → Option (List Char)
  | keyword :: word :: _ => if keyword = "nameserver".toList then some word else none
  | _ => none

/-- The words that a text gives as addresses of servers, in the order of its lines. -/
def nameserverWords (text : String) : List (List Char) :=
  (lines text.toList).filterMap fun line => nameserver? (words line)

/-- Words are the texts of addresses. -/
abbrev AreAddresses : List (List Char) → List Address → Prop :=
  List.Forall₂ fun word address => Address.parse? word = some address

theorem readNameserver_eq_ok_iff {word : List Char} {address : Address} :
    readNameserver word = .ok address ↔ Address.parse? word = some address := by
  unfold readNameserver
  cases Address.parse? word <;> simp

section

variable {conf longer : ResolvConf}

theorem nameservers_addOption (word : List Char) :
    (conf.addOption word).nameservers = conf.nameservers := by
  unfold addOption
  split
  · split
    · rfl
    · split <;> rfl
  · rfl

theorem nameservers_addOptions (words : List (List Char)) :
    (words.foldl addOption conf).nameservers = conf.nameservers := by
  induction words generalizing conf with
  | nil => rfl
  | cons word words inductionHypothesis =>
    rw [List.foldl_cons, inductionHypothesis, nameservers_addOption]

/-- A line with another keyword leaves the servers as they are, whatever else it changes. -/
theorem nameservers_addLine_of_other {keyword : List Char} {words : List (List Char)}
    (other : keyword ≠ "nameserver".toList) (added : conf.addLine (keyword :: words) = .ok longer) :
    longer.nameservers = conf.nameservers := by
  dsimp only [addLine] at added
  rw [if_neg other] at added
  split at added
  · obtain ⟨word, _, added⟩ := exists_of_bind_eq_ok added
    obtain ⟨domain, _, added⟩ := exists_of_bind_eq_ok added
    cases added
    rfl
  · split at added
    · obtain ⟨search, _, added⟩ := exists_of_bind_eq_ok added
      cases added
      rfl
    · split at added
      · cases added
        exact nameservers_addOptions words
      · cases added
        rfl

/-- A line with the keyword adds the server that it gives, and it has to give one. -/
theorem nameservers_addLine_of_keyword {words : List (List Char)}
    (added : conf.addLine ("nameserver".toList :: words) = .ok longer) :
    ∃ word more address, words = word :: more ∧ Address.parse? word = some address ∧
      longer.nameservers = conf.nameservers ++ [address] := by
  dsimp only [addLine] at added
  rw [if_pos rfl] at added
  obtain ⟨word, isArgument, added⟩ := exists_of_bind_eq_ok added
  obtain ⟨address, read, added⟩ := exists_of_bind_eq_ok added
  cases added
  cases words with
  | nil => cases isArgument
  | cons first more =>
    cases isArgument
    exact ⟨word, more, address, rfl, readNameserver_eq_ok_iff.mp read, rfl⟩

/-- A line adds the server that it gives, if it gives one. -/
theorem nameservers_addLine {line : List (List Char)} (added : conf.addLine line = .ok longer) :
    ∃ addresses, AreAddresses (nameserver? line).toList addresses ∧
      longer.nameservers = conf.nameservers ++ addresses := by
  have unchanged (gives : nameserver? line = none)
      (same : longer.nameservers = conf.nameservers) :
      ∃ addresses, AreAddresses (nameserver? line).toList addresses ∧
        longer.nameservers = conf.nameservers ++ addresses := by
    rw [gives]
    exact ⟨[], .nil, same.trans (List.append_nil _).symm⟩
  cases line with
  | nil =>
    cases added
    exact unchanged rfl rfl
  | cons keyword words =>
    by_cases isKeyword : keyword = "nameserver".toList
    · subst isKeyword
      obtain ⟨word, more, address, rfl, parsed, extended⟩ := nameservers_addLine_of_keyword added
      exact ⟨[address], .cons parsed .nil, extended⟩
    · refine unchanged ?_ (nameservers_addLine_of_other isKeyword added)
      cases words with
      | nil => rfl
      | cons word words => exact if_neg isKeyword

end

/-- Lines add the servers that they give, in their order. -/
theorem nameservers_addLines {lines : List (List Char)} {before conf : ResolvConf}
    (read : lines.foldlM (fun conf line => conf.addLine (words line)) before = .ok conf) :
    ∃ addresses, AreAddresses (lines.filterMap fun line => nameserver? (words line)) addresses ∧
      conf.nameservers = before.nameservers ++ addresses := by
  induction lines generalizing before with
  | nil =>
    cases read
    exact ⟨[], .nil, (List.append_nil _).symm⟩
  | cons line lines inductionHypothesis =>
    rw [List.foldlM_cons] at read
    obtain ⟨longer, added, read⟩ := exists_of_bind_eq_ok read
    obtain ⟨first, areFirst, extended⟩ := nameservers_addLine added
    obtain ⟨others, areOthers, extendedAgain⟩ := inductionHypothesis read
    refine ⟨first ++ others, ?_, by rw [extendedAgain, extended, List.append_assoc]⟩
    have given : (line :: lines).filterMap (fun line => nameserver? (words line)) =
        (nameserver? (words line)).toList ++
          lines.filterMap fun line => nameserver? (words line) := by
      rw [List.filterMap_cons]
      cases nameserver? (words line) <;> rfl
    rw [given]
    exact List.rel_append areFirst areOthers

/-- What was read has the servers that the text gives. -/
theorem areAddresses_of_parse {text : String} {conf : ResolvConf} (parsed : parse text = .ok conf) :
    AreAddresses (nameserverWords text) conf.nameservers := by
  obtain ⟨addresses, areAddresses, same⟩ := nameservers_addLines parsed
  rw [same]
  exact areAddresses

/-! ### Through the text of settings -/

/-- Settings without servers take over those of the system, each with the usual port. -/
theorem servers_of_applyTo {conf : ResolvConf} {config : ResolverConfig}
    (serverless : config.servers = []) :
    List.Forall₂ Denotes (conf.applyTo config).servers conf.servers := by
  have taken : (conf.applyTo config).servers = conf.servers.map ServerAddress.text := by
    rw [applyTo, serverless]
    rfl
  rw [taken, List.forall₂_map_left_iff, List.forall₂_same]
  exact fun server _ => server.denotes_text

/-- Whichever way queries are sent, they are sent to the addresses that the text gives. -/
theorem nameservers_survive {text : String} {conf : ResolvConf} {config : ResolverConfig}
    (parsed : parse text = .ok conf) (serverless : config.servers = []) :
    ∃ addresses, AreAddresses (nameserverWords text) addresses ∧
      ∀ way, Forwarder.ofConfig way (conf.applyTo config) =
        .ok ⟨way, addresses.map (Address.atPort dnsPort),
          (conf.timeout.map milliseconds).getD config.queryTimeoutMs⟩ :=
  ⟨conf.nameservers, areAddresses_of_parse parsed, fun _ =>
    Forwarder.ofConfig_eq_ok_iff.mpr ⟨conf.servers, servers_of_applyTo serverless, rfl⟩⟩

/-- A text in which servers of both kinds stand among other lines. -/
def mixedText : String :=
  "; nameserver ::\n nameserver 192.0.2.1 x\noptions timeout:3\nnameserver\t2001:DB8:0:0::1\n"

theorem nameservers_survive_mixed :
    ∃ conf, parse mixedText = .ok conf ∧ ResolverConfig.default.servers = [] ∧
      (∃ addresses, AreAddresses (nameserverWords mixedText) addresses ∧
        ∀ way, Forwarder.ofConfig way (conf.applyTo .default) =
          .ok ⟨way, addresses.map (Address.atPort dnsPort), 3000⟩) ∧
      (conf.applyTo .default).servers = ["192.0.2.1:53", "[2001:db8::1]:53"] := by
  have parsed : parse mixedText = .ok
      ⟨[.v4 ⟨192, 0, 2, 1⟩, .v6 ⟨[0x2001, 0xdb8, 0, 0, 0, 0, 0, 1], rfl⟩], [], none, some 3⟩ := by
    rfl
  exact ⟨_, parsed, rfl, nameservers_survive parsed rfl, by rfl⟩

/-! ### Texts that give servers -/

/-- A line that gives a server. -/
def nameserverLine (address : Address) : List Char :=
  "nameserver".toList ++ ' ' :: address.chars

/-- A text that gives servers, each on a line of its own. -/
def nameserversText (addresses : List Address) : List Char :=
  addresses.flatMap fun address => nameserverLine address ++ ['\n']

/-- Every character of a text is seen. -/
def Visible (text : List Char) : Prop := ∀ char ∈ text, 0x20 < char.toNat ∧ char.toNat < 0x7f

theorem Visible.append {text rest : List Char} (visible : Visible text)
    (visibleRest : Visible rest) : Visible (text ++ rest) :=
  List.forall_mem_append.mpr ⟨visible, visibleRest⟩

theorem Visible.cons {char : Char} {rest : List Char}
    (visible : 0x20 < char.toNat ∧ char.toNat < 0x7f) (visibleRest : Visible rest) :
    Visible (char :: rest) :=
  List.forall_mem_cons.mpr ⟨visible, visibleRest⟩

theorem Visible.isBlank_eq_false {text : List Char} (visible : Visible text) :
    ∀ char ∈ text, isBlank char = false := by
  intro char member
  have apart : ∀ range ∈ blankRanges, range.2 ≤ 0x20 ∨ 0x7f ≤ range.1 := by decide
  rw [← Bool.not_eq_true, isBlank, inRanges_iff]
  rintro ⟨range, isBlankRange, least, greatest⟩
  have := visible char member
  have := apart range isBlankRange
  omega

theorem visible_of_isHexDigit {text : List Char} (all : ∀ char ∈ text, isHexDigit char = true) :
    Visible text := by
  intro char member
  have isDigit := all char member
  unfold isHexDigit hexDigit? at isDigit
  simp only [Char.le_def, UInt32.le_iff_toNat_le, Char.reduceVal, UInt32.reduceToNat] at isDigit
  show 0x20 < char.val.toNat ∧ char.val.toNat < 0x7f
  split at isDigit
  · omega
  · split at isDigit
    · omega
    · split at isDigit
      · omega
      · cases isDigit

theorem visible_digitsOf (value : Nat) : Visible (digitsOf value) :=
  visible_of_isHexDigit fun char member =>
    isHexDigit_of_isDigit (isDigit_of_mem_digitsOf char member)

theorem visible_v4 (address : IPv4) : Visible address.chars := by
  have digits := visible_digitsOf
  exact (((digits _).append (.cons (by decide) (digits _))).append
    (.cons (by decide) (digits _))).append (.cons (by decide) (digits _))

theorem visible_groupsChars (groups : List UInt16) : Visible (IPv6.groupsChars groups) := by
  have group (group : UInt16) : Visible (IPv6.groupChars group) :=
    visible_of_isHexDigit (IPv6.isHexDigit_of_mem_groupChars group)
  fun_induction IPv6.groupsChars groups with
  | case1 => exact fun _ nothing => absurd nothing List.not_mem_nil
  | case2 only => exact group only
  | case3 first rest _ inductionHypothesis =>
    exact (group first).append (.cons (by decide) inductionHypothesis)

theorem visible_v6 (address : IPv6) : Visible address.chars := by
  unfold IPv6.chars
  split
  · rename_i inner _
    have before : Visible [':', ':', 'f', 'f', 'f', 'f', ':'] := by simp [Visible]
    exact before.append (visible_v4 inner)
  · dsimp only
    split
    · exact (visible_groupsChars _).append
        (.cons (by decide) (.cons (by decide) (visible_groupsChars _)))
    · exact visible_groupsChars _

theorem visible_chars (address : Address) : Visible address.chars := by
  cases address with
  | v4 address => exact visible_v4 address
  | v6 address => exact visible_v6 address

theorem visible_keyword : Visible "nameserver".toList := by simp [Visible]

theorem chars_ne_nil (address : Address) : address.chars ≠ [] := by
  intro nothing
  have read := address.parse?_chars
  rw [nothing] at read
  cases read

theorem splitAtEach_append_cons {separates : Char → Bool} {piece rest : List Char}
    {separator : Char} (none : ∀ char ∈ piece, separates char = false)
    (isSeparator : separates separator = true) :
    splitAtEach separates (piece ++ separator :: rest) = piece :: splitAtEach separates rest := by
  induction piece with
  | nil => exact if_pos isSeparator
  | cons char piece inductionHypothesis =>
    rw [List.cons_append, splitAtEach, none char List.mem_cons_self,
      inductionHypothesis fun other later => none other (List.mem_cons_of_mem _ later)]
    rfl

theorem words_nameserverLine (address : Address) :
    words (nameserverLine address) = ["nameserver".toList, address.chars] := by
  have written : address.chars.isEmpty = false :=
    List.isEmpty_eq_false_iff.mpr (chars_ne_nil address)
  have pieces : splitAtEach isBlank (nameserverLine address) =
      "nameserver".toList :: splitAtEach isBlank address.chars :=
    splitAtEach_append_cons visible_keyword.isBlank_eq_false (by decide)
  have whole : splitAtEach isBlank address.chars = [address.chars] :=
    Toml.splitAtEach_of_none (visible_chars address).isBlank_eq_false
  simp [words, pieces, whole, written]

theorem lines_nameserversText (addresses : List Address) :
    lines (nameserversText addresses) = addresses.map nameserverLine ++ [[]] := by
  induction addresses with
  | nil => rfl
  | cons address addresses inductionHypothesis =>
    have unbroken : ∀ char ∈ nameserverLine address, (char == '\n') = false := by
      intro char member
      rw [beq_eq_false_iff_ne]
      rintro rfl
      rcases List.mem_append.mp member with keyword | other
      · exact absurd (visible_keyword _ keyword).1 (by decide)
      · rcases List.mem_cons.mp other with blank | written
        · exact absurd blank (by decide)
        · exact absurd (visible_chars address _ written).1 (by decide)
    have first : nameserversText (address :: addresses) =
        nameserverLine address ++ '\n' :: nameserversText addresses := by
      rw [nameserversText, List.flatMap_cons, List.append_assoc]
      rfl
    rw [lines, first, splitAtEach_append_cons unbroken rfl]
    exact congrArg (nameserverLine address :: ·) inductionHypothesis

theorem addLine_nameserverLine (conf : ResolvConf) (address : Address) :
    conf.addLine (words (nameserverLine address)) =
      .ok { conf with nameservers := conf.nameservers ++ [address] } := by
  rw [words_nameserverLine, addLine, if_pos rfl, argument]
  show (readNameserver address.chars >>= fun address =>
    .ok { conf with nameservers := conf.nameservers ++ [address] }) = _
  rw [readNameserver_eq_ok_iff.mpr address.parse?_chars]
  rfl

/-- A text is read back that gives servers, each on a line of its own. -/
theorem parse_nameserversText (addresses : List Address) :
    parse (String.ofList (nameserversText addresses)) =
      .ok { empty with nameservers := addresses } := by
  have fromLines (before : ResolvConf) :
      (addresses.map nameserverLine ++ [[]]).foldlM
        (fun (conf : ResolvConf) line => conf.addLine (words line)) before = .ok
          { before with nameservers := before.nameservers ++ addresses } := by
    induction addresses generalizing before with
    | nil =>
      rw [List.append_nil]
      rfl
    | cons address addresses inductionHypothesis =>
      rw [List.map_cons, List.cons_append, List.foldlM_cons, addLine_nameserverLine]
      refine (inductionHypothesis _).trans ?_
      rw [List.append_assoc]
      rfl
  rw [parse, String.toList_ofList, lines_nameserversText]
  exact fromLines empty

end ResolvConf

end StubResolver
