/-
This file says when settings that make sense still do so after they have been completed by what a
system says. There are two ways for them to stop doing so.

The timeout is turned from seconds into milliseconds, and those are counted in 64 bits without a
check. Multiples of 2^61 seconds, zero among them, leave no time at all, and every timeout that is
too long for the count leaves another time than was asked for.

The search list is taken over as text. Every domain of it was read from some text, but its own text
need not be one that is read: an international label is written as what it stands for, and that may
be too long, or run into the labels beside it. Addresses of servers are always read back.
-/

import StubResolver.ResolvConf
import StubResolver.Proofs.Address.RoundTrip
import StubResolver.Proofs.Name.RoundTrip

namespace StubResolver

/-! ### Settings that make sense -/

theorem serverFlaw?_eq_none_iff (text : String) :
    serverFlaw? text = none ↔ isServer text = true := by
  unfold serverFlaw?
  cases isServer text <;> simp

theorem searchFlaw?_eq_none_iff (text : String) :
    searchFlaw? text = none ↔ ∃ name, Name.parse text = .ok name := by
  unfold searchFlaw?
  cases Name.parse text <;> simp

/-- Settings make sense if every server is an address, every domain is a name, and there is some
time for an answer. -/
theorem Config.validate_eq_ok_iff (config : Config) :
    config.validate = .ok () ↔
      (∀ server ∈ config.resolver.servers, isServer server = true) ∧
        (∀ domain ∈ config.resolver.search, ∃ name, Name.parse domain = .ok name) ∧
          config.resolver.queryTimeoutMs ≠ 0 := by
  have noFlaw : config.validate = .ok () ↔ config.resolver.flaw? = none := by
    unfold validate flaw?
    cases config.resolver.flaw? <;> simp
  have timed : config.resolver.timeFlaw? = none ↔ config.resolver.queryTimeoutMs ≠ 0 := by
    unfold ResolverConfig.timeFlaw?
    split <;> simp_all
  rw [noFlaw, ResolverConfig.flaw?, Option.or_eq_none_iff, Option.or_eq_none_iff, timed,
    List.findSome?_eq_none_iff, List.findSome?_eq_none_iff, and_assoc]
  simp only [serverFlaw?_eq_none_iff, searchFlaw?_eq_none_iff]

/-- A server that is written is an address. -/
theorem isServer_text (server : ServerAddress) : isServer server.text = true := by
  unfold isServer ServerAddress.text
  rw [String.toList_ofList, server.parseWithPort?_chars]
  rfl

namespace ResolvConf

/-! ### Domains -/

/-- Every domain of the search list was read from a word. -/
def DomainsRead (conf : ResolvConf) : Prop :=
  ∀ domain ∈ conf.search, ∃ word, readDomain word = .ok domain

theorem DomainsRead.addOption {conf : ResolvConf} (domains : conf.DomainsRead)
    (word : List Char) : (conf.addOption word).DomainsRead := by
  unfold ResolvConf.addOption
  split
  · split
    · exact domains
    · split
      · exact domains
      · exact domains
  · exact domains

theorem DomainsRead.addOptions {conf : ResolvConf} (domains : conf.DomainsRead)
    (words : List (List Char)) : (words.foldl ResolvConf.addOption conf).DomainsRead := by
  induction words generalizing conf with
  | nil => exact domains
  | cons word words inductionHypothesis => exact inductionHypothesis (domains.addOption word)

theorem exists_word_of_mapM {words : List (List Char)} {domains : List Name}
    (read : words.mapM readDomain = .ok domains) :
    ∀ domain ∈ domains, ∃ word, readDomain word = .ok domain := by
  induction words generalizing domains with
  | nil =>
    cases read
    exact fun _ nothing => absurd nothing List.not_mem_nil
  | cons word words inductionHypothesis =>
    rw [List.mapM_cons] at read
    obtain ⟨first, readFirst, read⟩ := exists_of_bind_eq_ok read
    obtain ⟨others, readOthers, read⟩ := exists_of_bind_eq_ok read
    cases read
    intro domain member
    rcases List.mem_cons.mp member with rfl | later
    · exact ⟨word, readFirst⟩
    · exact inductionHypothesis readOthers domain later

/-- A line replaces the search list by domains that it has, or leaves it as it is. -/
theorem DomainsRead.addLine {conf longer : ResolvConf} (domains : conf.DomainsRead)
    {line : List (List Char)} (added : conf.addLine line = .ok longer) : longer.DomainsRead := by
  cases line with
  | nil =>
    cases added
    exact domains
  | cons keyword words =>
    dsimp only [ResolvConf.addLine] at added
    split at added
    · obtain ⟨word, _, added⟩ := exists_of_bind_eq_ok added
      obtain ⟨address, _, added⟩ := exists_of_bind_eq_ok added
      cases added
      exact domains
    · split at added
      · obtain ⟨word, _, added⟩ := exists_of_bind_eq_ok added
        obtain ⟨domain, read, added⟩ := exists_of_bind_eq_ok added
        cases added
        intro other isOnly
        rw [List.mem_singleton.mp isOnly]
        exact ⟨word, read⟩
      · split at added
        · obtain ⟨search, read, added⟩ := exists_of_bind_eq_ok added
          cases added
          exact exists_word_of_mapM read
        · split at added
          · cases added
            exact domains.addOptions words
          · cases added
            exact domains

/-- All domains of a configuration were read from words of its text. -/
theorem domainsRead_of_parse {text : String} {conf : ResolvConf} (parsed : parse text = .ok conf) :
    conf.DomainsRead := by
  have fromLines (lines : List (List Char)) (before : ResolvConf) (domains : before.DomainsRead)
      (read : lines.foldlM (fun conf line => conf.addLine (words line)) before = .ok conf) :
      conf.DomainsRead := by
    induction lines generalizing before with
    | nil =>
      cases read
      exact domains
    | cons line lines inductionHypothesis =>
      rw [List.foldlM_cons] at read
      obtain ⟨longer, added, read⟩ := exists_of_bind_eq_ok read
      exact inductionHypothesis longer (domains.addLine added) read
  exact fromLines _ empty (fun _ nothing => absurd nothing List.not_mem_nil) parsed

/-- A domain without international labels is read back from its text. -/
theorem DomainsRead.parse_text {conf : ResolvConf} (domains : conf.DomainsRead) {domain : Name}
    (member : domain ∈ conf.search)
    (plain : ∀ label ∈ domain.labels, label.isInternational = false) :
    ∃ again, Name.parse domain.text = .ok again ∧ again ≈ domain := by
  obtain ⟨word, read⟩ := domains domain member
  unfold readDomain at read
  cases parsed : Name.parse (String.ofList word) with
  | error error =>
    rw [parsed] at read
    cases read
  | ok relative =>
    rw [parsed] at read
    cases read
    exact Name.parse_text rfl fun label present =>
      ⟨Name.isLegal_of_parse parsed label present, plain label present⟩

/-! ### Timeouts -/

/-- The number of seconds whose milliseconds are a multiple of what 64 bits can count, 2^61. -/
def timelessSeconds : Nat := 2305843009213693952

/-- If there is a timeout, some time is left when its milliseconds are counted. -/
def LeavesTime (conf : ResolvConf) : Prop :=
  ∀ seconds, conf.timeout = some seconds → seconds.toNat % timelessSeconds ≠ 0

theorem toNat_milliseconds (seconds : UInt64) :
    (milliseconds seconds).toNat = 1000 * seconds.toNat % UInt64.size := by
  unfold milliseconds
  rw [UInt64.toNat_mul, Nat.mul_comm]
  rfl

theorem milliseconds_eq_zero_iff (seconds : UInt64) :
    milliseconds seconds = 0 ↔ seconds.toNat % timelessSeconds = 0 := by
  have size : UInt64.size = 8 * timelessSeconds := by decide
  have thousand : 1000 * seconds.toNat = 8 * (125 * seconds.toNat) := by omega
  have coprime : Nat.Coprime timelessSeconds 125 := by decide
  rw [← UInt64.toNat_inj, toNat_milliseconds, UInt64.toNat_zero, ← Nat.dvd_iff_mod_eq_zero,
    ← Nat.dvd_iff_mod_eq_zero, size, thousand, Nat.mul_dvd_mul_iff_left (by decide)]
  exact ⟨coprime.dvd_of_dvd_mul_left, fun divides => Nat.dvd_mul_left_of_dvd divides 125⟩

/-- The milliseconds are counted exactly up to the longest timeout that 64 bits have room for. -/
theorem milliseconds_exact_iff (seconds : UInt64) :
    (milliseconds seconds).toNat = 1000 * seconds.toNat ↔ seconds.toNat ≤ 18446744073709551 := by
  have size : UInt64.size = 18446744073709551616 := rfl
  rw [toNat_milliseconds, size]
  omega

end ResolvConf

/-! ### Completing settings -/

/-- The settings with those of looking up names completed by what a system says. -/
def Config.completedBy (config : Config) (conf : ResolvConf) : Config :=
  { config with resolver := conf.applyTo config.resolver }

/-- What becomes of settings that make sense when a system completes them. -/
structure Config.Completed (config : Config) (conf : ResolvConf) : Prop where
  /-- They still make sense exactly if some time is left for an answer and the domains that are
  taken over, if any are, are names as they are written. -/
  valid_iff : (config.completedBy conf).validate = .ok () ↔
    conf.LeavesTime ∧ (config.resolver.search = [] →
      ∀ domain ∈ conf.search, ∃ name, Name.parse domain.text = .ok name)
  /-- So they are, and still the same names, unless they have international labels. -/
  domains : ∀ domain ∈ conf.search, (∀ label ∈ domain.labels, label.isInternational = false) →
    ∃ name, Name.parse domain.text = .ok name ∧ name ≈ domain
  /-- A timeout holds, counted in milliseconds as far as 64 bits go. -/
  timeout : ∀ seconds, conf.timeout = some seconds →
    let found := (config.completedBy conf).resolver.queryTimeoutMs
    found.toNat = 1000 * seconds.toNat % UInt64.size ∧
      (found.toNat = 1000 * seconds.toNat ↔ seconds.toNat ≤ 18446744073709551) ∧
      (found = 0 ↔ seconds.toNat % ResolvConf.timelessSeconds = 0)
  /-- Without one, the time stays what it was. -/
  noTimeout : conf.timeout = none →
    (config.completedBy conf).resolver.queryTimeoutMs = config.resolver.queryTimeoutMs
  /-- Servers stay as they are if there are any. -/
  servers : config.resolver.servers ≠ [] →
    (config.completedBy conf).resolver.servers = config.resolver.servers
  /-- The search list stays as it is if there is one. -/
  search : config.resolver.search ≠ [] →
    (config.completedBy conf).resolver.search = config.resolver.search

section

variable {config : Config} {conf : ResolvConf}

theorem Config.completedBy_queryTimeoutMs_ne_zero_iff
    (timed : config.resolver.queryTimeoutMs ≠ 0) :
    (config.completedBy conf).resolver.queryTimeoutMs ≠ 0 ↔ conf.LeavesTime := by
  show ((conf.timeout.map ResolvConf.milliseconds).getD config.resolver.queryTimeoutMs) ≠ 0 ↔ _
  unfold ResolvConf.LeavesTime
  cases conf.timeout with
  | none => simp [timed]
  | some seconds =>
    rw [Option.map_some, Option.getD_some, Ne, ResolvConf.milliseconds_eq_zero_iff]
    simp

/-- Completing settings that make sense adds no server that is none. -/
theorem Config.isServer_of_completedBy
    (servers : ∀ server ∈ config.resolver.servers, isServer server = true) :
    ∀ server ∈ (config.completedBy conf).resolver.servers, isServer server = true := by
  show ∀ server ∈ (if config.resolver.servers.isEmpty then conf.servers.map ServerAddress.text
    else config.resolver.servers), isServer server = true
  split
  · intro text member
    obtain ⟨server, _, rfl⟩ := List.mem_map.mp member
    exact isServer_text server
  · exact servers

/-- The search list makes sense after it was completed if what was taken over does. -/
theorem Config.searched_of_completedBy
    (search : ∀ domain ∈ config.resolver.search, ∃ name, Name.parse domain = .ok name) :
    (∀ domain ∈ (config.completedBy conf).resolver.search, ∃ name, Name.parse domain = .ok name) ↔
      (config.resolver.search = [] →
        ∀ domain ∈ conf.search, ∃ name, Name.parse domain.text = .ok name) := by
  show (∀ domain ∈ (if config.resolver.search.isEmpty then conf.search.map Name.text
    else config.resolver.search), ∃ name, Name.parse domain = .ok name) ↔ _
  by_cases isEmpty : config.resolver.search = []
  · rw [isEmpty, List.isEmpty_nil, if_pos rfl, List.forall_mem_map]
    exact ⟨fun found _ => found, fun found => found rfl⟩
  · rw [List.isEmpty_eq_false_iff.mpr isEmpty, if_neg Bool.false_ne_true]
    exact ⟨fun _ nothing => absurd nothing isEmpty, fun _ => search⟩

/-- What a system says completes settings that make sense as `Config.Completed` says. -/
theorem Config.completed_by_parsed {text : String} (parsed : ResolvConf.parse text = .ok conf)
    (valid : config.validate = .ok ()) : config.Completed conf := by
  obtain ⟨servers, search, timed⟩ := config.validate_eq_ok_iff.mp valid
  exact {
    valid_iff := by
      rw [Config.validate_eq_ok_iff, Config.searched_of_completedBy search,
        Config.completedBy_queryTimeoutMs_ne_zero_iff timed]
      refine ⟨fun ⟨_, searched, leavesTime⟩ => ⟨leavesTime, searched⟩,
        fun ⟨leavesTime, searched⟩ =>
          ⟨Config.isServer_of_completedBy servers, searched, leavesTime⟩⟩
    domains := fun _ => (ResolvConf.domainsRead_of_parse parsed).parse_text
    timeout := by
      intro seconds set
      have found : (config.completedBy conf).resolver.queryTimeoutMs =
          ResolvConf.milliseconds seconds := by
        show (conf.timeout.map ResolvConf.milliseconds).getD _ = _
        rw [set]
        rfl
      dsimp only
      rw [found]
      exact ⟨ResolvConf.toNat_milliseconds seconds, ResolvConf.milliseconds_exact_iff seconds,
        ResolvConf.milliseconds_eq_zero_iff seconds⟩
    noTimeout := by
      intro unset
      show (conf.timeout.map ResolvConf.milliseconds).getD _ = _
      rw [unset]
      rfl
    servers := fun configured => if_neg (by simpa using configured)
    search := fun configured => if_neg (by simpa using configured) }

end

/-- What a system says that has a server, a domain and options. -/
def ResolvConf.sample : ResolvConf where
  nameservers := [.v6 ⟨[0x2001, 0xdb8, 0, 0, 0, 0, 0, 1], rfl⟩]
  search := [⟨[⟨[0x63, 0x6f, 0x72, 0x70], by decide, by decide⟩,
    ⟨[0x65, 0x78, 0x61, 0x6d, 0x70, 0x6c, 0x65], by decide, by decide⟩], true, by decide⟩]
  ndots := some 2
  timeout := some 3

/-- The text in which a system says so. -/
def ResolvConf.sampleText : String :=
  "; generated\nnameserver 2001:db8::1\nsearch corp.example\noptions ndots:2 timeout:3\n"

theorem Config.default_completed_by_sample :
    ResolvConf.parse ResolvConf.sampleText = .ok ResolvConf.sample ∧
      Config.default.validate = .ok () ∧ Config.default.Completed ResolvConf.sample ∧
      (Config.default.completedBy ResolvConf.sample).validate = .ok () ∧
      (Config.default.completedBy ResolvConf.sample).resolver.queryTimeoutMs = 3000 :=
  have parsed : ResolvConf.parse ResolvConf.sampleText = .ok ResolvConf.sample := by rfl
  ⟨parsed, rfl, Config.completed_by_parsed parsed rfl, by rfl, rfl⟩

/-- A timeout of 2^61 seconds leaves no time, so that the defaults, once completed, make no sense
any more. -/
theorem Config.default_completed_without_time :
    ∃ conf, ResolvConf.parse "options timeout:2305843009213693952\n" = .ok conf ∧
      conf.timeout = some 2305843009213693952 ∧ Config.default.validate = .ok () ∧
      (Config.default.completedBy conf).resolver.queryTimeoutMs = 0 ∧
      (Config.default.completedBy conf).validate = .error (.flawed .noTime) :=
  ⟨{ ResolvConf.empty with timeout := some 2305843009213693952 }, by rfl, rfl, rfl, rfl, by rfl⟩

end StubResolver
