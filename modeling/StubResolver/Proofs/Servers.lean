/-
This file says which servers a configuration asks for. A text denotes a server in one of two ways:
it is a server with its port, or an address, whose port is then the usual one. No text is both, so
that it makes no difference which of the two is tried first. What denotes no server is refused.
-/

import Mathlib.Data.List.Forall2
import StubResolver.Transport
import StubResolver.Config.Validation
import StubResolver.Proofs.Address.RoundTrip
import StubResolver.Proofs.Name.RoundTrip

namespace StubResolver

/-! ### Steps that may fail -/

section

variable {Fault Value Result Other : Type} {step : Value → Except Fault Result}
  {values : List Value}

theorem map_eq_ok_iff {done : Except Fault Value} {change : Value → Other} {result : Other} :
    done.map change = .ok result ↔ ∃ value, done = .ok value ∧ change value = result := by
  cases done <;> simp [Except.map]

/-- What does not fail is done. -/
theorem not_exists_error_iff {done : Except Fault Value} :
    (¬ ∃ fault, done = .error fault) ↔ ∃ value, done = .ok value := by
  cases done <;> simp

/-- A step is taken for every value of a list, or fails for one of them. -/
theorem mapM_eq_ok_iff {results : List Result} :
    values.mapM step = .ok results ↔
      List.Forall₂ (fun value result => step value = .ok result) values results := by
  induction values generalizing results with
  | nil =>
    rw [List.mapM_nil, List.forall₂_nil_left_iff]
    exact ⟨fun done => (Except.ok.inj done).symm, fun none => none ▸ rfl⟩
  | cons value rest inductionHypothesis =>
    rw [List.mapM_cons, List.forall₂_cons_left_iff]
    constructor
    · intro done
      obtain ⟨first, isFirst, done⟩ := exists_of_bind_eq_ok done
      obtain ⟨others, areOthers, done⟩ := exists_of_bind_eq_ok done
      cases done
      exact ⟨first, others, isFirst, inductionHypothesis.mp areOthers, rfl⟩
    · rintro ⟨first, others, isFirst, areOthers, rfl⟩
      rw [isFirst, inductionHypothesis.mpr areOthers]
      rfl

theorem exists_mapM_eq_ok_iff :
    (∃ results, values.mapM step = .ok results) ↔
      ∀ value ∈ values, ∃ result, step value = .ok result := by
  simp only [mapM_eq_ok_iff]
  induction values with
  | nil => simp
  | cons value rest inductionHypothesis =>
    simp only [List.forall₂_cons_left_iff, List.forall_mem_cons, ← inductionHypothesis]
    constructor
    · rintro ⟨_, first, others, isFirst, areOthers, rfl⟩
      exact ⟨⟨first, isFirst⟩, others, areOthers⟩
    · rintro ⟨⟨first, isFirst⟩, others, areOthers⟩
      exact ⟨_, first, others, isFirst, areOthers, rfl⟩

end

/-! ### What a text denotes -/

/-- The server that a text denotes. -/
inductive Denotes (text : String) : ServerAddress → Prop where
  /-- It is written with its port. -/
  | withPort {server : ServerAddress}
      (written : ServerAddress.parseWithPort? text.toList = some server) : Denotes text server
  /-- It is an address, which leaves the port to be the usual one. -/
  | bare {address : Address} (written : Address.parse? text.toList = some address) :
      Denotes text (address.atPort dnsPort)

/-- An address does not begin with a bracket. -/
theorem Address.read_bracket (rest : List Char) : Address.read ('[' :: rest) = none := by
  have ends : IPv6.EndsAddress ('[' :: rest) := by
    rintro _ ⟨⟩
    decide
  have noV6 : IPv6.read ('[' :: rest) = none := by
    unfold IPv6.read
    rw [IPv6.readGroups_of_endsGroups 8 true ends.endsGroups]
    rfl
  rw [Address.read, IPv4.read_of_endsDecimal (endsDecimal_cons rfl), noV6]
  rfl

/-- A server that is written with its port is no address. -/
theorem parseWithPort?_of_parse? {text : List Char} {address : Address}
    (bare : Address.parse? text = some address) : ServerAddress.parseWithPort? text = none := by
  have read : Address.read text = some (address, []) := by
    unfold Address.parse? wholly at bare
    split at bare
    · rename_i read
      cases bare
      exact read
    · cases bare
  have noV4 : ServerAddress.readV4 text = none := by
    unfold Address.read at read
    unfold ServerAddress.readV4
    split at read
    · rename_i found
      cases read
      simp [found, readChar]
    · rename_i notFound
      rw [notFound]
      rfl
  have noV6 : ServerAddress.readV6 text = none := by
    have noBracket : readChar '[' text = none := by
      refine readChar_of_ne fun bracket => ?_
      obtain ⟨rest, rfl⟩ := List.head?_eq_some_iff.mp bracket
      rw [Address.read_bracket] at read
      cases read
    unfold ServerAddress.readV6
    rw [noBracket]
    rfl
  unfold ServerAddress.parseWithPort? wholly
  simp only [noV4, noV6, Option.or_none]

theorem ServerAddress.parse_eq_ok_iff {text : String} {server : ServerAddress} :
    ServerAddress.parse text = .ok server ↔ Denotes text server := by
  have parsed : ServerAddress.parse text = .ok server ↔
      ServerAddress.parse? text.toList = some server := by
    unfold ServerAddress.parse
    cases ServerAddress.parse? text.toList <;> simp
  rw [parsed, ServerAddress.parse?]
  constructor
  · intro found
    rcases Option.or_eq_some_iff.mp found with written | ⟨_, written⟩
    · exact .withPort written
    · obtain ⟨address, isAddress, rfl⟩ := Option.map_eq_some_iff.mp written
      exact .bare isAddress
  · rintro (written | written)
    · rw [written, Option.some_or]
    · rw [parseWithPort?_of_parse? written, written]
      rfl

theorem isServer_iff {text : String} : isServer text = true ↔ ∃ server, Denotes text server := by
  unfold isServer
  rw [Bool.or_eq_true, Option.isSome_iff_exists, Option.isSome_iff_exists]
  constructor
  · rintro (⟨server, written⟩ | ⟨address, written⟩)
    · exact ⟨server, .withPort written⟩
    · exact ⟨_, .bare written⟩
  · rintro ⟨_, written | written⟩
    · exact Or.inl ⟨_, written⟩
    · exact Or.inr ⟨_, written⟩

/-- A text denotes one server. -/
theorem Denotes.unique {text : String} {server other : ServerAddress}
    (denotes : Denotes text server) (denotesOther : Denotes text other) : server = other :=
  Except.ok.inj ((ServerAddress.parse_eq_ok_iff.mpr denotes).symm.trans
    (ServerAddress.parse_eq_ok_iff.mpr denotesOther))

/-- A server that is written denotes itself. -/
theorem ServerAddress.denotes_text (server : ServerAddress) : Denotes server.text server := by
  refine .withPort ?_
  rw [ServerAddress.text, String.toList_ofList, server.parseWithPort?_chars]

/-! ### Forwarders -/

section

variable {way : Forwarding} {config : ResolverConfig}

/-- A configuration has the servers that its texts denote. -/
theorem ResolverConfig.serverAddresses_eq_ok_iff {servers : List ServerAddress} :
    config.serverAddresses = .ok servers ↔ List.Forall₂ Denotes config.servers servers := by
  rw [serverAddresses, mapM_eq_ok_iff]
  simp only [ServerAddress.parse_eq_ok_iff]

theorem Forwarder.ofConfig_eq_ok_iff {forwarder : Forwarder} :
    Forwarder.ofConfig way config = .ok forwarder ↔
      ∃ servers, List.Forall₂ Denotes config.servers servers ∧
        ⟨way, servers, config.queryTimeoutMs⟩ = forwarder := by
  rw [ofConfig, map_eq_ok_iff]
  simp only [ResolverConfig.serverAddresses_eq_ok_iff]

/-- There is a forwarder exactly if every text denotes a server. -/
theorem Forwarder.exists_ofConfig_iff :
    (∃ forwarder, Forwarder.ofConfig way config = .ok forwarder) ↔
      ∀ server ∈ config.servers, isServer server = true := by
  have addressed : (∃ servers, config.serverAddresses = .ok servers) ↔
      ∀ server ∈ config.servers, isServer server = true := by
    rw [ResolverConfig.serverAddresses, exists_mapM_eq_ok_iff]
    simp only [ServerAddress.parse_eq_ok_iff, isServer_iff]
  rw [← addressed]
  simp only [ofConfig, map_eq_ok_iff]
  constructor
  · rintro ⟨_, servers, found, _⟩
    exact ⟨servers, found⟩
  · rintro ⟨servers, found⟩
    exact ⟨_, servers, found, rfl⟩

end

end StubResolver
