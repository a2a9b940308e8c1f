/-
This file reads back what is written of a query. A query carries its identifier, whether the server
is to find things out, and a question; everything else about it is as in a blank message, so the
round trip is settled by three readers: the one for numbers, the one for names, and the one for
questions, which is made of both.

A name is read back label by label. A length that is written is neither zero nor so great that it
would stand for a pointer, because a label holds between one and sixty-three octets; so reading
takes the branch that writing meant, whatever octets the label holds, and it ends at the zero octet
and not before. Names and types come back as they were, for every code a type can have. A class
does not: a class without a mnemonic is written as the Internet. A server that repeats the question
it has received then repeats another one than was asked, and the check that a response answers its
question turns the response away.
-/

import StubResolver.Proofs.Name.Letters
import StubResolver.Resolver.Attempt
import StubResolver.Wire.MessageCodec

namespace StubResolver.Wire

/-! ### Names -/

/-- The length in front of a label is that of the label. -/
theorem toNat_length (label : Label) :
    label.octets.length.toUInt8.toNat = label.octets.length := by
  have short := label.short
  show label.octets.length % 256 = label.octets.length
  omega

/-- No label is without octets, so its length does not end the name. -/
theorem length_ne_zero (label : Label) : label.octets.length.toUInt8 ≠ 0 := by
  intro none
  have empty : label.octets.length = 0 := by
    rw [← toNat_length, none]
    rfl
  exact label.nonempty (List.eq_nil_of_length_eq_zero empty)

/-- No label is so long that its length would stand for a pointer. -/
theorem length_not_pointer (label : Label) : ¬ 0xc0 ≤ label.octets.length.toUInt8 := by
  have short := label.short
  rw [UInt8.le_iff_toNat_le, toNat_length]
  show ¬ 192 ≤ label.octets.length
  omega

/-- The octets of a label are one. -/
theorem ofOctets?_octets (label : Label) : Label.ofOctets? label.octets = some label := by
  simp [Label.ofOctets?, label.nonempty, label.short]

/-- Reading stays inside a message that has not ended. -/
theorem not_past_limit {message rest : List UInt8} (length : UInt8)
    (room : (length :: rest).length ≤ message.length) :
    ¬ message.length ≤ message.length - (rest.length + 1) := by
  rw [List.length_cons] at room
  omega

/-- The zero octet ends a name. -/
theorem readLabels_end (message : List UInt8) (start : Nat) (octets : List UInt8)
    (room : (0 :: octets).length ≤ message.length) :
    readLabels message start message.length (0 :: octets) = some ([], octets) := by
  rw [readLabels.eq_def]
  simp [not_past_limit 0 room]

/-- A label that was written is read back, and reading goes on behind it. -/
theorem readLabels_ofLabel (message : List UInt8) (start : Nat) (label : Label)
    (labels : List Label) (octets after : List UInt8)
    (room : (ofLabel label ++ octets).length ≤ message.length)
    (others : readLabels message start message.length octets = some (labels, after)) :
    readLabels message start message.length (ofLabel label ++ octets) =
      some (label :: labels, after) := by
  have inside : ¬ message.length ≤ message.length - ((label.octets ++ octets).length + 1) :=
    not_past_limit _ room
  have enough : label.octets.length ≤ (label.octets ++ octets).length := by simp
  show readLabels message start message.length
      (label.octets.length.toUInt8 :: (label.octets ++ octets)) = _
  rw [readLabels.eq_def]
  simp only [if_neg inside, if_neg (length_ne_zero label), if_neg (length_not_pointer label),
    toNat_length, if_pos enough, List.take_left, List.drop_left, ofOctets?_octets, others]

/-- Labels that were written are read back. -/
theorem readLabels_ofLabels (message : List UInt8) (start : Nat) (labels : List Label)
    (octets : List UInt8)
    (room : (labels.flatMap ofLabel ++ 0 :: octets).length ≤ message.length) :
    readLabels message start message.length (labels.flatMap ofLabel ++ 0 :: octets) =
      some (labels, octets) := by
  induction labels with
  | nil => exact readLabels_end message start octets room
  | cons label labels inductionHypothesis =>
    rw [List.flatMap_cons, List.append_assoc] at room ⊢
    refine readLabels_ofLabel message start label labels _ octets room (inductionHypothesis ?_)
    rw [List.length_append] at room
    exact Nat.le_trans (Nat.le_add_left _ _) room

/-- An absolute name that was written is read back, octet by octet. -/
theorem readName_ofName (message : List UInt8) (name : Name) (octets : List UInt8)
    (absolute : name.absolute = true)
    (room : (ofName name ++ octets).length ≤ message.length) :
    readName message (ofName name ++ octets) = some (name, octets) := by
  have split : ofName name ++ octets = name.labels.flatMap ofLabel ++ 0 :: octets := by
    simp [ofName]
  rw [split] at room ⊢
  have whole : Name.ofLabels? name.labels true = some name :=
    (Name.ofLabels?_eq_some_iff _ _ _).mpr ⟨rfl, absolute⟩
  simp only [readName, readLabels_ofLabels _ _ _ _ room, whole, Option.map_some]

/-! ### Questions -/

/-- The octets of a question whose class is written as it is. -/
def ofQuestion (question : Question) : List UInt8 :=
  ofName question.name ++ ofUInt16 question.type.code ++ ofUInt16 question.recordClass.code

/-- A question that was written is read back. -/
theorem readQuestion_ofQuestion (message : List UInt8) (question : Question)
    (octets : List UInt8) (absolute : question.name.absolute = true)
    (room : (ofQuestion question ++ octets).length ≤ message.length) :
    readQuestion message (ofQuestion question ++ octets) = some (question, octets) := by
  simp only [ofQuestion, List.append_assoc] at room ⊢
  simp [readQuestion, readName_ofName message question.name _ absolute room,
    readUInt16_ofUInt16]

end StubResolver.Wire

namespace StubResolver

/-- The question that a server reads when this one is asked. -/
def Question.received (question : Question) : Question :=
  { question with recordClass := question.recordClass.onWire }

/-- A class is asked for as itself when it has a mnemonic. -/
def RecordClass.IsNamed (recordClass : RecordClass) : Prop :=
  recordClass.code ∈ [1, 3, 4, 254, 255]

instance (recordClass : RecordClass) : Decidable recordClass.IsNamed :=
  inferInstanceAs (Decidable (recordClass.code ∈ [1, 3, 4, 254, 255]))

/-- The classes that are written as they are are those with a mnemonic. -/
theorem RecordClass.onWire_eq_self_iff (recordClass : RecordClass) :
    recordClass.onWire = recordClass ↔ recordClass.IsNamed := by
  have named : (mnemonics.lookup recordClass.code).isSome ↔ recordClass.IsNamed := by
    simp [List.lookup_isSome_iff, mnemonics, IsNamed]
  unfold onWire
  split
  · rename_i found
    exact iff_of_true rfl (named.mp found)
  · rename_i missing
    refine iff_of_false (fun same => missing ?_) (fun isNamed => missing (named.mpr isNamed))
    rw [← same]
    rfl

/-- A server receives the question that was asked, up to the case of letters, exactly if the class
has a mnemonic. -/
theorem Question.received_equiv_iff (question : Question) :
    question.received ≈ question ↔ question.recordClass.IsNamed := by
  rw [← RecordClass.onWire_eq_self_iff]
  show Question.mk question.name.lowered question.type question.recordClass.onWire =
    Question.mk question.name.lowered question.type question.recordClass ↔ _
  simp

namespace Wire

/-! ### Queries -/

/-- The octets of a query: a header that announces one question and nothing else, and the question
as it is. -/
def ofQuery (message : Message) (question : Question) : List UInt8 :=
  ofUInt16 message.id ++ (if message.recursionDesired then 1 else 0) :: 0 ::
    (ofUInt16 1 ++ (ofUInt16 0 ++ (ofUInt16 0 ++ (ofUInt16 0 ++ ofQuestion question))))

/-- What is written of a query is its question as a server receives it. -/
theorem encodeQuery_eq (message : Message) (question : Question)
    (asks : message.question = some question) :
    encodeQuery message = .ok (ofQuery message question.received) := by
  have counts : ofUInt16 1 ++ (ofUInt16 0 ++ (ofUInt16 0 ++ ofUInt16 0)) =
    [0, 1, 0, 0, 0, 0, 0, 0] := rfl
  simp [encodeQuery, asks, ofQuery, ofQuestion, Question.received, ← counts]

/-- What follows a reader is given what it has read. -/
theorem bind_of_eq_some {Value Result : Type} {read : Option Value} {value : Value}
    (reads : read = some value) (rest : Value → Option Result) : (read >>= rest) = rest value := by
  rw [reads]
  rfl

/-- A header that announces one question is read back together with the question. -/
theorem readMessage?_ofQuery (message : Message) (question : Question)
    (absolute : question.name.absolute = true) :
    readMessage? (ofQuery message question) = some { Message.blank with
        id := message.id
        recursionDesired := message.recursionDesired
        question := some question } := by
  have room : (ofQuestion question ++ []).length ≤ (ofQuery message question).length := by
    simp [ofQuery]
    omega
  have asked := readQuestion_ofQuestion (ofQuery message question) question [] absolute room
  have questions : readMany (readQuestion (ofQuery message question)) (1 : UInt16).toNat
      (ofQuestion question) = some ([question], []) := by
    rw [List.append_nil] at asked
    exact bind_of_eq_some asked _
  unfold readMessage?
  refine (bind_of_eq_some (readUInt16_ofUInt16 message.id _) _).trans ?_
  -- the two octets of flags
  refine (bind_of_eq_some rfl _).trans ?_
  refine (bind_of_eq_some rfl _).trans ?_
  -- the four counts
  refine (bind_of_eq_some (readUInt16_ofUInt16 1 _) _).trans ?_
  refine (bind_of_eq_some (readUInt16_ofUInt16 0 _) _).trans ?_
  refine (bind_of_eq_some (readUInt16_ofUInt16 0 _) _).trans ?_
  refine (bind_of_eq_some (readUInt16_ofUInt16 0 _) _).trans ?_
  refine (bind_of_eq_some questions _).trans ?_
  -- The other sections are empty, and what is left are the bits of the flags.
  cases message.recursionDesired <;> rfl

/-- Every query that asks an absolute name can be written, and is read back as a query for the
question as a server receives it. -/
theorem decode_encodeQuery (message : Message) (question : Question)
    (asks : message.question = some question) (absolute : question.name.absolute = true) :
    ∃ octets, encodeQuery message = .ok octets ∧
      decode octets = .ok { Message.blank with
        id := message.id
        recursionDesired := message.recursionDesired
        question := some question.received } := by
  refine ⟨_, encodeQuery_eq message question asks, ?_⟩
  simp only [decode, readMessage?_ofQuery message question.received absolute]

/-- A response that repeats a question is of use for the one that was asked exactly if they are the
same. -/
theorem ofResponse?_of_echoes {asked echoed : Question} {response : Message}
    (echoes : response.question = some echoed) (cacheable : response.result.isCacheable = true) :
    Failure.ofResponse? asked response =
      if echoed ≈ asked then none else some (.unusable "response does not match query") := by
  simp [Failure.ofResponse?, cacheable, echoes]

/-- A query for an absolute name can be written and is read back with its identifier, its wish and
its question, and with nothing else; the question comes back with its name and type octet by octet.
It is the question that was asked exactly if the class has a mnemonic. A server that repeats the
question as it has received it is heard when the class has a mnemonic, and turned away when it has
none. -/
theorem query_roundTrips_iff (message : Message) (question : Question)
    (asks : message.question = some question) (absolute : question.name.absolute = true) :
    ∃ octets, encodeQuery message = .ok octets ∧
      decode octets = .ok { Message.blank with
        id := message.id
        recursionDesired := message.recursionDesired
        question := some question.received } ∧
      (question.received ≈ question ↔ question.recordClass.IsNamed) ∧
      (question.recordClass.IsNamed → question.received = question) ∧
      ∀ response : Message, response.question = some question.received →
        response.result.isCacheable = true →
          Failure.ofResponse? question response =
            if question.recordClass.IsNamed then none
            else some (.unusable "response does not match query") := by
  obtain ⟨octets, written, read⟩ := decode_encodeQuery message question asks absolute
  refine ⟨octets, written, read, question.received_equiv_iff, fun named => ?_,
    fun response echoes cacheable => ?_⟩
  · show { question with recordClass := question.recordClass.onWire } = question
    rw [question.recordClass.onWire_eq_self_iff.mpr named]
  · rw [ofResponse?_of_echoes echoes cacheable]
    simp only [question.received_equiv_iff]

/-- A query for the text that a server of the Chaos network has about itself, in capitals. -/
def chaosQuery : Message :=
  { Message.query ⟨Name.ofOctets [0x56, 0x2e, 0xc0], .txt, .chaos⟩ with id := 0xbeef }

/-- It is read back as it is, whatever the octets of its labels, and the server that echoes it is
heard. -/
theorem chaosQuery_roundTrips :
    ∃ octets, encodeQuery chaosQuery = .ok octets ∧ decode octets = .ok chaosQuery ∧
      Failure.ofResponse? ⟨Name.ofOctets [0x56, 0x2e, 0xc0], .txt, .chaos⟩
        (Message.responseTo chaosQuery) = none := by
  obtain ⟨octets, written, read, _, same, heard⟩ :=
    query_roundTrips_iff chaosQuery ⟨Name.ofOctets [0x56, 0x2e, 0xc0], .txt, .chaos⟩ rfl rfl
  have named : RecordClass.chaos.IsNamed := by decide
  have whole := same named
  rw [whole] at read heard
  refine ⟨octets, written, read, ?_⟩
  rw [heard _ rfl rfl, if_pos named]

/-- A query for an address in the class of the code two, which has no mnemonic. -/
def namelessQuery : Message := Message.query ⟨Name.ofOctets [0x77], .a, ⟨2⟩⟩

/-- It is read back as a query for an address in the Internet, and a server that echoes what it
received is turned away. -/
theorem namelessQuery_not_roundTrips :
    ∃ octets, encodeQuery namelessQuery = .ok octets ∧
      decode octets = .ok (Message.query ⟨Name.ofOctets [0x77], .a, .inet⟩) ∧
      ¬ (⟨Name.ofOctets [0x77], .a, .inet⟩ : Question) ≈ ⟨Name.ofOctets [0x77], .a, ⟨2⟩⟩ ∧
      Failure.ofResponse? ⟨Name.ofOctets [0x77], .a, ⟨2⟩⟩
          (Message.responseTo (Message.query ⟨Name.ofOctets [0x77], .a, .inet⟩)) =
        some (.unusable "response does not match query") := by
  obtain ⟨octets, written, read⟩ :=
    decode_encodeQuery namelessQuery ⟨Name.ofOctets [0x77], .a, ⟨2⟩⟩ rfl rfl
  exact ⟨octets, written, read, by decide, by decide⟩

end Wire

end StubResolver
