/-
This file ranks the sources of cached data. A lookup names the least credibility it accepts, and
what lies below it counts as absent; an insertion never displaces data that is more credible. The
rank of data from a response follows from the section it stood in and from whether the server
claimed authority.
-/

namespace StubResolver

/-- The sections of a message. -/
inductive Section where
  | question
  | answer
  | authority
  | additional
deriving DecidableEq, Repr

/-- How much a cached entry is trusted, in ascending order. -/
inductive Credibility where
  /-- Root hints and other data to start from. -/
  | hint
  /-- The additional section of a response. -/
  | additional
  /-- Addresses that came along with a referral. -/
  | glue
  /-- The answer or authority section of a response without authority. -/
  | nonAuthAnswer
  /-- The answer or authority section of a response with authority. -/
  | authAnswer
  /-- Data loaded from a zone. -/
  | zone
deriving DecidableEq, Repr

namespace Credibility

/-- The place of a credibility in the order. -/
def rank : Credibility → Nat
  | hint => 0
  | additional => 1
  | glue => 2
  | nonAuthAnswer => 3
  | authAnswer => 4
  | zone => 5

theorem rank_injective (first second : Credibility) (equal : first.rank = second.rank) :
    first = second := by
  cases first <;> cases second <;> first | rfl | exact absurd equal (by decide)

instance : LE Credibility := ⟨fun first second => first.rank ≤ second.rank⟩

instance : LT Credibility := ⟨fun first second => first.rank < second.rank⟩

instance (first second : Credibility) : Decidable (first ≤ second) :=
  inferInstanceAs (Decidable (first.rank ≤ second.rank))

instance (first second : Credibility) : Decidable (first < second) :=
  inferInstanceAs (Decidable (first.rank < second.rank))

theorem le_iff_rank (first second : Credibility) : first ≤ second ↔ first.rank ≤ second.rank :=
  Iff.rfl

theorem lt_iff_rank (first second : Credibility) : first < second ↔ first.rank < second.rank :=
  Iff.rfl

/-- What a lookup accepts when nothing else is asked for. -/
def normal : Credibility := nonAuthAnswer

/-- The credibility of data from a section of a response, where `authoritative` says whether the
server claimed authority. -/
def ofSection (part : Section) (authoritative : Bool) : Credibility :=
  match part with
  | .answer | .authority => if authoritative then authAnswer else nonAuthAnswer
  | .additional | .question => additional

/-- A credibility as text. -/
def text : Credibility → String
  | hint => "hint"
  | additional => "additional"
  | glue => "glue"
  | nonAuthAnswer => "non_auth_answer"
  | authAnswer => "auth_answer"
  | zone => "zone"

/-- All credibilities, in ascending order. -/
def all : List Credibility := [hint, additional, glue, nonAuthAnswer, authAnswer, zone]

/-- Reads a credibility. -/
def parse? (word : String) : Option Credibility := all.find? fun value => value.text = word

theorem parse?_text (value : Credibility) : parse? value.text = some value := by
  cases value <;> decide

end Credibility

end StubResolver
