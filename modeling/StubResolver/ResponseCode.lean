/-
This file names the result codes of responses. Two of them carry data that a cache can learn from:
the code for no error, and the code for a name that does not exist.
-/

namespace StubResolver

/-- The result code of a response. -/
structure ResponseCode where
  code : UInt16
deriving DecidableEq, Repr

namespace ResponseCode

/-- The question was answered, perhaps with no records. -/
def noError : ResponseCode := ⟨0⟩
/-- The name of the question does not exist. -/
def nxDomain : ResponseCode := ⟨3⟩

/-- The codes that have a mnemonic. -/
def mnemonics : List (UInt16 × String) := [
  (0, "NOERROR"), (1, "FORMERR"), (2, "SERVFAIL"), (3, "NXDOMAIN"), (4, "NOTIMP"), (5, "REFUSED"),
  (6, "YXDOMAIN"), (7, "YXRRSET"), (8, "NXRRSET"), (9, "NOTAUTH"), (10, "NOTZONE")]

/-- The mnemonic of a code, or the word for all codes that have none. -/
def mnemonic (result : ResponseCode) : String := (mnemonics.lookup result.code).getD "UNKNOWN"

/-- A code as text. -/
def text (result : ResponseCode) : String :=
  (mnemonics.lookup result.code).getD ("RESERVED" ++ toString result.code.toNat)

/-- Whether a response with this code carries data that a cache can learn from. -/
def isCacheable (result : ResponseCode) : Bool := result = noError || result = nxDomain

end ResponseCode

end StubResolver
