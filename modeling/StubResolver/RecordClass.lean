/-
This file names the classes of resource records. As with types, a class is a sixteen-bit code, of
which a few have mnemonics.
-/

namespace StubResolver

/-- The class of a resource record or of a question. -/
structure RecordClass where
  code : UInt16
deriving DecidableEq, Repr

namespace RecordClass

/-- The Internet, the class of nearly all records. -/
def inet : RecordClass := ⟨1⟩
/-- The Chaos network, now used by servers to speak of themselves. -/
def chaos : RecordClass := ⟨3⟩

/-- The codes that have a mnemonic. -/
def mnemonics : List (UInt16 × String) :=
  [(1, "IN"), (3, "CH"), (4, "HS"), (254, "NONE"), (255, "ANY")]

/-- A class as text. -/
def text (recordClass : RecordClass) : String :=
  (mnemonics.lookup recordClass.code).getD ("CLASS" ++ toString recordClass.code.toNat)

/-- The class that a question of this class carries on the wire. A class without a mnemonic is
asked for as the Internet. -/
def onWire (recordClass : RecordClass) : RecordClass :=
  if (mnemonics.lookup recordClass.code).isSome then recordClass else inet

end RecordClass

end StubResolver
