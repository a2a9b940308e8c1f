/-
This file fixes what a set of records is: records that share owner, class and type, and apart from
them the signatures that cover the set. A set keeps the order in which records came and holds no
record twice, where a second record that differs from a first only in its lifetime is dropped and
the first keeps its place and its lifetime.

A record that does not belong to a set is refused by name, so that a mistaken merge cannot go
unnoticed; what was merged before the refusal stays.
-/

import StubResolver.Record

namespace StubResolver

/-- Records that share owner, class and type, with the signatures that cover them. -/
structure RRset where
  name : Name
  type : RecordType
  recordClass : RecordClass
  records : List Record
  signatures : List Record
deriving DecidableEq

namespace RRset

/-! ### Membership -/

/-- Whether a record belongs to a set. -/
def accepts (set : RRset) (record : Record) : Bool :=
  record.name ≈ set.name ∧ record.recordClass = set.recordClass ∧ record.setType = set.type

/-- A list with a record at its end, unless the same record is already there. -/
def addUnlessPresent (records : List Record) (record : Record) : List Record :=
  if records.any (record ≈ ·) then records else records ++ [record]

/-- The set with one more record, which must belong to it. -/
def insert (set : RRset) (record : Record) : RRset :=
  if record.isSignature then
    { set with signatures := addUnlessPresent set.signatures record }
  else
    { set with records := addUnlessPresent set.records record }

/-- A record that was offered to a set it does not belong to. -/
structure Misfit where
  record : Record
  set : RRset

/-- What is reported of a record that does not belong to a set. -/
def Misfit.message (misfit : Misfit) : String :=
  "record " ++ misfit.record.text ++ " does not belong to RRset " ++ misfit.set.name.text ++ " " ++
    misfit.set.recordClass.text ++ " " ++ misfit.set.type.text

/-- The set with one more record, unless the record does not belong to it. -/
def add (set : RRset) (record : Record) : Except Misfit RRset :=
  if set.accepts record then .ok (set.insert record) else .error ⟨record, set⟩

/-- The set with more records, up to the first that does not belong to it. -/
def addAll (set : RRset) : List Record → RRset × Option Misfit
  | [] => (set, none)
  | record :: rest =>
    match set.add record with
    | .ok larger => larger.addAll rest
    | .error misfit => (set, some misfit)

/-! ### Building sets -/

/-- The set that a record starts. -/
def ofRecord (record : Record) : RRset :=
  insert ⟨record.name, record.setType, record.recordClass, [], []⟩ record

/-- The set that the first of some records starts and the others join. There is none without a
first record. -/
def ofRecords? : List Record → Option (Except Misfit RRset)
  | [] => none
  | record :: rest =>
    match (ofRecord record).addAll rest with
    | (set, none) => some (.ok set)
    | (_, some misfit) => some (.error misfit)

/-- All records of a set, the signatures last. -/
def all (set : RRset) : List Record := set.records ++ set.signatures

/-- The set with every record and signature of another, up to the first that does not belong to
it. -/
def merge (set other : RRset) : RRset × Option Misfit := set.addAll other.all

/-- The set with an absolute owner, which all its records take over. A set whose owner is already
absolute stays as it is. -/
def toAbsolute (set : RRset) : RRset :=
  if set.name.absolute then
    set
  else
    match set.all.map fun record => { record with name := set.name.toAbsolute } with
    | [] => set
    | record :: rest => rest.foldl insert (ofRecord record)

/-! ### Properties -/

/-- The lifetime of a set: the shortest among its records, or among its signatures when it has no
others. -/
def ttl (set : RRset) : UInt32 :=
  let source := if set.records.isEmpty then set.signatures else set.records
  match source with
  | [] => 0
  | first :: rest => rest.foldl (fun least record => min least record.ttl) first.ttl

/-- The name that the first record of a set of aliases stands for. -/
def aliasTarget? (set : RRset) : Option Name :=
  set.records.head?.bind fun record => record.data.aliasTarget?

/-- What decides whether two sets are the same. -/
def identity (set : RRset) : RRset :=
  { set with
    name := set.name.lowered
    records := set.records.map Record.identity
    signatures := set.signatures.map Record.identity }

/-- Sets are the same when they hold the same records and signatures in the same order. -/
instance : Setoid RRset where
  r first second := first.identity = second.identity
  iseqv := ⟨fun _ => rfl, Eq.symm, Eq.trans⟩

instance (first second : RRset) : Decidable (first ≈ second) :=
  inferInstanceAs (Decidable (first.identity = second.identity))

/-- A set as text. -/
def text (set : RRset) : String :=
  "\x7b " ++ " ".intercalate [set.name.text, toString set.ttl.toNat, set.recordClass.text,
    set.type.text] ++
    " [" ++ " ".intercalate (set.records.map fun record => record.data.text) ++ "] \x7d"

end RRset

end StubResolver
