import TrustedServices.Lib.ObjectStore

/- The data types of the service, the checks of a request alone, and the variable index, in which a
pointer to an entry is its position. -/
namespace SmmVariable

open Lib

/-- The eight bytes of `Data4` are one word, the first byte lowest. -/
structure EfiGuid where
  data1 : BitVec 32
  data2 : BitVec 16
  data3 : BitVec 16
  data4 : BitVec 64
  deriving DecidableEq, Repr

namespace EfiGuid

def zero : EfiGuid := ⟨0, 0, 0, 0⟩

def toBytes (guid : EfiGuid) : Bytes :=
  leBytes 4 guid.data1.toNat ++ (leBytes 2 guid.data2.toNat ++
    (leBytes 2 guid.data3.toNat ++ leBytes 8 guid.data4.toNat))

def ofBytes (image : Bytes) : EfiGuid where
  data1 := BitVec.ofNat 32 (leNat (slice image 0 4))
  data2 := BitVec.ofNat 16 (leNat (slice image 4 2))
  data3 := BitVec.ofNat 16 (leNat (slice image 6 2))
  data4 := BitVec.ofNat 64 (leNat (slice image 8 8))

@[simp] theorem length_toBytes (guid : EfiGuid) : guid.toBytes.length = 16 := by
  simp [toBytes]

theorem ofBytes_toBytes (guid : EfiGuid) (rest : Bytes) : ofBytes (guid.toBytes ++ rest) = guid := by
  have word16 := leNat_leBytes_bitVec 2
  have word32 := leNat_leBytes_bitVec 4
  have word64 := leNat_leBytes_bitVec 8
  simp (disch := decide) only [ofBytes, toBytes, List.append_assoc, slice_leBytes_behind,
    slice_leBytes_front, Nat.sub_self, Nat.reduceSub, word16, word32, word64]

end EfiGuid

def compareGuid (guid1 guid2 : EfiGuid) : Bool :=
  guid1.data1 == guid2.data1 && guid1.data2 == guid2.data2 &&
    guid1.data3 == guid2.data3 && guid1.data4 == guid2.data4

theorem compareGuid_iff (guid1 guid2 : EfiGuid) : compareGuid guid1 guid2 = true ↔ guid1 = guid2 := by
  obtain ⟨a1, a2, a3, a4⟩ := guid1
  obtain ⟨b1, b2, b3, b4⟩ := guid2
  simp only [compareGuid, Bool.and_eq_true, beq_iff_eq, EfiGuid.mk.injEq, and_assoc]

structure EfiTime where
  year : BitVec 16
  month : BitVec 8
  day : BitVec 8
  hour : BitVec 8
  minute : BitVec 8
  second : BitVec 8
  pad1 : BitVec 8
  nanosecond : BitVec 32
  timeZone : BitVec 16
  daylight : BitVec 8
  pad2 : BitVec 8
  deriving DecidableEq, Repr

namespace EfiTime

def zero : EfiTime := ⟨0, 0, 0, 0, 0, 0, 0, 0, 0, 0, 0⟩

def toBytes (time : EfiTime) : Bytes :=
  leBytes 2 time.year.toNat ++ (leBytes 1 time.month.toNat ++ (leBytes 1 time.day.toNat ++
    (leBytes 1 time.hour.toNat ++ (leBytes 1 time.minute.toNat ++
    (leBytes 1 time.second.toNat ++ (leBytes 1 time.pad1.toNat ++
    (leBytes 4 time.nanosecond.toNat ++ (leBytes 2 time.timeZone.toNat ++
    (leBytes 1 time.daylight.toNat ++ leBytes 1 time.pad2.toNat)))))))))

def ofBytes (image : Bytes) : EfiTime where
  year := BitVec.ofNat 16 (leNat (slice image 0 2))
  month := BitVec.ofNat 8 (leNat (slice image 2 1))
  day := BitVec.ofNat 8 (leNat (slice image 3 1))
  hour := BitVec.ofNat 8 (leNat (slice image 4 1))
  minute := BitVec.ofNat 8 (leNat (slice image 5 1))
  second := BitVec.ofNat 8 (leNat (slice image 6 1))
  pad1 := BitVec.ofNat 8 (leNat (slice image 7 1))
  nanosecond := BitVec.ofNat 32 (leNat (slice image 8 4))
  timeZone := BitVec.ofNat 16 (leNat (slice image 12 2))
  daylight := BitVec.ofNat 8 (leNat (slice image 14 1))
  pad2 := BitVec.ofNat 8 (leNat (slice image 15 1))

@[simp] theorem length_toBytes (time : EfiTime) : time.toBytes.length = 16 := by
  simp [toBytes]

theorem ofBytes_toBytes (time : EfiTime) (rest : Bytes) : ofBytes (time.toBytes ++ rest) = time := by
  have word8 := leNat_leBytes_bitVec 1
  have word16 := leNat_leBytes_bitVec 2
  have word32 := leNat_leBytes_bitVec 4
  simp (disch := decide) only [ofBytes, toBytes, List.append_assoc, slice_leBytes_behind,
    slice_leBytes_front, Nat.sub_self, Nat.reduceSub, word8, word16, word32]

end EfiTime

inductive EfiStatus
  | success
  | loadError
  | invalidParameter
  | unsupported
  | badBufferSize
  | bufferTooSmall
  | notReady
  | deviceError
  | writeProtected
  | outOfResources
  | notFound
  | accessDenied
  | securityViolation
  /-- Not a status: the call does not return. -/
  | noReturn
  deriving DecidableEq, Repr

def psaToEfiStorageStatus {α : Type} : Except StorageError α → EfiStatus
  | .ok _ => .success
  | .error .notPermitted => .accessDenied
  | .error .invalidArgument => .invalidParameter
  | .error .badState => .notReady
  | .error .bufferTooSmall => .bufferTooSmall
  | .error .doesNotExist => .notFound
  | .error .insufficientMemory => .outOfResources
  | .error .insufficientStorage => .outOfResources
  | .error .storageFailure => .deviceError
  | .error .hardwareFailure => .deviceError
  | .error .alreadyExists => .deviceError
  | .error .other => .deviceError

theorem psaToEfiStorageStatus_error {α : Type} (error : StorageError) :
    psaToEfiStorageStatus (.error error : Except StorageError α) ≠ .success := by
  cases error <;> simp [psaToEfiStorageStatus]

abbrev Attributes := BitVec 32

def efiVariableNonVolatile : Attributes := 0x01#32
def efiVariableBootserviceAccess : Attributes := 0x02#32
def efiVariableRuntimeAccess : Attributes := 0x04#32
def efiVariableHardwareErrorRecord : Attributes := 0x08#32
def efiVariableAuthenticatedWriteAccess : Attributes := 0x10#32
def efiVariableTimeBasedAuthenticatedWriteAccess : Attributes := 0x20#32
def efiVariableAppendWrite : Attributes := 0x40#32
def efiVariableEnhancedAuthenticatedAccess : Attributes := 0x80#32

def efiVariableMask : Attributes :=
  efiVariableNonVolatile ||| efiVariableBootserviceAccess ||| efiVariableRuntimeAccess |||
    efiVariableHardwareErrorRecord ||| efiVariableAuthenticatedWriteAccess |||
    efiVariableTimeBasedAuthenticatedWriteAccess ||| efiVariableAppendWrite |||
    efiVariableEnhancedAuthenticatedAccess

/-- The C test `attributes & mask`. -/
def hasAny (attributes mask : Attributes) : Bool :=
  attributes &&& mask != 0#32

def isNonVolatile (attributes : Attributes) : Bool :=
  hasAny attributes efiVariableNonVolatile

theorem hasAny_or (attributes left right : Attributes) :
    hasAny attributes (left ||| right) = (hasAny attributes left || hasAny attributes right) := by
  have split : (attributes &&& (left ||| right) = 0#32) ↔
      attributes &&& left = 0#32 ∧ attributes &&& right = 0#32 := by
    rw [BitVec.and_or_distrib_left, BitVec.or_eq_zero_iff]
  unfold hasAny
  rw [Bool.eq_iff_iff]
  simp only [bne_iff_ne, ne_eq, Bool.or_eq_true, split, not_and_or]

theorem without_append_of_not {attributes : Attributes}
    (absent : hasAny attributes efiVariableAppendWrite = false) :
    attributes &&& ~~~efiVariableAppendWrite = attributes := by
  have zero : attributes &&& efiVariableAppendWrite = 0#32 := by
    simpa [hasAny] using absent
  have whole : attributes &&& (efiVariableAppendWrite ||| ~~~efiVariableAppendWrite) = attributes := by
    rw [show efiVariableAppendWrite ||| ~~~efiVariableAppendWrite = BitVec.allOnes 32 by decide,
      BitVec.and_allOnes]
  rw [BitVec.and_or_distrib_left, zero, BitVec.zero_or] at whole
  exact whole

theorem without_append_or (attributes : Attributes) :
    (attributes &&& ~~~efiVariableAppendWrite) ||| efiVariableAppendWrite =
      attributes ||| efiVariableAppendWrite := by
  apply BitVec.eq_of_getLsbD_eq
  intro bit inside
  simp only [BitVec.getLsbD_or, BitVec.getLsbD_and, BitVec.getLsbD_not, inside, decide_true,
    Bool.true_and]
  cases attributes.getLsbD bit <;> cases efiVariableAppendWrite.getLsbD bit <;> rfl

/-- The parameter of SetVariable: `NameSize` and `DataSize` are the lengths of
`name` and `data`. -/
structure AccessVariable where
  guid : EfiGuid
  attributes : Attributes
  name : Bytes
  data : Bytes
  deriving DecidableEq, Repr

def int16At (name : Bytes) (index : Nat) : Nat :=
  leNat (slice name (2 * index) 2)

def checkNameTerminator (name : Bytes) : EfiStatus :=
  if name.length < 2 ∨ int16At name (name.length / 2 - 1) ≠ 0 then .invalidParameter
  else .success

abbrev Terminated (name : Bytes) : Prop := checkNameTerminator name = .success

def checkCapabilities (attributes : Attributes) : EfiStatus :=
  if hasAny attributes efiVariableRuntimeAccess ∧
      ¬ hasAny attributes efiVariableBootserviceAccess then .invalidParameter
  else if hasAny attributes efiVariableAuthenticatedWriteAccess then .unsupported
  else if hasAny attributes efiVariableTimeBasedAuthenticatedWriteAccess ∧
      hasAny attributes efiVariableEnhancedAuthenticatedAccess then .invalidParameter
  else if hasAny attributes efiVariableEnhancedAuthenticatedAccess then .unsupported
  else if hasAny attributes (~~~efiVariableMask) then .unsupported
  else if hasAny attributes efiVariableHardwareErrorRecord then .unsupported
  else .success

structure VariableConstraints where
  revision : BitVec 16
  property : BitVec 16
  attributes : BitVec 32
  minSize : BitVec 64
  maxSize : BitVec 64
  deriving DecidableEq, Repr

def VariableConstraints.zero : VariableConstraints := ⟨0, 0, 0, 0, 0⟩

/-- The property a client sends has the fields of the constraints it sets. -/
structure VarCheckVariableProperty where
  revision : BitVec 16
  property : BitVec 16
  attributes : BitVec 32
  minSize : BitVec 64
  maxSize : BitVec 64
  deriving DecidableEq, Repr

def varCheckVariablePropertyReadOnly : BitVec 16 := 1#16

def varCheckVariablePropertyRevision : BitVec 16 := 1#16

def variableCheckerSetConstraints (checkVarProperty : VarCheckVariableProperty) :
    Except EfiStatus VariableConstraints :=
  if checkVarProperty.revision ≠ varCheckVariablePropertyRevision then .error .invalidParameter
  else if checkVarProperty.maxSize.toNat < checkVarProperty.minSize.toNat then .error .invalidParameter
  else .ok ⟨checkVarProperty.revision, checkVarProperty.property, checkVarProperty.attributes,
    checkVarProperty.minSize, checkVarProperty.maxSize⟩

def variableCheckerCheckOnSet (constraints : VariableConstraints) (dataSize : Nat) : EfiStatus :=
  if constraints.property &&& varCheckVariablePropertyReadOnly ≠ 0 then .writeProtected
  else if dataSize < constraints.minSize.toNat then .invalidParameter
  else if constraints.maxSize.toNat < dataSize then .invalidParameter
  else .success

/-- Of the 128-byte name array, `name` holds the `name_size` bytes in use; the
bytes behind them are zero. -/
structure VariableMetadata where
  guid : EfiGuid
  timestamp : EfiTime
  fingerprint : BitVec 256
  nameSize : Nat
  name : Bytes
  attributes : Attributes
  uid : Nat
  deriving DecidableEq, Repr

def VariableMetadata.zero : VariableMetadata :=
  ⟨.zero, .zero, 0, 0, [], 0, 0⟩

structure VariableInfo extends metadata : VariableMetadata where
  checkConstraints : VariableConstraints
  isVariableSet : Bool
  isConstraintsSet : Bool
  deriving DecidableEq, Repr

def VariableInfo.zero : VariableInfo :=
  ⟨.zero, .zero, false, false⟩

structure VariableEntry extends info : VariableInfo where
  inUse : Bool
  dirty : Bool
  deriving DecidableEq, Repr

def VariableEntry.zero : VariableEntry :=
  ⟨.zero, false, false⟩

/-- The length of the table is `max_variables`. -/
structure VariableIndex where
  counter : BitVec 32
  entries : List VariableEntry
  deriving DecidableEq, Repr

def variableIndexMaxNameBytes : Nat := 128

namespace VariableIndex

section

variable (index : VariableIndex)

def maxVariables : Nat := index.entries.length

def entry (pos : Nat) : VariableEntry :=
  index.entries.getD pos .zero

abbrev info (pos : Nat) : VariableInfo :=
  (index.entry pos).info

def modify (pos : Nat) (change : VariableEntry → VariableEntry) : VariableIndex :=
  { index with entries := index.entries.modify pos change }

end

section

variable (index : VariableIndex) (pos : Nat) (change : VariableEntry → VariableEntry)

include index pos change

@[simp] theorem modify_length :
    (index.modify pos change).entries.length = index.entries.length := by
  simp [modify]

theorem entry_modify_self (inside : pos < index.entries.length) :
    (index.modify pos change).entry pos = change (index.entry pos) := by
  simp [modify, entry, List.getElem?_eq_getElem inside]

end

theorem entry_modify_other (index : VariableIndex) (pos other : Nat)
    (change : VariableEntry → VariableEntry) (apart : other ≠ pos) :
    (index.modify pos change).entry other = index.entry other := by
  simp [modify, entry, apart.symm]

theorem entry_inside (index : VariableIndex) (pos : Nat) (inside : pos < index.entries.length) :
    index.entry pos = index.entries[pos] := by
  simp [entry, inside]

theorem entry_outside (index : VariableIndex) (pos : Nat) (outside : index.entries.length ≤ pos) :
    index.entry pos = .zero := by
  simp [entry, List.getElem?_eq_none outside]

variable {index : VariableIndex}

/-- What holds between each entry and itself and between one entry and its change holds at
every position, also behind the table. -/
theorem entry_modify_rel {pos : Nat}
    {change : VariableEntry → VariableEntry} {rel : VariableEntry → VariableEntry → Prop}
    (refl : ∀ entry, rel entry entry) (changed : rel (index.entry pos) (change (index.entry pos)))
    (other : Nat) : rel (index.entry other) ((index.modify pos change).entry other) := by
  by_cases here : other = pos
  · subst here
    by_cases inside : other < index.entries.length
    · rw [entry_modify_self _ _ _ inside]
      exact changed
    · rw [entry_outside _ _ (by omega), entry_outside _ _ (by simp; omega)]
      exact refl _
  · rw [entry_modify_other _ _ _ _ here]
    exact refl _

theorem inside_of_inUse {pos : Nat} (used : (index.entry pos).inUse = true) :
    pos < index.entries.length := by
  by_contra outside
  rw [entry_outside index pos (by omega)] at used
  cases used

end VariableIndex

def isMatchingEntry (guid : EfiGuid) (name : Bytes) (metadata : VariableMetadata) : Bool :=
  compareGuid guid metadata.guid && name.length == metadata.nameSize && name == metadata.name

/-- The first UID in `1..max_variables` that no entry in use has, or zero. -/
def generateUid (index : VariableIndex) : Nat :=
  (((List.range index.maxVariables).map (· + 1)).find? fun candidate =>
    !index.entries.any fun entry => entry.inUse && entry.uid == candidate).getD 0

def findVariable (index : VariableIndex) (guid : EfiGuid) (name : Bytes) : Option Nat :=
  index.entries.findIdx? fun entry => entry.inUse && isMatchingEntry guid name entry.info.metadata

def findFree (index : VariableIndex) : Option Nat :=
  index.entries.findIdx? fun entry => !entry.inUse

def markDirty (entry : VariableEntry) : VariableEntry :=
  if isNonVolatile entry.attributes then { entry with dirty := true } else entry

def variableIndexInit (maxVariables : Nat) : VariableIndex where
  counter := 0
  entries := List.replicate maxVariables .zero

def sizeofVariableMetadata : Nat := 216

def sizeofVariableConstraints : Nat := 24

def variableIndexMaxDumpSize (index : VariableIndex) : Nat :=
  4 + (sizeofVariableMetadata + 1 + sizeofVariableConstraints) * index.maxVariables

def variableIndexFind (index : VariableIndex) (guid : EfiGuid) (name : Bytes) : Option Nat :=
  findVariable index guid name

def VariableEntry.isSet (entry : VariableEntry) : Bool :=
  entry.inUse && entry.isVariableSet

/-- The first entry from `start` on that is in use and set. -/
def nextSet (index : VariableIndex) (start : Nat) : Option Nat :=
  ((index.entries.drop start).findIdx? VariableEntry.isSet).map (· + start)

/-- The two loops of `variable_index_find_next`. -/
def findNextFrom (index : VariableIndex) (start : Nat) : EfiStatus × Option Nat :=
  match nextSet index start with
  | some pos => (.success, some pos)
  | none => (.notFound, none)

def variableIndexFindNext (index : VariableIndex) (guid : EfiGuid) (name : Bytes) :
    EfiStatus × Option Nat :=
  if 2 ≤ name.length then
    if int16At name 0 ≠ 0 then
      match findVariable index guid name with
      | some pos => findNextFrom index (pos + 1)
      | none => (.invalidParameter, none)
    else findNextFrom index 0
  else (.notFound, none)

/-- The entry `add_entry` leaves in a free slot. The constraints and the dirty
flag of the slot stay as they were. -/
def VariableEntry.initialized (entry : VariableEntry) (guid : EfiGuid) (name : Bytes) (uid : Nat) :
    VariableEntry where
  info :=
    { entry.info with
      metadata :=
        { guid := guid, timestamp := .zero, fingerprint := 0, nameSize := name.length,
          name := name, attributes := 0, uid := uid }
      isVariableSet := false
      isConstraintsSet := false }
  inUse := true
  dirty := entry.dirty

section

variable (index : VariableIndex) (guid : EfiGuid) (name : Bytes)

def addEntry : VariableIndex × Option Nat :=
  if name.length ≤ variableIndexMaxNameBytes then
    match findFree index with
    | some pos =>
      let uid := generateUid index
      if uid = 0 then
        (index.modify pos fun entry =>
          { entry with uid := uid }, none)
      else (index.modify pos fun entry => entry.initialized guid name uid, some pos)
    | none => (index, none)
  else (index, none)

def variableIndexAddEntry : VariableIndex × Option Nat :=
  addEntry index guid name

end

def VariableEntry.withoutUnused (entry : VariableEntry) : VariableEntry :=
  if !entry.isConstraintsSet && !entry.isVariableSet then
    { entry with inUse := false, info := .zero }
  else entry

def variableIndexRemoveUnusedEntry (index : VariableIndex) (pos : Nat) : VariableIndex :=
  index.modify pos VariableEntry.withoutUnused

def VariableEntry.withVariable (entry : VariableEntry) (attributes : Attributes) : VariableEntry :=
  markDirty { entry with attributes := attributes, isVariableSet := true }

def variableIndexSetVariable (index : VariableIndex) (pos : Nat) (attributes : Attributes) :
    VariableIndex :=
  index.modify pos fun entry => entry.withVariable attributes

def VariableEntry.withoutVariable (entry : VariableEntry) : VariableEntry :=
  { markDirty entry with isVariableSet := false }

def variableIndexClearVariable (index : VariableIndex) (pos : Nat) : VariableIndex :=
  index.modify pos VariableEntry.withoutVariable

def VariableEntry.withConstraints (entry : VariableEntry) (constraints : VariableConstraints) :
    VariableEntry :=
  markDirty { entry with checkConstraints := constraints, isConstraintsSet := true }

def variableIndexSetConstraints (index : VariableIndex) (pos : Nat)
    (constraints : VariableConstraints) : VariableIndex :=
  index.modify pos fun entry => entry.withConstraints constraints

/-- The two `memcpy` calls that record a request's timestamp and fingerprint. -/
def VariableEntry.withAuthentication (entry : VariableEntry) (timestamp : EfiTime)
    (fingerprint : BitVec 256) : VariableEntry :=
  { entry with timestamp := timestamp, fingerprint := fingerprint }

end SmmVariable
