import TrustedServices.Lib.BoundedList
import TrustedServices.Lib.Memory

/- The event log as a source of claims. Positions are offsets from the start of the log. -/
namespace Attestation

open Lib

inductive ClaimCategory
  | none
  | device
  | bootMeasurement
  | verificationService
  deriving DecidableEq, Repr

def ClaimCategory.bits : ClaimCategory → BitVec 32
  | .none => 0
  | .device => 1
  | .bootMeasurement => 2
  | .verificationService => 4

inductive ClaimSubjectId
  | none
  | swComponent
  | other
  deriving DecidableEq, Repr

inductive ClaimVariantId
  | unsupported
  | measurement
  | other
  deriving DecidableEq, Repr

/-- The digest is its position and length, the id the position of its string. -/
structure MeasurementClaimVariant where
  id : Option Nat
  digest : Option (Nat × Nat)
  deriving DecidableEq, Repr

structure Claim where
  category : ClaimCategory
  subjectId : ClaimSubjectId
  variantId : ClaimVariantId
  rawData : Nat
  measurement : MeasurementClaimVariant
  deriving DecidableEq, Repr

def Claim.blank : Claim := ⟨.none, .none, .unsupported, 0, ⟨none, none⟩⟩

/-- A vector that cannot hold more claims than its limit. -/
abbrev ClaimVector := BoundedList

def claimVectorPushBack {Claim : Type} (vector : ClaimVector Claim) (claim : Claim) :
    ClaimVector Claim := vector.push claim

def evPostCode : Nat := 1
def evNoAction : Nat := 3

def tpmAlgSha256 : Nat := 0x000B
def tpmAlgSha384 : Nat := 0x000C
def tpmAlgSha512 : Nat := 0x000D

/-- The sizes of `event2_header_t`, `tpmt_ha`, `event2_data_t` and `tcg_pcr_event_t` without the
parts of variable length. -/
def event2HeaderSize : Nat := 12
def tpmtHaSize : Nat := 2
def event2DataSize : Nat := 4
def tcgPcrEventSize : Nat := 32

abbrev LogReader := Accessing Unit

def loadLe (offset width : Nat) : LogReader Nat := Accessing.loadWord () offset width

def tcgEvent2DigestSize (algorithmId : Nat) : Nat :=
  if algorithmId = tpmAlgSha256 then 32
  else if algorithmId = tpmAlgSha384 then 48
  else if algorithmId = tpmAlgSha512 then 64
  else 0

def digestSpace (algorithmId : Nat) : Nat :=
  if tcgEvent2DigestSize algorithmId ≠ 0 then tpmtHaSize + tcgEvent2DigestSize algorithmId else 0

/-- The loop over the digests. The digest with number `i` is taken to be at `digests[i]`, which
has the size of its algorithm id only. -/
def addDigests (header : Nat) : Nat → Nat → Nat → LogReader Nat
  | 0, _, headerLen => pure headerLen
  | count + 1, i, headerLen => do
      let algorithmId ← loadLe (header + event2HeaderSize + tpmtHaSize * i) 2
      addDigests header count (i + 1) (headerLen + digestSpace algorithmId)

def tcgEvent2HeaderSize (header limit : Nat) : LogReader Nat :=
  if header + event2HeaderSize ≤ limit then do
    let digestCount ← loadLe (header + 8) 4
    addDigests header digestCount 0 event2HeaderSize
  else pure 0

def tcgEvent2ExtractDigest (header : Nat) : LogReader (Option (Nat × Nat)) := do
  let digestCount ← loadLe (header + 8) 4
  if digestCount > 0 then do
    let algorithmId ← loadLe (header + event2HeaderSize) 2
    let digestSize := tcgEvent2DigestSize algorithmId
    pure (if digestSize ≠ 0 then some (header + event2HeaderSize + tpmtHaSize, digestSize) else none)
  else pure none

def tcgEvent1RecordSize (header : Nat) : LogReader Nat := do
  let eventSize ← loadLe (header + 28) 4
  pure (eventSize + tcgPcrEventSize)

def tcgEvent2ExtractMeasurementId (eventData limit : Nat) : LogReader (Option Nat) :=
  if eventData + event2DataSize ≤ limit then do
    let idSize ← loadLe eventData 4
    pure (if idSize ≠ 0 then some (eventData + event2DataSize) else none)
  else pure none

def eventLogIteratorIsDone (pos limit : Nat) : Bool := pos ≥ limit

/-- The position of the next record. A record with a problem is not left. -/
def eventLogIteratorNext (pos limit : Nat) : LogReader Nat :=
  if pos = 0 then do
    let recordLen ← tcgEvent1RecordSize pos
    pure (if recordLen = 0 then pos else pos + recordLen)
  else do
    let headerLen ← tcgEvent2HeaderSize pos limit
    if headerLen = 0 then pure pos
    else do
      let eventSize ← loadLe (pos + headerLen) 4
      pure (pos + (headerLen + event2DataSize + eventSize))

def recordClaim (eventType : Nat) (eventData pos limit : Nat) (claim : Claim) : LogReader Claim :=
  if eventType = evPostCode then do
    let digest ← tcgEvent2ExtractDigest pos
    let id ← tcgEvent2ExtractMeasurementId eventData limit
    pure ⟨.bootMeasurement, .swComponent, .measurement, pos, ⟨id, digest⟩⟩
  else pure { claim with category := .none, subjectId := .none, variantId := .unsupported }

/-- The claim at a position. If the header has a problem then only its position is set, and the rest
is what was there before. -/
def eventLogIteratorCurrent (pos limit : Nat) (claim : Claim) : LogReader (Bool × Claim) :=
  if eventLogIteratorIsDone pos limit then pure (false, claim)
  else if pos = 0 then do
    let filled ← recordClaim evNoAction 0 pos limit { claim with rawData := pos }
    pure (true, filled)
  else do
    let headerLen ← tcgEvent2HeaderSize pos limit
    if headerLen = 0 then pure (false, { claim with rawData := pos })
    else do
      let eventType ← loadLe (pos + 4) 4
      let filled ← recordClaim eventType (pos + headerLen) pos limit { claim with rawData := pos }
      pure (true, filled)

def addClaim (category : ClaimCategory) (claim : Claim) (result : ClaimVector Claim) :
    ClaimVector Claim :=
  if claim.category = category then claimVectorPushBack result claim else result

/-- The loop over a collection. `stack` is what an uninitialized claim holds. -/
def queryCollectionByCategory (limit : Nat) (category : ClaimCategory) (stack : Claim) :
    Nat → Nat → ClaimVector Claim → LogReader (Option (ClaimVector Claim))
  | 0, _, _ => pure none
  | fuel + 1, pos, result =>
    if eventLogIteratorIsDone pos limit then pure (some result)
    else do
      let current ← eventLogIteratorCurrent pos limit stack
      let next ← eventLogIteratorNext pos limit
      queryCollectionByCategory limit category stack fuel next (addClaim category current.2 result)

/-- The query of a register whose source is an event log. -/
def claimsRegisterQueryByCategory (categoryMap : BitVec 32) (eventLogLen : Nat)
    (category : ClaimCategory) (stack : Claim) (fuel : Nat) (result : ClaimVector Claim) :
    LogReader (Option (ClaimVector Claim)) :=
  if categoryMap &&& category.bits ≠ 0 ∧ eventLogLen ≠ 0 then
    queryCollectionByCategory eventLogLen category stack fuel 0 result
  else pure (some result)

section

variable {memory : Memory Unit}

def wordAt (memory : Memory Unit) (offset width : Nat) : Nat := (loadLe offset width memory).value

@[simp] theorem value_loadLe (offset width : Nat) :
    (loadLe offset width memory).value = wordAt memory offset width := rfl

@[simp] theorem memory_loadLe (offset width : Nat) : (loadLe offset width memory).memory = memory :=
  rfl

variable {bound : Unit → Nat} {limit fuel pos : Nat} {result : ClaimVector Claim} {stack : Claim}

@[simp] theorem within_loadLe (offset width : Nat) :
    (loadLe offset width).Within bound memory ↔ width = 0 ∨ offset + width ≤ bound () :=
  Accessing.within_loadWord

/-- The space that the loop over the digests adds. -/
def digestsSpace (memory : Memory Unit) (header : Nat) : Nat → Nat → Nat
  | 0, _ => 0
  | count + 1, i =>
    digestSpace (wordAt memory (header + event2HeaderSize + tpmtHaSize * i) 2) +
      digestsSpace memory header count (i + 1)

/-- The header size of a record, as the loop computes it. -/
def headerLength (memory : Memory Unit) (header : Nat) : Nat :=
  event2HeaderSize + digestsSpace memory header (wordAt memory (header + 8) 4) 0

section

variable (header count i headerLen : Nat)

include header count i headerLen

theorem addDigests_eq :
    (addDigests header count i headerLen memory).value =
        headerLen + digestsSpace memory header count i ∧
      (addDigests header count i headerLen memory).memory = memory := by
  induction count generalizing i headerLen with
  | zero => exact ⟨rfl, rfl⟩
  | succ count ih =>
    obtain ⟨value, same⟩ := ih (i + 1)
      (headerLen + digestSpace (wordAt memory (header + event2HeaderSize + tpmtHaSize * i) 2))
    constructor
    · rw [digestsSpace, ← Nat.add_assoc]
      exact value
    · exact same

@[simp] theorem value_addDigests :
    (addDigests header count i headerLen memory).value =
      headerLen + digestsSpace memory header count i :=
  (addDigests_eq header count i headerLen).1

@[simp] theorem memory_addDigests :
    (addDigests header count i headerLen memory).memory = memory :=
  (addDigests_eq header count i headerLen).2

theorem within_addDigests :
    (addDigests header count i headerLen).Within bound memory ↔
      count = 0 ∨ header + event2HeaderSize + tpmtHaSize * (i + count) ≤ bound () := by
  induction count generalizing i headerLen with
  | zero => simp [addDigests]
  | succ count ih =>
    rw [addDigests, Accessing.within_bind, within_loadLe, memory_loadLe, ih]
    unfold tpmtHaSize
    omega

end

theorem tcgEvent2HeaderSize_eq (header limit : Nat) :
    (tcgEvent2HeaderSize header limit memory).value =
        (if header + event2HeaderSize ≤ limit then headerLength memory header else 0) ∧
      (tcgEvent2HeaderSize header limit memory).memory = memory := by
  unfold tcgEvent2HeaderSize headerLength
  split
  · exact ⟨by simp, by simp⟩
  · exact ⟨rfl, rfl⟩

@[simp] theorem value_tcgEvent2HeaderSize (header limit : Nat) :
    (tcgEvent2HeaderSize header limit memory).value =
      if header + event2HeaderSize ≤ limit then headerLength memory header else 0 :=
  (tcgEvent2HeaderSize_eq header limit).1

@[simp] theorem memory_tcgEvent2HeaderSize (header limit : Nat) :
    (tcgEvent2HeaderSize header limit memory).memory = memory :=
  (tcgEvent2HeaderSize_eq header limit).2

theorem headerLength_pos (header : Nat) : headerLength memory header ≠ 0 := by
  unfold headerLength event2HeaderSize
  omega

def firstDigest (memory : Memory Unit) (header : Nat) : Option (Nat × Nat) :=
  (tcgEvent2ExtractDigest header memory).value

@[simp] theorem memory_tcgEvent2ExtractDigest (header : Nat) :
    (tcgEvent2ExtractDigest header memory).memory = memory := by
  unfold tcgEvent2ExtractDigest
  rw [Accessing.memory_bind, memory_loadLe]
  split
  · rfl
  · rfl

def measurementId (memory : Memory Unit) (eventData limit : Nat) : Option Nat :=
  (tcgEvent2ExtractMeasurementId eventData limit memory).value

@[simp] theorem memory_tcgEvent2ExtractMeasurementId (eventData limit : Nat) :
    (tcgEvent2ExtractMeasurementId eventData limit memory).memory = memory := by
  unfold tcgEvent2ExtractMeasurementId
  split
  · rfl
  · rfl

@[simp] theorem memory_eventLogIteratorNext (pos limit : Nat) :
    (eventLogIteratorNext pos limit memory).memory = memory := by
  unfold eventLogIteratorNext
  split
  · rfl
  · rw [Accessing.memory_bind, memory_tcgEvent2HeaderSize]
    split
    · rfl
    · rfl

@[simp] theorem memory_recordClaim (eventType eventData pos limit : Nat) (claim : Claim) :
    (recordClaim eventType eventData pos limit claim memory).memory = memory := by
  unfold recordClaim
  split
  · simp
  · rfl

@[simp] theorem memory_eventLogIteratorCurrent (pos limit : Nat) (claim : Claim) :
    (eventLogIteratorCurrent pos limit claim memory).memory = memory := by
  unfold eventLogIteratorCurrent
  split_ifs
  · rfl
  · simp
  · rw [Accessing.memory_bind, memory_tcgEvent2HeaderSize]
    split
    · rfl
    · simp

theorem value_queryCollectionByCategory {category : ClaimCategory} (inside : pos < limit) :
    (queryCollectionByCategory limit category stack (fuel + 1) pos result memory).value =
      (queryCollectionByCategory limit category stack fuel
        (eventLogIteratorNext pos limit memory).value
        (addClaim category (eventLogIteratorCurrent pos limit stack memory).value.2 result)
        memory).value := by
  have going : ¬eventLogIteratorIsDone pos limit = true := by
    simpa [eventLogIteratorIsDone] using inside
  rw [queryCollectionByCategory, if_neg going]
  simp only [Accessing.value_bind, memory_eventLogIteratorCurrent, memory_eventLogIteratorNext]

theorem queryCollectionByCategory_done {category : ClaimCategory} (behind : limit ≤ pos) :
    queryCollectionByCategory limit category stack (fuel + 1) pos result = pure (some result) := by
  have done : eventLogIteratorIsDone pos limit = true := by
    simpa [eventLogIteratorIsDone] using behind
  rw [queryCollectionByCategory, if_pos done]

end

section

variable {memory : Memory Unit} {pos limit : Nat} {stack : Claim}

theorem eventLogIteratorNext_first :
    (eventLogIteratorNext 0 limit memory).value = wordAt memory 28 4 + tcgPcrEventSize := by
  show (if wordAt memory 28 4 + tcgPcrEventSize = 0 then 0
    else 0 + (wordAt memory 28 4 + tcgPcrEventSize)) = _
  rw [if_neg (by unfold tcgPcrEventSize; omega), Nat.zero_add]

/-- The length of the record at a position behind the first record. -/
def recordLength (memory : Memory Unit) (pos : Nat) : Nat :=
  headerLength memory pos + event2DataSize + wordAt memory (pos + headerLength memory pos) 4

theorem eventLogIteratorNext_later (later : pos ≠ 0) :
    (eventLogIteratorNext pos limit memory).value =
      if pos + event2HeaderSize ≤ limit then pos + recordLength memory pos else pos := by
  unfold eventLogIteratorNext
  rw [if_neg later, Accessing.value_bind, value_tcgEvent2HeaderSize, memory_tcgEvent2HeaderSize]
  by_cases fits : pos + event2HeaderSize ≤ limit
  · rw [if_pos fits, if_pos fits, if_neg (headerLength_pos pos)]
    rfl
  · rw [if_neg fits, if_neg fits, if_pos rfl]
    rfl

theorem eventLogIteratorCurrent_first (inside : 0 < limit) :
    (eventLogIteratorCurrent 0 limit stack memory).value =
      (true, { stack with
        rawData := 0, category := .none, subjectId := .none, variantId := .unsupported }) := by
  have going : ¬eventLogIteratorIsDone 0 limit = true := by
    simp only [eventLogIteratorIsDone, decide_eq_true_eq]
    omega
  unfold eventLogIteratorCurrent
  rw [if_neg going, if_pos rfl]
  rfl

/-- The claim of a record behind the first record, if its header has no problem. -/
def claimAt (memory : Memory Unit) (pos limit : Nat) (stack : Claim) : Claim :=
  if wordAt memory (pos + 4) 4 = evPostCode then
    ⟨.bootMeasurement, .swComponent, .measurement, pos,
      ⟨measurementId memory (pos + headerLength memory pos) limit, firstDigest memory pos⟩⟩
  else
    { stack with
      rawData := pos, category := .none, subjectId := .none, variantId := .unsupported }

theorem eventLogIteratorCurrent_later (later : pos ≠ 0) (fits : pos + event2HeaderSize ≤ limit) :
    (eventLogIteratorCurrent pos limit stack memory).value =
      (true, claimAt memory pos limit stack) := by
  have going : ¬eventLogIteratorIsDone pos limit = true := by
    unfold event2HeaderSize at fits
    simp only [eventLogIteratorIsDone, decide_eq_true_eq]
    omega
  unfold eventLogIteratorCurrent
  rw [if_neg going, if_neg later, Accessing.value_bind, value_tcgEvent2HeaderSize,
    memory_tcgEvent2HeaderSize, if_pos fits, if_neg (headerLength_pos pos)]
  simp only [Accessing.value_bind, value_loadLe, memory_loadLe, Accessing.value_pure]
  unfold recordClaim claimAt
  by_cases post : wordAt memory (pos + 4) 4 = evPostCode
  · rw [if_pos post, if_pos post]
    simp only [Accessing.value_bind, memory_tcgEvent2ExtractDigest, Accessing.value_pure]
    rfl
  · rw [if_neg post, if_neg post]
    rfl

end

end Attestation
