import TrustedServices.Attestation.EventLogSafety

/- Well-formed event logs: the measurements that they hold and those that are reported. -/
namespace Attestation

open Lib BoundedList

inductive DigestAlgorithm
  | sha256
  | sha384
  | sha512
  deriving DecidableEq, Repr

def DigestAlgorithm.id : DigestAlgorithm → Nat
  | .sha256 => tpmAlgSha256
  | .sha384 => tpmAlgSha384
  | .sha512 => tpmAlgSha512

def DigestAlgorithm.size (algorithm : DigestAlgorithm) : Nat := tcgEvent2DigestSize algorithm.id

structure Digest where
  algorithm : DigestAlgorithm
  bytes : Bytes
  sized : bytes.length = algorithm.size

/-- A record in the format of `TCG_PCR_EVENT2`. -/
structure Event2 where
  pcrIndex : BitVec 32
  eventType : BitVec 32
  digests : List Digest
  event : Bytes
  counted : digests.length < 2 ^ 32
  sized : event.length < 2 ^ 32

/-- The record in the format of EVENT-1, with the records that follow it. -/
structure EventLog where
  pcrIndex : BitVec 32
  eventType : BitVec 32
  digest : Bytes
  event : Bytes
  digestSized : digest.length = 20
  sized : event.length < 2 ^ 32
  records : List Event2

def Digest.encode (digest : Digest) : Bytes := leBytes 2 digest.algorithm.id ++ digest.bytes

def encodeDigests (digests : List Digest) : Bytes := digests.flatMap Digest.encode

def Event2.encode (record : Event2) : Bytes :=
  leBytes 4 record.pcrIndex.toNat ++ (leBytes 4 record.eventType.toNat ++
    (leBytes 4 record.digests.length ++ (encodeDigests record.digests ++
      (leBytes 4 record.event.length ++ record.event))))

def encodeRecords (records : List Event2) : Bytes := records.flatMap Event2.encode

def EventLog.encode (log : EventLog) : Bytes :=
  leBytes 4 log.pcrIndex.toNat ++ (leBytes 4 log.eventType.toNat ++
    (log.digest ++ (leBytes 4 log.event.length ++ (log.event ++ encodeRecords log.records))))

/-- The digest of a measurement, and the position of its id. -/
structure Measurement where
  digest : Option Bytes
  id : Option Nat
  deriving DecidableEq, Repr

def Event2.headerSize (record : Event2) : Nat :=
  event2HeaderSize + (encodeDigests record.digests).length

/-- The measurement of a record at a position: its first digest, and its event data. -/
def Event2.measurement (pos : Nat) (record : Event2) : Measurement :=
  ⟨record.digests.head?.map Digest.bytes,
    if record.event.length ≠ 0 then some (pos + record.headerSize + event2DataSize) else none⟩

/-- The measurements of the records from a position on. -/
def measurements : Nat → List Event2 → List Measurement
  | _, [] => []
  | pos, record :: rest =>
    (if record.eventType.toNat = evPostCode then [record.measurement pos] else []) ++
      measurements (pos + record.encode.length) rest

def EventLog.measurements (log : EventLog) : List Measurement :=
  Attestation.measurements (log.event.length + tcgPcrEventSize) log.records

/-- The two records differ in what their digests and event data hold, if at all. -/
structure Event2.SameShape (record other : Event2) : Prop where
  eventType : other.eventType = record.eventType
  algorithms : other.digests.map Digest.algorithm = record.digests.map Digest.algorithm
  eventSize : other.event.length = record.event.length

structure EventLog.SameShape (log other : EventLog) : Prop where
  event : other.event = log.event
  records : List.Forall₂ Event2.SameShape log.records other.records

def Claim.reported (memory : Memory Unit) (claim : Claim) : Measurement :=
  ⟨claim.measurement.digest.map fun digest =>
    (List.range digest.2).map fun i => memory () (digest.1 + i), claim.measurement.id⟩

/-- The query for boot measurements ends, with the measurements of the log up to the limit of the
vector. -/
def EventLog.Exact (log : EventLog) (limit : Nat) (beyond : Nat → UInt8) (stack : Claim) : Prop :=
  ∃ fuel result,
    (claimsRegisterQueryByCategory ClaimCategory.bootMeasurement.bits log.encode.length
      .bootMeasurement stack fuel (.empty limit) (logMemory log.encode beyond)).value = some result ∧
    result.items.map (Claim.reported (logMemory log.encode beyond)) = log.measurements.take limit

section

variable {memory : Memory Unit} {pos : Nat}

/-- The memory holds bytes from a position on. -/
def HoldsAt (memory : Memory Unit) (pos : Nat) (bytes : Bytes) : Prop :=
  ∀ i byte, bytes[i]? = some byte → memory () (pos + i) = byte

theorem holdsAt_append {front back : Bytes} :
    HoldsAt memory pos (front ++ back) ↔
      HoldsAt memory pos front ∧ HoldsAt memory (pos + front.length) back := by
  constructor
  · intro holds
    constructor
    · intro i byte found
      apply holds
      rw [List.getElem?_append_left (List.getElem?_eq_some_iff.mp found).1]
      exact found
    · intro i byte found
      have there := holds (front.length + i) byte
      rw [List.getElem?_append_right (by omega), Nat.add_sub_cancel_left] at there
      rw [Nat.add_assoc]
      exact there found
  · rintro ⟨first, second⟩ i byte found
    by_cases inFront : i < front.length
    · rw [List.getElem?_append_left inFront] at found
      exact first i byte found
    · rw [List.getElem?_append_right (by omega)] at found
      have there := second _ _ found
      rwa [show pos + front.length + (i - front.length) = pos + i by omega] at there

theorem holdsAt_read {bytes : Bytes} (holds : HoldsAt memory pos bytes) :
    ((List.range bytes.length).map fun i => memory () (pos + i)) = bytes := by
  apply List.ext_getElem?
  intro i
  rw [List.getElem?_map]
  by_cases inside : i < bytes.length
  · rw [List.getElem?_range inside, List.getElem?_eq_getElem inside]
    exact congrArg some (holds i _ (List.getElem?_eq_getElem inside))
  · rw [List.getElem?_eq_none (by rw [List.length_range]; omega), List.getElem?_eq_none (by omega)]
    rfl

theorem holdsAt_word {width value : Nat} (holds : HoldsAt memory pos (leBytes width value))
    (fits : value < 256 ^ width) : wordAt memory pos width = value := by
  have read := holdsAt_read holds
  rw [length_leBytes] at read
  show leNat ((List.range width).map fun i => memory () (pos + i)) = value
  rw [read, leNat_leBytes width value fits]

theorem holdsAt_logMemory (log : Bytes) (beyond : Nat → UInt8) :
    HoldsAt (logMemory log beyond) 0 log := by
  intro i byte found
  show log.getD (0 + i) (beyond (0 + i)) = byte
  rw [Nat.zero_add, List.getD_eq_getElem?_getD, found]
  rfl

variable {record : Event2}

@[simp] theorem DigestAlgorithm.id_lt (algorithm : DigestAlgorithm) : algorithm.id < 256 ^ 2 := by
  cases algorithm <;> decide

theorem DigestAlgorithm.digestSpace (algorithm : DigestAlgorithm) :
    digestSpace algorithm.id = 2 + algorithm.size := by
  cases algorithm <;> rfl

theorem Digest.length_encode (digest : Digest) :
    digest.encode.length = 2 + digest.algorithm.size := by
  rw [encode, List.length_append, length_leBytes, digest.sized]

/-- What the fields of a record are when they are read at its position. -/
structure Event2.ReadAt (memory : Memory Unit) (pos : Nat) (record : Event2) : Prop where
  eventType : wordAt memory (pos + 4) 4 = record.eventType.toNat
  count : wordAt memory (pos + 8) 4 = record.digests.length
  digests : HoldsAt memory (pos + event2HeaderSize) (encodeDigests record.digests)
  eventSize : wordAt memory (pos + record.headerSize) 4 = record.event.length

theorem Event2.length_encode (record : Event2) :
    record.encode.length = record.headerSize + event2DataSize + record.event.length := by
  simp only [encode, headerSize, event2HeaderSize, event2DataSize, List.length_append,
    length_leBytes]
  omega

theorem Event2.readAt (holds : HoldsAt memory pos record.encode) : record.ReadAt memory pos := by
  simp only [encode, holdsAt_append, length_leBytes] at holds
  obtain ⟨_, eventType, count, digests, eventSize, _⟩ := holds
  refine ⟨holdsAt_word eventType record.eventType.isLt, holdsAt_word count record.counted, digests,
    ?_⟩
  have size := holdsAt_word eventSize record.sized
  rwa [show pos + 4 + 4 + 4 + (encodeDigests record.digests).length = pos + record.headerSize by
    unfold headerSize event2HeaderSize
    omega] at size

/-- With one digest at most, the header size is the one that is computed. -/
theorem headerLength_single (read : record.ReadAt memory pos)
    (single : record.digests.length ≤ 1) : headerLength memory pos = record.headerSize := by
  have digests := read.digests
  unfold headerLength Event2.headerSize
  rw [read.count]
  match h : record.digests with
  | [] => rfl
  | [digest] =>
    rw [h, encodeDigests, List.flatMap_singleton, Digest.encode, holdsAt_append] at digests
    have algorithm := holdsAt_word digests.1 digest.algorithm.id_lt
    rw [List.length_singleton, digestsSpace, Nat.mul_zero, Nat.add_zero, algorithm,
      DigestAlgorithm.digestSpace, encodeDigests, List.flatMap_singleton, Digest.length_encode]
    rfl
  | _ :: _ :: _ =>
    rw [h] at single
    simp at single

/-- The first digest is found with any number of digests. -/
theorem firstDigest_reported (read : record.ReadAt memory pos) :
    ((firstDigest memory pos).map fun digest =>
      (List.range digest.2).map fun i => memory () (digest.1 + i)) =
        record.digests.head?.map Digest.bytes := by
  have digests := read.digests
  rw [firstDigest_eq, read.count]
  match h : record.digests with
  | [] => rfl
  | digest :: rest =>
    rw [h, encodeDigests, List.flatMap_cons, Digest.encode, List.append_assoc, holdsAt_append,
      holdsAt_append, length_leBytes] at digests
    obtain ⟨algorithm, bytes, _⟩ := digests
    have known : tcgEvent2DigestSize digest.algorithm.id ≠ 0 := by
      cases digest.algorithm <;> decide
    have size : tcgEvent2DigestSize digest.algorithm.id = digest.bytes.length := digest.sized.symm
    rw [if_pos (by simp), holdsAt_word algorithm digest.algorithm.id_lt, if_pos known, size]
    exact congrArg some (holdsAt_read bytes)

end

variable {memory : Memory Unit} {pos len fuel : Nat} {stack : Claim} {record : Event2}
  {vector result : ClaimVector Claim} {reports : List Measurement}

/-- The vector holds reports up to its limit. -/
def ClaimVector.Reports (memory : Memory Unit) (vector : ClaimVector Claim)
    (reports : List Measurement) : Prop :=
  vector.items.map (Claim.reported memory) = reports.take vector.limit

theorem ClaimVector.Reports.push (holds : vector.Reports memory reports) (claim : Claim) :
    (claimVectorPushBack vector claim).Reports memory (reports ++ [claim.reported memory]) := by
  unfold Reports claimVectorPushBack at *
  rw [push_limit, push_items, List.map_take, List.map_append, holds,
    take_append_take, List.map_singleton]

@[simp] theorem limit_addClaim (category : ClaimCategory) (claim : Claim) :
    (addClaim category claim vector).limit = vector.limit := by
  unfold addClaim
  split
  · exact vector.push_limit claim
  · rfl

theorem items_addClaim (category : ClaimCategory) (claim : Claim) :
    (addClaim category claim vector).items = vector.items ∨
      (addClaim category claim vector).items = vector.items ++ [claim] := by
  unfold addClaim claimVectorPushBack BoundedList.push
  split
  · split
    · exact .inr rfl
    · exact .inl rfl
  · exact .inl rfl

theorem queryCollectionByCategory_extends {category : ClaimCategory}
    (ends : (queryCollectionByCategory len category stack fuel pos vector memory).value =
      some result) : vector.items <+: result.items := by
  induction fuel generalizing pos vector with
  | zero => cases ends
  | succ fuel ih =>
    by_cases inside : pos < len
    · rw [value_queryCollectionByCategory inside] at ends
      refine List.IsPrefix.trans ?_ (ih ends)
      obtain same | more := items_addClaim category _
      · exact ⟨[], by rw [List.append_nil, same]⟩
      · exact ⟨_, more.symm⟩
    · rw [queryCollectionByCategory_done (Nat.le_of_not_lt inside)] at ends
      exact ⟨[], by rw [List.append_nil, Option.some.inj ends]⟩

/-- The claim of a record whose header size is computed as it is. -/
theorem addClaim_record (read : record.ReadAt memory pos)
    (header : headerLength memory pos = record.headerSize)
    (inside : pos + record.headerSize + event2DataSize ≤ len)
    (holds : vector.Reports memory reports) :
    (addClaim .bootMeasurement (claimAt memory pos len stack) vector).Reports memory
      (reports ++ if record.eventType.toNat = evPostCode then [record.measurement pos] else []) := by
  unfold claimAt
  rw [read.eventType]
  by_cases post : record.eventType.toNat = evPostCode
  · have pushed := holds.push ⟨.bootMeasurement, .swComponent, .measurement, pos,
      ⟨measurementId memory (pos + headerLength memory pos) len, firstDigest memory pos⟩⟩
    rw [if_pos post, if_pos post]
    have same : Claim.reported memory ⟨.bootMeasurement, .swComponent, .measurement, pos,
        ⟨measurementId memory (pos + headerLength memory pos) len, firstDigest memory pos⟩⟩ =
          record.measurement pos := by
      unfold Claim.reported Event2.measurement
      rw [firstDigest_reported read, header, measurementId_inside inside, read.eventSize]
    rwa [same] at pushed
  · rw [if_neg post, if_neg post, List.append_nil]
    exact holds

theorem queryCollectionByCategory_single (later : pos ≠ 0) (single : record.digests.length ≤ 1)
    (holds : HoldsAt memory pos record.encode) (inside : pos + record.encode.length ≤ len)
    (soFar : vector.Reports memory reports) :
    ∃ next : ClaimVector Claim, next.limit = vector.limit ∧
      next.Reports memory
        (reports ++ if record.eventType.toNat = evPostCode then [record.measurement pos] else []) ∧
      (queryCollectionByCategory len .bootMeasurement stack (fuel + 1) pos vector memory).value =
        (queryCollectionByCategory len .bootMeasurement stack fuel (pos + record.encode.length) next
          memory).value := by
  have read := Event2.readAt holds
  have header := headerLength_single read single
  have length := record.length_encode
  have fits : pos + event2HeaderSize ≤ len := by
    unfold Event2.headerSize at length
    omega
  have next : pos + recordLength memory pos = pos + record.encode.length := by
    unfold recordLength
    rw [header, read.eventSize, length]
  refine ⟨addClaim .bootMeasurement (claimAt memory pos len stack) vector, limit_addClaim _ _,
    addClaim_record read header (by omega) soFar, ?_⟩
  rw [value_queryCollectionByCategory (by unfold event2HeaderSize at fits; omega),
    eventLogIteratorNext_later later, if_pos fits, eventLogIteratorCurrent_later later fits, next]

theorem encodeRecords_cons (record : Event2) (rest : List Event2) :
    encodeRecords (record :: rest) = record.encode ++ encodeRecords rest :=
  List.flatMap_cons

section

variable {records : List Event2} (later : pos ≠ 0)
  (single : ∀ record ∈ records, record.digests.length ≤ 1)
  (holds : HoldsAt memory pos (encodeRecords records))

include later single holds

theorem queryCollectionByCategory_records
    (ending : pos + (encodeRecords records).length = len) (soFar : vector.Reports memory reports) :
    ∃ result : ClaimVector Claim, result.limit = vector.limit ∧
      result.Reports memory (reports ++ measurements pos records) ∧
      (queryCollectionByCategory len .bootMeasurement stack (records.length + 1) pos vector
        memory).value = some result := by
  induction records generalizing pos vector reports with
  | nil =>
    refine ⟨vector, rfl, by rwa [measurements, List.append_nil], ?_⟩
    rw [List.length_nil, queryCollectionByCategory_done (by rw [← ending]; simp [encodeRecords])]
    rfl
  | cons record rest ih =>
    rw [encodeRecords_cons, holdsAt_append] at holds
    rw [encodeRecords_cons, List.length_append] at ending
    obtain ⟨thisSingle, restSingle⟩ := List.forall_mem_cons.mp single
    obtain ⟨next, limit, nextReports, round⟩ :=
      @queryCollectionByCategory_single memory pos len (rest.length + 1) stack record vector reports
        later thisSingle holds.1 (by omega) soFar
    obtain ⟨result, resultLimit, resultReports, ended⟩ :=
      ih (by omega) restSingle holds.2 (by omega) nextReports
    refine ⟨result, resultLimit.trans limit, ?_, ?_⟩
    · rwa [measurements, ← List.append_assoc]
    · rw [List.length_cons, round, ended]

/-- A loop that ends has passed the records with one digest at most that come first. -/
theorem queryCollectionByCategory_passes
    (inside : pos + (encodeRecords records).length < len) (soFar : vector.Reports memory reports)
    (ends : (queryCollectionByCategory len .bootMeasurement stack fuel pos vector memory).value =
      some result) : ∃ (rest : Nat) (next : ClaimVector Claim), next.limit = vector.limit ∧
      next.Reports memory (reports ++ measurements pos records) ∧
      (queryCollectionByCategory len .bootMeasurement stack rest
        (pos + (encodeRecords records).length) next memory).value = some result := by
  induction records generalizing pos vector reports fuel with
  | nil => exact ⟨fuel, vector, rfl, by rwa [measurements, List.append_nil], ends⟩
  | cons record rest ih =>
    rw [encodeRecords_cons, holdsAt_append] at holds
    rw [encodeRecords_cons, List.length_append] at inside
    obtain ⟨thisSingle, restSingle⟩ := List.forall_mem_cons.mp single
    cases fuel with
    | zero => cases ends
    | succ fuel =>
      obtain ⟨next, limit, nextReports, round⟩ :=
        @queryCollectionByCategory_single memory pos len fuel stack record vector reports later
          thisSingle holds.1 (by omega) soFar
      rw [round] at ends
      obtain ⟨remaining, last, lastLimit, lastReports, lastEnds⟩ :=
        ih (by omega) restSingle holds.2 (by omega) nextReports ends
      refine ⟨remaining, last, lastLimit.trans limit, ?_, ?_⟩
      · rwa [measurements, ← List.append_assoc]
      · rwa [encodeRecords_cons, List.length_append, ← Nat.add_assoc]

end

variable {log : EventLog} {limit : Nat}

theorem EventLog.length_encode (log : EventLog) :
    log.encode.length =
      log.event.length + tcgPcrEventSize + (encodeRecords log.records).length := by
  simp only [encode, tcgPcrEventSize, List.length_append, length_leBytes, log.digestSized]
  omega

section

variable (holds : HoldsAt memory 0 log.encode)

include holds

theorem EventLog.readAt :
    wordAt memory 28 4 = log.event.length ∧
      HoldsAt memory (log.event.length + tcgPcrEventSize) (encodeRecords log.records) := by
  simp only [encode, holdsAt_append, length_leBytes, log.digestSized] at holds
  obtain ⟨_, _, _, eventSize, _, records⟩ := holds
  refine ⟨holdsAt_word eventSize log.sized, ?_⟩
  rwa [show 0 + 4 + 4 + 20 + 4 + log.event.length = log.event.length + tcgPcrEventSize by
    unfold tcgPcrEventSize
    omega] at records

theorem EventLog.query_first :
    (claimsRegisterQueryByCategory ClaimCategory.bootMeasurement.bits log.encode.length
      .bootMeasurement stack (fuel + 1) (.empty limit) memory).value =
      (queryCollectionByCategory log.encode.length .bootMeasurement stack fuel
        (log.event.length + tcgPcrEventSize) (.empty limit) memory).value := by
  have length := log.length_encode
  have inside : 0 < log.encode.length := by
    unfold tcgPcrEventSize at length
    omega
  unfold claimsRegisterQueryByCategory
  rw [if_pos ⟨by decide, Nat.ne_of_gt inside⟩, value_queryCollectionByCategory inside,
    eventLogIteratorNext_first, eventLogIteratorCurrent_first inside, (readAt holds).1]
  rfl

theorem EventLog.query_behind_first
    (ends : (claimsRegisterQueryByCategory ClaimCategory.bootMeasurement.bits log.encode.length
      .bootMeasurement stack fuel (.empty limit) memory).value = some result) :
    ∃ rest, (queryCollectionByCategory log.encode.length .bootMeasurement stack rest
      (log.event.length + tcgPcrEventSize) (.empty limit) memory).value = some result := by
  cases fuel with
  | zero =>
    cases ends
  | succ fuel => exact ⟨fuel, (query_first holds).symm.trans ends⟩

end

/-- A log with one digest at most in each record is reported as it is. -/
theorem EventLog.exact_single (single : ∀ record ∈ log.records, record.digests.length ≤ 1)
    (limit : Nat) (beyond : Nat → UInt8) (stack : Claim) : log.Exact limit beyond stack := by
  have holds := holdsAt_logMemory log.encode beyond
  have later : log.event.length + tcgPcrEventSize ≠ 0 := by
    unfold tcgPcrEventSize
    omega
  have nothing : ClaimVector.Reports (logMemory log.encode beyond) (.empty limit) [] :=
    List.take_nil.symm
  obtain ⟨result, sameLimit, reports, ended⟩ :=
    @queryCollectionByCategory_records _ _ _ stack _ _ _ later single (readAt holds).2
      log.length_encode.symm nothing
  refine ⟨log.records.length + 2, result, (query_first holds).trans ended, ?_⟩
  unfold ClaimVector.Reports at reports
  rwa [sameLimit, List.nil_append] at reports

end Attestation
