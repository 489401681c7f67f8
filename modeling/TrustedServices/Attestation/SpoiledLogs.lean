import TrustedServices.Attestation.EventLogExactness

/- Records with several digests, for which bytes of a digest are reported as an id. -/
namespace Attestation

open Lib

variable {memory : Memory Unit} {pos : Nat}

def DigestAlgorithm.zeroDigest (algorithm : DigestAlgorithm) : Digest :=
  ⟨algorithm, List.replicate algorithm.size 0, List.length_replicate⟩

/-- A digest that reads as a record with a measurement, from the position on that the walk comes to
if it takes the digest for event data. -/
def DigestAlgorithm.markedDigest (algorithm : DigestAlgorithm) : Digest :=
  ⟨algorithm, ((List.replicate algorithm.size 0).set (algorithm.id + 6) 1).set (algorithm.id + 14) 1,
    by simp⟩

/-- Digests of given algorithms, the first one behind `words` pairs of bytes being marked. -/
def spoiledDigests : Nat → List DigestAlgorithm → List Digest
  | _, [] => []
  | words, algorithm :: rest =>
    if words = 0 then algorithm.markedDigest :: rest.map DigestAlgorithm.zeroDigest
    else algorithm.zeroDigest :: spoiledDigests (words - (1 + algorithm.size / 2)) rest

theorem algorithms_spoiledDigests (words : Nat) (algorithms : List DigestAlgorithm) :
    (spoiledDigests words algorithms).map Digest.algorithm = algorithms := by
  induction algorithms generalizing words with
  | nil => rfl
  | cons algorithm rest ih =>
    rw [spoiledDigests]
    split
    · rw [List.map_cons, List.map_map]
      exact congrArg (algorithm :: ·) (List.map_id rest)
    · rw [List.map_cons, ih]
      rfl

section

variable (record : Event2)

def Event2.spoiled : Event2 :=
  { record with
    digests := spoiledDigests record.digests.length (record.digests.map Digest.algorithm)
    counted := by
      have same := congrArg List.length (algorithms_spoiledDigests record.digests.length
        (record.digests.map Digest.algorithm))
      rw [List.length_map, List.length_map] at same
      rw [same]
      exact record.counted }

theorem Event2.sameShape_spoiled : record.SameShape record.spoiled :=
  ⟨rfl, algorithms_spoiledDigests _ _, rfl⟩

theorem Event2.sameShape_refl : record.SameShape record := ⟨rfl, rfl, rfl⟩

theorem Event2.length_digests_spoiled : record.spoiled.digests.length = record.digests.length := by
  have same := congrArg List.length record.sameShape_spoiled.algorithms
  rwa [List.length_map, List.length_map] at same

end

theorem holdsAt_slice {bytes : Bytes} {offset width : Nat} (holds : HoldsAt memory pos bytes)
    (inside : offset + width ≤ bytes.length) :
    wordAt memory (pos + offset) width = leNat (slice bytes offset width) := by
  have part : HoldsAt memory (pos + offset) (slice bytes offset width) := by
    intro i byte found
    unfold slice at found
    rw [List.getElem?_take] at found
    split_ifs at found ⊢
    rw [List.getElem?_drop] at found
    rw [Nat.add_assoc]
    exact holds _ _ found
  have read := holdsAt_read part
  rw [length_slice _ _ _ inside] at read
  exact congrArg leNat read

/-- Pairs of zero bytes add nothing to the header size. -/
theorem digestsSpace_skip {header words i skipped : Nat}
    (zero : ∀ j < skipped, wordAt memory (header + event2HeaderSize + tpmtHaSize * (i + j)) 2 = 0) :
    digestsSpace memory header words i =
      digestsSpace memory header (words - skipped) (i + skipped) := by
  induction skipped generalizing words i with
  | zero => rfl
  | succ skipped ih =>
    cases words with
    | zero => rw [Nat.zero_sub, digestsSpace, digestsSpace]
    | succ words =>
      have first := zero 0 (by omega)
      have rest : ∀ j < skipped,
          wordAt memory (header + event2HeaderSize + tpmtHaSize * (i + 1 + j)) 2 = 0 := by
        intro j small
        have later := zero (j + 1) (by omega)
        rwa [show i + (j + 1) = i + 1 + j by omega] at later
      rw [Nat.add_zero] at first
      rw [digestsSpace, first, ih rest, Nat.add_sub_add_right,
        show i + (skipped + 1) = i + 1 + skipped by omega]
      exact Nat.zero_add _

theorem wordAt_zeros {size j : Nat} (holds : HoldsAt memory pos (List.replicate size 0))
    (inside : 2 * j + 2 ≤ size) : wordAt memory (pos + 2 * j) 2 = 0 := by
  rw [holdsAt_slice holds (by rw [List.length_replicate]; exact inside)]
  unfold slice
  rw [List.drop_replicate, List.take_replicate, show min 2 (size - 2 * j) = 2 by omega]
  rfl

theorem encodeDigests_cons (digest : Digest) (rest : List Digest) :
    encodeDigests (digest :: rest) = digest.encode ++ encodeDigests rest :=
  List.flatMap_cons

theorem DigestAlgorithm.size_even (algorithm : DigestAlgorithm) :
    2 * (algorithm.size / 2) = algorithm.size ∧ 32 ≤ algorithm.size := by
  cases algorithm <;> decide

/-- The computed header size stops in front of the marked digest. -/
theorem digestsSpace_spoiled {header words bound i : Nat} {algorithms : List DigestAlgorithm}
    (short : words ≤ 17 * bound) (long : bound < algorithms.length)
    (holds : HoldsAt memory (header + event2HeaderSize + tpmtHaSize * i)
      (encodeDigests (spoiledDigests words algorithms))) :
    ∃ algorithm before behind, spoiledDigests words algorithms =
        before ++ DigestAlgorithm.markedDigest algorithm :: behind ∧
      digestsSpace memory header words i = (encodeDigests before).length := by
  induction algorithms generalizing words bound i with
  | nil => cases long
  | cons algorithm rest ih =>
    rw [spoiledDigests] at holds ⊢
    by_cases stops : words = 0
    · subst stops
      refine ⟨algorithm, [], rest.map DigestAlgorithm.zeroDigest, ?_, rfl⟩
      rw [if_pos rfl, List.nil_append]
    · obtain ⟨words, rfl⟩ := Nat.exists_eq_succ_of_ne_zero stops
      obtain ⟨even, large⟩ := algorithm.size_even
      rw [if_neg stops, encodeDigests_cons, holdsAt_append, Digest.length_encode] at holds
      obtain ⟨first, later⟩ := holds
      rw [Digest.encode, holdsAt_append, length_leBytes] at first
      have counted := holdsAt_word first.1 algorithm.id_lt
      have zero : ∀ j < algorithm.size / 2,
          wordAt memory (header + event2HeaderSize + tpmtHaSize * (i + 1 + j)) 2 = 0 := by
        intro j small
        have word := wordAt_zeros (j := j) first.2 (by omega)
        rwa [show header + event2HeaderSize + tpmtHaSize * i + 2 + 2 * j =
          header + event2HeaderSize + tpmtHaSize * (i + 1 + j) by
            unfold tpmtHaSize
            omega] at word
      have start : header + event2HeaderSize + tpmtHaSize * i + (2 + algorithm.size) =
          header + event2HeaderSize + tpmtHaSize * (i + 1 + algorithm.size / 2) := by
        unfold tpmtHaSize
        omega
      have rest : HoldsAt memory
          (header + event2HeaderSize + tpmtHaSize * (i + 1 + algorithm.size / 2))
          (encodeDigests (spoiledDigests (words + 1 - (1 + algorithm.size / 2)) rest)) := by
        rw [← start]
        exact later
      rw [List.length_cons] at long
      obtain ⟨marked, before, behind, split, space⟩ := @ih _ (bound - 1) _ (by omega) (by omega) rest
      refine ⟨marked, algorithm.zeroDigest :: before, behind, ?_, ?_⟩
      · rw [if_neg stops, split]
        rfl
      · have remaining : words + 1 - (1 + algorithm.size / 2) = words - algorithm.size / 2 := by
          omega
        rw [remaining] at space
        rw [digestsSpace, counted, digestsSpace_skip zero, space, DigestAlgorithm.digestSpace,
          encodeDigests_cons, List.length_append, Digest.length_encode]

variable {len fuel : Nat} {stack : Claim} {record : Event2} {vector result : ClaimVector Claim}

theorem DigestAlgorithm.markedDigest_read {algorithm : DigestAlgorithm}
    (holds : HoldsAt memory pos algorithm.markedDigest.encode) :
    wordAt memory pos 4 = algorithm.id ∧
      wordAt memory (pos + (algorithm.id + 4) + 4) 4 = evPostCode ∧
      wordAt memory (pos + (algorithm.id + 4) + 8) 4 = 0 ∧
      wordAt memory (pos + (algorithm.id + 4) + event2HeaderSize) 4 = 1 := by
  have first := @holdsAt_slice _ _ _ 0 4 holds (by cases algorithm <;> decide)
  have post := @holdsAt_slice _ _ _ (algorithm.id + 4 + 4) 4 holds (by cases algorithm <;> decide)
  have count := @holdsAt_slice _ _ _ (algorithm.id + 4 + 8) 4 holds (by cases algorithm <;> decide)
  have event := @holdsAt_slice _ _ _ (algorithm.id + 4 + event2HeaderSize) 4 holds
    (by cases algorithm <;> decide)
  rw [Nat.add_zero] at first
  rw [← Nat.add_assoc] at post count event
  rw [first, post, count, event]
  cases algorithm <;> decide

theorem encodeDigests_append (front back : List Digest) :
    encodeDigests (front ++ back) = encodeDigests front ++ encodeDigests back :=
  List.flatMap_append

/-- The header of a spoiled record, as it is computed, ends in front of a marked digest. -/
theorem headerLength_spoiled (several : 2 ≤ record.digests.length)
    (read : record.spoiled.ReadAt memory pos) :
    ∃ algorithm : DigestAlgorithm,
      HoldsAt memory (pos + headerLength memory pos) algorithm.markedDigest.encode ∧
        headerLength memory pos + 2 + algorithm.size ≤ record.spoiled.headerSize := by
  have digests := read.digests
  obtain ⟨algorithm, before, behind, split, space⟩ :=
    @digestsSpace_spoiled memory pos record.digests.length (record.digests.length - 1) 0
      (record.digests.map Digest.algorithm) (by omega) (by rw [List.length_map]; omega) digests
  have header : headerLength memory pos = event2HeaderSize + (encodeDigests before).length := by
    unfold headerLength
    rw [read.count, record.length_digests_spoiled, space]
  have spoiled : encodeDigests record.spoiled.digests = encodeDigests before ++
      (algorithm.markedDigest.encode ++ encodeDigests behind) := by
    rw [← encodeDigests_cons, ← encodeDigests_append, ← split]
    rfl
  rw [spoiled, holdsAt_append, holdsAt_append, Nat.add_assoc, ← header] at digests
  refine ⟨algorithm, digests.2.1, ?_⟩
  unfold Event2.headerSize
  rw [spoiled, header, List.length_append, List.length_append, Digest.length_encode]
  show event2HeaderSize + (encodeDigests before).length + 2 + algorithm.size ≤
    event2HeaderSize + ((encodeDigests before).length + (2 + algorithm.size + _))
  omega

/-- A record that is taken for a measurement leaves its claim in a vector with room. -/
theorem queryCollectionByCategory_pushes (later : pos ≠ 0) (fits : pos + event2HeaderSize ≤ len)
    (post : wordAt memory (pos + 4) 4 = evPostCode) (room : vector.items.length < vector.limit)
    (ends : (queryCollectionByCategory len .bootMeasurement stack fuel pos vector memory).value =
      some result) : vector.items ++ [claimAt memory pos len stack] <+: result.items := by
  cases fuel with
  | zero => cases ends
  | succ fuel =>
    rw [value_queryCollectionByCategory (by unfold event2HeaderSize at fits; omega),
      eventLogIteratorCurrent_later later fits] at ends
    have extended := queryCollectionByCategory_extends ends
    have measured : (claimAt memory pos len stack).category = .bootMeasurement := by
      unfold claimAt
      rw [if_pos post]
    unfold addClaim claimVectorPushBack BoundedList.push at extended
    rwa [if_pos measured, dif_pos room] at extended

theorem Claim.id_reported (claim : Claim) : (claim.reported memory).id = claim.measurement.id := rfl

theorem claimAt_id (post : wordAt memory (pos + 4) 4 = evPostCode)
    (inside : pos + headerLength memory pos + event2DataSize ≤ len)
    (event : wordAt memory (pos + headerLength memory pos) 4 ≠ 0) :
    (claimAt memory pos len stack).measurement.id =
      some (pos + headerLength memory pos + event2DataSize) := by
  unfold claimAt
  rw [if_pos post]
  exact (measurementId_inside inside).trans (if_pos event)

/-- The marked digest of a spoiled record ends up as the id of a claim. -/
theorem spoiled_misreported (several : 2 ≤ record.digests.length) (later : pos ≠ 0)
    (holds : HoldsAt memory pos record.spoiled.encode)
    (inside : pos + record.spoiled.encode.length ≤ len) (room : vector.items.length < vector.limit)
    (ends : (queryCollectionByCategory len .bootMeasurement stack fuel pos vector memory).value =
      some result) :
    ∃ (claim : Claim) (id : Nat), claim.measurement.id = some id ∧
      id < pos + record.spoiled.headerSize + event2DataSize ∧
        vector.items ++ [claim] <+: result.items := by
  have read := Event2.readAt holds
  obtain ⟨algorithm, marked, short⟩ := headerLength_spoiled several read
  obtain ⟨event, postBehind, countBehind, eventBehind⟩ := algorithm.markedDigest_read marked
  have length := record.spoiled.length_encode
  have least : event2HeaderSize ≤ record.spoiled.headerSize := Nat.le_add_right _ _
  have idPositive : algorithm.id ≠ 0 := by cases algorithm <;> decide
  have idSmall : algorithm.id + 16 < 2 + algorithm.size := by cases algorithm <;> decide
  have fits : pos + event2HeaderSize ≤ len := by omega
  unfold event2DataSize at *
  by_cases post : wordAt memory (pos + 4) 4 = evPostCode
  · refine ⟨_, _, claimAt_id post ?_ ?_, ?_, queryCollectionByCategory_pushes later fits post room
      ends⟩
    · unfold event2DataSize
      omega
    · rwa [event]
    · unfold event2DataSize
      omega
  · -- The walk goes on inside the marked digest.
    cases fuel with
    | zero => cases ends
    | succ fuel =>
      have next : pos + recordLength memory pos =
          pos + headerLength memory pos + (algorithm.id + 4) := by
        unfold recordLength event2DataSize
        omega
      have unmeasured : (claimAt memory pos len stack).category ≠ .bootMeasurement := by
        unfold claimAt
        rw [if_neg post]
        exact ClaimCategory.noConfusion
      rw [value_queryCollectionByCategory (by unfold event2HeaderSize at fits; omega),
        eventLogIteratorNext_later later, if_pos fits, eventLogIteratorCurrent_later later fits,
        addClaim, if_neg unmeasured, next] at ends
      have header : headerLength memory (pos + headerLength memory pos + (algorithm.id + 4)) =
          event2HeaderSize := by
        unfold headerLength at countBehind ⊢
        rw [countBehind]
        rfl
      refine ⟨_, _, claimAt_id postBehind ?_ ?_, ?_, queryCollectionByCategory_pushes (by omega) ?_
        postBehind room ends⟩
      · rw [header]
        unfold event2HeaderSize event2DataSize
        omega
      · rw [header, eventBehind]
        decide
      · rw [header]
        unfold event2HeaderSize event2DataSize
        omega
      · unfold event2HeaderSize
        omega

variable {records : List Event2}

theorem measurements_behind {measurement : Measurement} {id : Nat}
    (among : measurement ∈ measurements pos records) (found : measurement.id = some id) :
    pos ≤ id := by
  induction records generalizing pos with
  | nil => cases among
  | cons record rest ih =>
    rw [measurements, List.mem_append] at among
    obtain this | behind := among
    · split at this
      · rw [List.mem_singleton.mp this, Event2.measurement] at found
        split_ifs at found ⊢
        obtain rfl := Option.some.inj found
        omega
      · cases this
    · have later := ih behind
      omega

theorem measurements_behind_header {rest : List Event2} {measurement : Measurement} {id : Nat}
    (among : measurement ∈ measurements pos (record :: rest)) (found : measurement.id = some id) :
    pos + record.headerSize + event2DataSize ≤ id := by
  have length := record.length_encode
  rw [measurements, List.mem_append] at among
  obtain this | behind := among
  · split at this
    · rw [List.mem_singleton.mp this, Event2.measurement] at found
      split_ifs at found ⊢
      rw [Option.some.inj found]
    · cases this
  · have later := measurements_behind behind found
    omega

theorem measurements_append (front back : List Event2) :
    measurements pos (front ++ back) =
      measurements pos front ++ measurements (pos + (encodeRecords front).length) back := by
  induction front generalizing pos with
  | nil => rfl
  | cons record rest ih =>
    rw [List.cons_append, measurements, measurements, ih, encodeRecords_cons, List.length_append,
      List.append_assoc, Nat.add_assoc]

theorem length_measurements_le (records : List Event2) :
    (measurements pos records).length ≤ records.length := by
  induction records generalizing pos with
  | nil => exact Nat.le_refl 0
  | cons record rest ih =>
    have later := @ih (pos + record.encode.length)
    rw [measurements, List.length_append, List.length_cons]
    split
    · rw [List.length_singleton]
      omega
    · rw [List.length_nil]
      omega

variable {log : EventLog}

theorem encodeRecords_append (front back : List Event2) :
    encodeRecords (front ++ back) = encodeRecords front ++ encodeRecords back :=
  List.flatMap_append

/-- No log with a spoiled record is reported as it is. -/
theorem EventLog.spoiled_inexact {front back : List Event2}
    (records : log.records = front ++ record.spoiled :: back)
    (single : ∀ earlier ∈ front, earlier.digests.length ≤ 1)
    (several : 2 ≤ record.digests.length) (beyond : Nat → UInt8) (stack : Claim) :
    ¬log.Exact (front.length + 1) beyond stack := by
  rintro ⟨fuel, result, ends, reports⟩
  have holds := holdsAt_logMemory log.encode beyond
  have later : log.event.length + tcgPcrEventSize ≠ 0 := by
    unfold tcgPcrEventSize
    omega
  have nothing : ClaimVector.Reports (logMemory log.encode beyond) (.empty (front.length + 1)) [] :=
    List.take_nil.symm
  have whole := log.length_encode
  have held := (readAt holds).2
  rw [records, encodeRecords_append, encodeRecords_cons, holdsAt_append, holdsAt_append] at held
  rw [records, encodeRecords_append, encodeRecords_cons, List.length_append, List.length_append,
    Event2.length_encode] at whole
  have spoiledLength := record.spoiled.length_encode
  unfold event2DataSize at *
  obtain ⟨fuel, ends⟩ := query_behind_first holds ends
  obtain ⟨remaining, next, limit, soFar, rest⟩ :=
    queryCollectionByCategory_passes later single held.1 (by omega) nothing ends
  have few := @length_measurements_le (log.event.length + tcgPcrEventSize) front
  have held := held.2.1
  rw [List.nil_append] at soFar
  dsimp only [BoundedList.empty] at limit
  unfold ClaimVector.Reports at soFar
  rw [limit, List.take_of_length_le (by omega)] at soFar
  have room := congrArg List.length soFar
  rw [List.length_map] at room
  obtain ⟨claim, id, claimId, small, tail, among⟩ :=
    spoiled_misreported several (by omega) held (by omega) (by omega) rest
  have reported : log.measurements =
      Attestation.measurements (log.event.length + tcgPcrEventSize) front ++
      Attestation.measurements (log.event.length + tcgPcrEventSize + (encodeRecords front).length)
        (record.spoiled :: back) := by
    rw [EventLog.measurements, records, measurements_append]
  rw [reported, ← among, List.map_append, List.map_append, soFar, List.append_assoc,
    List.take_append, List.take_of_length_le (by omega)] at reports
  have listed : claim.reported (logMemory log.encode beyond) ∈
      Attestation.measurements (log.event.length + tcgPcrEventSize + (encodeRecords front).length)
        (record.spoiled :: back) := by
    have tails := List.append_cancel_left reports
    apply List.mem_of_mem_take
    rw [← tails]
    exact List.mem_append_left _ (List.mem_singleton.mpr rfl)
  have behind := measurements_behind_header listed claimId
  omega

theorem exists_several (several : ¬∀ record ∈ records, record.digests.length ≤ 1) :
    ∃ front record back, records = front ++ record :: back ∧
      (∀ earlier ∈ front, earlier.digests.length ≤ 1) ∧ 2 ≤ record.digests.length := by
  induction records with
  | nil => exact absurd (List.forall_mem_nil _) several
  | cons record rest ih =>
    by_cases single : record.digests.length ≤ 1
    · have later : ¬∀ record ∈ rest, record.digests.length ≤ 1 :=
        fun all => several (List.forall_mem_cons.mpr ⟨single, all⟩)
      obtain ⟨front, first, back, split, earlier, two⟩ := ih later
      exact ⟨record :: front, first, back, by rw [split, List.cons_append],
        List.forall_mem_cons.mpr ⟨single, earlier⟩, two⟩
    · exact ⟨[], record, rest, rfl, List.forall_mem_nil _, by omega⟩

theorem single_of_sameShape {others : List Event2}
    (same : List.Forall₂ Event2.SameShape records others)
    (single : ∀ record ∈ records, record.digests.length ≤ 1) :
    ∀ record ∈ others, record.digests.length ≤ 1 := by
  induction same with
  | nil => exact List.forall_mem_nil _
  | cons alike _ ih =>
    obtain ⟨first, rest⟩ := List.forall_mem_cons.mp single
    have length := congrArg List.length alike.algorithms
    rw [List.length_map, List.length_map] at length
    exact List.forall_mem_cons.mpr ⟨by omega, ih rest⟩

/-- What the query reports is exact for all contents of the records of a log if and only if each
record has one digest at most. -/
theorem eventLog_exact_iff (log : EventLog) :
    (∀ other, log.SameShape other → ∀ limit beyond stack, other.Exact limit beyond stack) ↔
      ∀ record ∈ log.records, record.digests.length ≤ 1 := by
  constructor
  · intro exact
    by_contra several
    obtain ⟨front, record, back, records, single, two⟩ := exists_several several
    have same : log.SameShape { log with records := front ++ record.spoiled :: back } := by
      refine ⟨rfl, ?_⟩
      rw [records]
      have unchanged (records : List Event2) : List.Forall₂ Event2.SameShape records records :=
        List.forall₂_same.mpr fun record _ => record.sameShape_refl
      exact List.rel_append (unchanged front) (.cons record.sameShape_spoiled (unchanged back))
    exact EventLog.spoiled_inexact rfl single two (fun _ => 0) .blank (exact _ same _ _ _)
  · intro single other same limit beyond stack
    exact EventLog.exact_single (single_of_sameShape same.records single) limit beyond stack

/-- One measurement, with a SHA-256 and a SHA-384 digest of zeros and ten bytes of event data. -/
def twoDigestLog : EventLog where
  pcrIndex := 0
  eventType := 3
  digest := List.replicate 20 0
  event := []
  digestSized := rfl
  sized := by decide
  records := [⟨0, 1, [DigestAlgorithm.sha256.zeroDigest, DigestAlgorithm.sha384.zeroDigest],
    [66, 76, 0, 0, 0, 0, 0, 0, 0, 0], by decide, by decide⟩]

/-- The id of the one claim points into the second digest. -/
theorem twoDigestLog_inexact :
    twoDigestLog.measurements.map Measurement.id = [some 132] ∧
      ((claimsRegisterQueryByCategory ClaimCategory.bootMeasurement.bits twoDigestLog.encode.length
        .bootMeasurement .blank 6 (.empty 1)
        (logMemory twoDigestLog.encode fun _ => 0)).value.map fun result =>
          result.items.map fun claim => claim.measurement.id) = some [some 82] ∧
      ¬twoDigestLog.Exact 1 (fun _ => 0) .blank := by
  have expected : twoDigestLog.measurements.map Measurement.id = [some 132] := by decide +kernel
  refine ⟨expected, by decide +kernel, ?_⟩
  rintro ⟨fuel, result, ends, reports⟩
  obtain ⟨fuel, ends⟩ :=
    EventLog.query_behind_first (holdsAt_logMemory twoDigestLog.encode fun _ => 0) ends
  obtain ⟨tail, among⟩ := queryCollectionByCategory_pushes (by decide) (by decide +kernel)
    (by decide +kernel) (by decide) ends
  have misread : (claimAt (logMemory twoDigestLog.encode fun _ => 0)
      (twoDigestLog.event.length + tcgPcrEventSize) twoDigestLog.encode.length
      .blank).measurement.id ≠ some 132 := by decide +kernel
  dsimp only [BoundedList.empty] at among
  have ids := congrArg (List.map Measurement.id) reports
  rw [← among, List.map_take, expected, List.nil_append, List.singleton_append, List.map_cons,
    List.map_cons, Claim.id_reported] at ids
  exact misread (List.cons.inj ids).1

end Attestation
