import TrustedServices.Attestation.EventLog

/- Event logs of any contents: where the query ends, and what it reads and reports. -/
namespace Attestation

open Lib

variable {memory : Memory Unit} {len pos : Nat} {stack : Claim} {category : ClaimCategory}

/-- The positions that the loop over the log comes to. -/
inductive Visited (memory : Memory Unit) (len : Nat) : Nat → Prop
  | first : Visited memory len 0
  | next {pos : Nat} (visited : Visited memory len pos) (inside : pos < len) :
      Visited memory len (eventLogIteratorNext pos len memory).value

/-- The digest and the id of a claim are parts of the log. The id has the size that stands in front
of it. -/
structure Claim.Inside (memory : Memory Unit) (len : Nat) (claim : Claim) : Prop where
  digest : ∀ offset size, claim.measurement.digest = some (offset, size) → offset + size ≤ len
  id : ∀ offset, claim.measurement.id = some offset →
    offset + wordAt memory (offset - event2DataSize) 4 ≤ len

/-- The query of a log of `len` bytes ends, reads and reports only what is in the log, and reports
nothing for a header that is rejected. -/
structure HandlesLog (memory : Memory Unit) (len : Nat) (categoryMap : BitVec 32)
    (category : ClaimCategory) (stack : Claim) (result : ClaimVector Claim) : Prop where
  ends : ∃ fuel, (claimsRegisterQueryByCategory categoryMap len category stack fuel result
    memory).value.isSome
  reads : ∀ fuel, (claimsRegisterQueryByCategory categoryMap len category stack fuel
    result).Within (fun _ => len) memory
  claims : ∀ pos, Visited memory len pos → pos < len →
    (eventLogIteratorCurrent pos len stack memory).value.1 = true →
      (eventLogIteratorCurrent pos len stack memory).value.2.category = .bootMeasurement →
        (eventLogIteratorCurrent pos len stack memory).value.2.Inside memory len
  rejected : categoryMap &&& category.bits ≠ 0 → ∀ pos, Visited memory len pos → pos < len →
    (eventLogIteratorCurrent pos len stack memory).value.1 = false →
      (eventLogIteratorCurrent pos len stack memory).value.2.category ≠ category

/-- A record behind the first one fits into the log: its header, the algorithm ids that are read for
its digests, the header size that follows from them and the event size, and for a measurement also
the event data. -/
structure RecordFits (memory : Memory Unit) (len pos : Nat) : Prop where
  header : pos + event2HeaderSize ≤ len
  digests : pos + event2HeaderSize + tpmtHaSize * wordAt memory (pos + 8) 4 ≤ len
  eventSize : pos + headerLength memory pos + event2DataSize ≤ len
  measurement : wordAt memory (pos + 4) 4 = evPostCode → pos + recordLength memory pos ≤ len

/-- From a position on, all records up to the end of the log fit. -/
inductive Walkable (memory : Memory Unit) (len : Nat) : Nat → Prop
  | ended {pos : Nat} (behind : len ≤ pos) : Walkable memory len pos
  | record {pos : Nat} (inside : pos < len) (fits : RecordFits memory len pos)
      (later : Walkable memory len (pos + recordLength memory pos)) : Walkable memory len pos

/-- The first record fits, and all records behind it. -/
def LogFits (memory : Memory Unit) (len : Nat) : Prop :=
  len = 0 ∨ tcgPcrEventSize ≤ len ∧ Walkable memory len (wordAt memory 28 4 + tcgPcrEventSize)

theorem within_tcgEvent2HeaderSize :
    (tcgEvent2HeaderSize pos len).Within (fun _ => len) memory ↔
      (pos + event2HeaderSize ≤ len →
        pos + event2HeaderSize + tpmtHaSize * wordAt memory (pos + 8) 4 ≤ len) := by
  unfold tcgEvent2HeaderSize
  split_ifs with rejected
  · rw [Accessing.within_bind, within_loadLe, memory_loadLe, value_loadLe, within_addDigests]
    unfold event2HeaderSize tpmtHaSize at *
    omega
  · rw [Accessing.within_pure]
    exact ⟨fun _ fits => absurd fits rejected, fun _ => trivial⟩

theorem within_eventLogIteratorNext_first :
    (eventLogIteratorNext 0 len).Within (fun _ => len) memory ↔ tcgPcrEventSize ≤ len := by
  unfold eventLogIteratorNext tcgEvent1RecordSize
  rw [if_pos rfl, Accessing.within_bind, Accessing.within_bind, within_loadLe]
  simp only [Accessing.within_pure, and_true]
  unfold tcgPcrEventSize
  omega

theorem within_eventLogIteratorNext_later (later : pos ≠ 0) (fits : pos + event2HeaderSize ≤ len) :
    (eventLogIteratorNext pos len).Within (fun _ => len) memory ↔
      pos + event2HeaderSize + tpmtHaSize * wordAt memory (pos + 8) 4 ≤ len ∧
        pos + headerLength memory pos + event2DataSize ≤ len := by
  unfold eventLogIteratorNext
  rw [if_neg later, Accessing.within_bind, within_tcgEvent2HeaderSize, value_tcgEvent2HeaderSize,
    memory_tcgEvent2HeaderSize, if_pos fits, if_neg (headerLength_pos pos), Accessing.within_bind,
    within_loadLe]
  simp only [Accessing.within_pure, and_true]
  have small : 4 ≠ 0 := by decide
  constructor
  · rintro ⟨digests, zero | event⟩
    · exact absurd zero small
    · exact ⟨digests fits, event⟩
  · rintro ⟨digests, event⟩
    exact ⟨fun _ => digests, .inr event⟩

theorem within_tcgEvent2ExtractDigest (header : pos + event2HeaderSize ≤ len)
    (digests : pos + event2HeaderSize + tpmtHaSize * wordAt memory (pos + 8) 4 ≤ len) :
    (tcgEvent2ExtractDigest pos).Within (fun _ => len) memory := by
  unfold tcgEvent2ExtractDigest
  unfold event2HeaderSize tpmtHaSize at *
  rw [Accessing.within_bind, within_loadLe, memory_loadLe, value_loadLe]
  refine ⟨.inr (by omega), ?_⟩
  split
  · rw [Accessing.within_bind, within_loadLe]
    exact ⟨.inr (by omega), by simp⟩
  · simp

theorem within_tcgEvent2ExtractMeasurementId (eventData : Nat) :
    (tcgEvent2ExtractMeasurementId eventData len).Within (fun _ => len) memory := by
  unfold tcgEvent2ExtractMeasurementId
  split_ifs with inside
  · rw [Accessing.within_bind, within_loadLe]
    exact ⟨.inr inside, by simp⟩
  · simp

theorem within_eventLogIteratorCurrent_later (later : pos ≠ 0) (fits : RecordFits memory len pos) :
    (eventLogIteratorCurrent pos len stack).Within (fun _ => len) memory := by
  have header := fits.header
  have going : ¬eventLogIteratorIsDone pos len = true := by
    unfold event2HeaderSize at header
    simp only [eventLogIteratorIsDone, decide_eq_true_eq]
    omega
  unfold eventLogIteratorCurrent
  rw [if_neg going, if_neg later, Accessing.within_bind, within_tcgEvent2HeaderSize,
    value_tcgEvent2HeaderSize, memory_tcgEvent2HeaderSize, if_pos header,
    if_neg (headerLength_pos pos), Accessing.within_bind, within_loadLe, memory_loadLe, value_loadLe,
    Accessing.within_bind]
  unfold event2HeaderSize at header
  refine ⟨fun _ => fits.digests, .inr (by omega), ?_, by simp⟩
  unfold recordClaim
  split
  · rw [Accessing.within_bind, Accessing.within_bind, memory_tcgEvent2ExtractDigest]
    exact ⟨within_tcgEvent2ExtractDigest fits.header fits.digests,
      within_tcgEvent2ExtractMeasurementId _, by simp⟩
  · simp

theorem within_eventLogIteratorCurrent_first (inside : 0 < len) :
    (eventLogIteratorCurrent 0 len stack).Within (fun _ => len) memory := by
  have going : ¬eventLogIteratorIsDone 0 len = true := by
    simp only [eventLogIteratorIsDone, decide_eq_true_eq]
    omega
  unfold eventLogIteratorCurrent recordClaim
  rw [if_neg going, if_pos rfl, if_neg (by decide)]
  simp

variable {result : ClaimVector Claim}

theorem within_queryCollectionByCategory {fuel : Nat} (inside : pos < len) :
    (queryCollectionByCategory len category stack (fuel + 1) pos result).Within (fun _ => len)
        memory ↔
      (eventLogIteratorCurrent pos len stack).Within (fun _ => len) memory ∧
        (eventLogIteratorNext pos len).Within (fun _ => len) memory ∧
          (queryCollectionByCategory len category stack fuel
            (eventLogIteratorNext pos len memory).value
            (addClaim category (eventLogIteratorCurrent pos len stack memory).value.2
              result)).Within (fun _ => len) memory := by
  have going : ¬eventLogIteratorIsDone pos len = true := by
    simpa [eventLogIteratorIsDone] using inside
  rw [queryCollectionByCategory, if_neg going, Accessing.within_bind, Accessing.within_bind,
    memory_eventLogIteratorCurrent, memory_eventLogIteratorNext]

section

variable (walkable : Walkable memory len pos)

include walkable

theorem Walkable.next (inside : pos < len) (later : pos ≠ 0) :
    RecordFits memory len pos ∧ (eventLogIteratorNext pos len memory).value ≠ 0 ∧
      Walkable memory len (eventLogIteratorNext pos len memory).value := by
  cases walkable with
  | ended behind => omega
  | record _ fits further =>
    rw [eventLogIteratorNext_later later, if_pos fits.header]
    exact ⟨fits, by omega, further⟩

theorem Walkable.ends (later : pos ≠ 0) (result : ClaimVector Claim) :
    ∃ fuel, (queryCollectionByCategory len category stack fuel pos result memory).value.isSome := by
  induction walkable generalizing result with
  | ended behind =>
    refine ⟨1, ?_⟩
    rw [queryCollectionByCategory_done behind]
    rfl
  | @record pos inside fits further ih =>
    have next := @eventLogIteratorNext_later memory pos len later
    rw [if_pos fits.header] at next
    obtain ⟨fuel, ended⟩ := ih (by omega)
      (addClaim category (eventLogIteratorCurrent pos len stack memory).value.2 result)
    refine ⟨fuel + 1, ?_⟩
    rw [value_queryCollectionByCategory inside, next]
    exact ended

theorem Walkable.reads (later : pos ≠ 0) (fuel : Nat) (result : ClaimVector Claim) :
    (queryCollectionByCategory len category stack fuel pos result).Within (fun _ => len)
      memory := by
  induction fuel generalizing pos result with
  | zero => simp [queryCollectionByCategory]
  | succ fuel ih =>
    by_cases inside : pos < len
    · obtain ⟨fits, nonzero, further⟩ := walkable.next inside later
      rw [within_queryCollectionByCategory inside,
        within_eventLogIteratorNext_later later fits.header]
      exact ⟨within_eventLogIteratorCurrent_later later fits, ⟨fits.digests, fits.eventSize⟩,
        ih further nonzero _⟩
    · rw [queryCollectionByCategory_done (Nat.le_of_not_lt inside), Accessing.within_pure]
      trivial

end

/-- The positions that the loop comes to are walkable, except for the first one. -/
theorem Visited.walkable (first : Walkable memory len (wordAt memory 28 4 + tcgPcrEventSize))
    (visited : Visited memory len pos) : pos = 0 ∨ Walkable memory len pos := by
  induction visited with
  | first => exact .inl rfl
  | @next pos _ inside ih =>
    right
    by_cases start : pos = 0
    · rw [start, eventLogIteratorNext_first]
      exact first
    · exact ((ih.resolve_left start).next inside start).2.2

theorem measurementId_inside {eventData : Nat} (inside : eventData + event2DataSize ≤ len) :
    measurementId memory eventData len =
      if wordAt memory eventData 4 ≠ 0 then some (eventData + event2DataSize) else none := by
  unfold measurementId tcgEvent2ExtractMeasurementId
  rw [if_pos inside]
  rfl

theorem firstDigest_eq (pos : Nat) :
    firstDigest memory pos =
      if wordAt memory (pos + 8) 4 > 0 then
        if tcgEvent2DigestSize (wordAt memory (pos + event2HeaderSize) 2) ≠ 0 then
          some (pos + event2HeaderSize + tpmtHaSize,
            tcgEvent2DigestSize (wordAt memory (pos + event2HeaderSize) 2))
        else none
      else none := by
  unfold firstDigest tcgEvent2ExtractDigest
  rw [Accessing.value_bind, memory_loadLe, value_loadLe]
  split
  · rfl
  · rfl

theorem firstDigest_counted {offset size : Nat}
    (found : firstDigest memory pos = some (offset, size)) :
    offset + size ≤ pos + headerLength memory pos := by
  rw [firstDigest_eq] at found
  split at found
  · rename_i some
    split_ifs at found ⊢ with known
    obtain ⟨count, same⟩ := Nat.exists_eq_succ_of_ne_zero (Nat.ne_of_gt some)
    obtain ⟨rfl, rfl⟩ := found
    unfold headerLength
    rw [same, digestsSpace, digestSpace, Nat.mul_zero, Nat.add_zero, if_pos known]
    omega
  · cases found

theorem RecordFits.claim_inside (fits : RecordFits memory len pos)
    (measured : (claimAt memory pos len stack).category = .bootMeasurement) :
    (claimAt memory pos len stack).Inside memory len := by
  unfold claimAt at measured ⊢
  split at measured
  · rename_i post
    have whole := fits.measurement post
    unfold recordLength event2DataSize at *
    rw [if_pos post]
    constructor
    · intro offset size found
      have counted := firstDigest_counted found
      omega
    · intro offset found
      rw [measurementId_inside (by unfold event2DataSize; omega)] at found
      split_ifs at found ⊢
      obtain rfl := Option.some.inj found
      unfold event2DataSize
      rw [Nat.add_sub_cancel]
      omega
  · simp at measured

theorem LogFits.handles (fits : LogFits memory len) (categoryMap : BitVec 32)
    (category : ClaimCategory) (stack : Claim) (result : ClaimVector Claim) :
    HandlesLog memory len categoryMap category stack result := by
  obtain rfl | ⟨room, walkable⟩ := fits
  · have skipped : ∀ fuel, claimsRegisterQueryByCategory categoryMap 0 category stack fuel result =
        pure (some result) := fun _ => if_neg (fun both => both.2 rfl)
    refine ⟨⟨0, ?_⟩, fun fuel => ?_, fun _ _ inside => ?_, fun _ _ _ inside => ?_⟩
    · rw [skipped]
      rfl
    · rw [skipped, Accessing.within_pure]
      trivial
    · omega
    · omega
  · unfold tcgPcrEventSize at room
    have positive : 0 < len := by omega
    have accepted : ∀ pos, Visited memory len pos → pos < len → pos ≠ 0 →
        RecordFits memory len pos := by
      intro pos visited inside later
      exact (((visited.walkable walkable).resolve_left later).next inside later).1
    have secondNonzero : wordAt memory 28 4 + tcgPcrEventSize ≠ 0 := by
      unfold tcgPcrEventSize
      omega
    refine ⟨?_, ?_, ?_, ?_⟩
    · obtain ⟨fuel, ended⟩ := @Walkable.ends memory len _ stack category walkable secondNonzero
        (addClaim category (eventLogIteratorCurrent 0 len stack memory).value.2 result)
      refine ⟨fuel + 1, ?_⟩
      unfold claimsRegisterQueryByCategory
      split
      · rw [value_queryCollectionByCategory positive, eventLogIteratorNext_first]
        exact ended
      · rfl
    · intro fuel
      unfold claimsRegisterQueryByCategory
      split
      · cases fuel with
        | zero => simp [queryCollectionByCategory]
        | succ fuel =>
          rw [within_queryCollectionByCategory positive, within_eventLogIteratorNext_first,
            eventLogIteratorNext_first]
          exact ⟨within_eventLogIteratorCurrent_first positive, room,
            walkable.reads secondNonzero fuel _⟩
      · simp
    · intro pos visited inside _ measured
      by_cases start : pos = 0
      · subst start
        rw [eventLogIteratorCurrent_first positive] at measured
        simp at measured
      · have fits := accepted pos visited inside start
        rw [eventLogIteratorCurrent_later start fits.header] at measured ⊢
        exact fits.claim_inside measured
    · intro _ pos visited inside failed
      by_cases start : pos = 0
      · subst start
        rw [eventLogIteratorCurrent_first positive] at failed
        cases failed
      · rw [eventLogIteratorCurrent_later start (accepted pos visited inside start).header] at failed
        cases failed

/-- If the loop ends, and what it reads and reports is in the log, then all records fit. -/
theorem walkable_of_ends {fuel : Nat} (later : pos ≠ 0) (visited : Visited memory len pos)
    (claims : ∀ pos, Visited memory len pos → pos < len →
      (eventLogIteratorCurrent pos len stack memory).value.1 = true →
        (eventLogIteratorCurrent pos len stack memory).value.2.category = .bootMeasurement →
          (eventLogIteratorCurrent pos len stack memory).value.2.Inside memory len)
    (ends : (queryCollectionByCategory len category stack fuel pos result memory).value.isSome)
    (reads : (queryCollectionByCategory len category stack fuel pos result).Within (fun _ => len)
      memory) : Walkable memory len pos := by
  induction fuel generalizing pos result with
  | zero => simp [queryCollectionByCategory] at ends
  | succ fuel ih =>
    by_cases inside : pos < len
    · rw [value_queryCollectionByCategory inside] at ends
      rw [within_queryCollectionByCategory inside] at reads
      obtain ⟨_, nextReads, laterReads⟩ := reads
      have nextVisited := visited.next inside
      have next := @eventLogIteratorNext_later memory pos len later
      by_cases header : pos + event2HeaderSize ≤ len
      · rw [within_eventLogIteratorNext_later later header] at nextReads
        obtain ⟨digests, eventSize⟩ := nextReads
        rw [if_pos header] at next
        rw [next] at ends laterReads nextVisited
        refine .record inside ⟨header, digests, eventSize, ?_⟩
          (ih (by omega) nextVisited ends laterReads)
        intro post
        have reported := claims pos visited inside
        rw [eventLogIteratorCurrent_later later header] at reported
        unfold claimAt at reported
        rw [if_pos post] at reported
        have inLog := (reported rfl rfl).id
        rw [measurementId_inside eventSize] at inLog
        unfold recordLength event2DataSize at *
        by_cases empty : wordAt memory (pos + headerLength memory pos) 4 = 0
        · omega
        · rw [if_pos empty] at inLog
          have bound := inLog _ rfl
          rw [Nat.add_sub_cancel] at bound
          omega
      · -- A rejected header is not left, so the rest of the loop is at the same position.
        rw [if_neg header] at next
        rw [next] at ends laterReads
        exact ih later visited ends laterReads
    · exact .ended (Nat.le_of_not_lt inside)

/-- The query handles a log, for every category, use of the stack and vector, exactly if each record
that it comes to fits into the log. -/
theorem eventLog_handled_iff (memory : Memory Unit) (len : Nat) :
    (∀ categoryMap category stack result,
      HandlesLog memory len categoryMap category stack result) ↔ LogFits memory len := by
  constructor
  · intro handled
    by_cases empty : len = 0
    · exact .inl empty
    · right
      obtain ⟨⟨fuel, ends⟩, reads, claims, _⟩ := handled 2 .bootMeasurement .blank (.empty 0)
      have queried : ∀ fuel,
          claimsRegisterQueryByCategory 2 len .bootMeasurement .blank fuel (.empty 0) =
          queryCollectionByCategory len .bootMeasurement .blank fuel 0 (.empty 0) :=
        fun _ => if_pos ⟨by decide, empty⟩
      have positive : 0 < len := by omega
      cases fuel with
      | zero =>
        rw [queried] at ends
        simp [queryCollectionByCategory] at ends
      | succ fuel =>
        have within := reads (fuel + 1)
        rw [queried, value_queryCollectionByCategory positive, eventLogIteratorNext_first] at ends
        rw [queried, within_queryCollectionByCategory positive, within_eventLogIteratorNext_first,
          eventLogIteratorNext_first] at within
        have visited : Visited memory len (eventLogIteratorNext 0 len memory).value :=
          Visited.first.next positive
        rw [eventLogIteratorNext_first] at visited
        refine ⟨within.2.1, ?_⟩
        apply walkable_of_ends _ visited claims ends within.2.2
        unfold tcgPcrEventSize
        omega
  · intro fits categoryMap category stack result
    exact fits.handles categoryMap category stack result

/-- The loop does not leave a rejected header. -/
theorem queryCollectionByCategory_stuck (later : pos ≠ 0) (inside : pos < len)
    (rejected : ¬pos + event2HeaderSize ≤ len) (fuel : Nat) (result : ClaimVector Claim) :
    (queryCollectionByCategory len category stack fuel pos result memory).value = none := by
  induction fuel generalizing result with
  | zero => rfl
  | succ fuel ih =>
    rw [value_queryCollectionByCategory inside, eventLogIteratorNext_later later, if_neg rejected]
    exact ih _

/-- The bytes of a log, with others behind it. -/
def logMemory (log : Bytes) (beyond : Nat → UInt8) : Memory Unit := fun _ offset =>
  log.getD offset (beyond offset)

/-- A first record with no event data, and five bytes that are no header. -/
def truncatedLog : Bytes := List.replicate 37 0

/-- The query stays at the rejected header for ever. -/
theorem truncatedLog_unhandled :
    (∀ fuel, (claimsRegisterQueryByCategory 2 37 .bootMeasurement
        .blank fuel (.empty 1)
        (logMemory truncatedLog fun _ => 0)).value = none) ∧
      ¬HandlesLog (logMemory truncatedLog fun _ => 0) 37 2 .bootMeasurement .blank (.empty 1) := by
  have stuck : ∀ fuel, (claimsRegisterQueryByCategory 2 37 .bootMeasurement
      .blank fuel (.empty 1)
      (logMemory truncatedLog fun _ => 0)).value = none := by
    intro fuel
    cases fuel with
    | zero => rfl
    | succ fuel =>
      exact queryCollectionByCategory_stuck (by decide) (by decide) (by decide) fuel _
  refine ⟨stuck, fun handled => ?_⟩
  obtain ⟨fuel, ends⟩ := handled.ends
  rw [stuck fuel] at ends
  cases ends

end Attestation
