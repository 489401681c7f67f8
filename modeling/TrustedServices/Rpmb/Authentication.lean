import TrustedServices.Rpmb.Exchange

/- Which responses of the emulated device carry a MAC, and that no write is accepted twice. -/
namespace Rpmb

open Lib

section

variable (digest : Bytes → Field 32)

/-- The request frames that are served, each with the device that it finds. -/
def served : List DataFrame → Nat → EmulatedDevice → List (EmulatedDevice × DataFrame)
  | [], _, _ => []
  | request :: rest, room, device =>
    match answer digest device room request with
    | .error _ => []
    | .ok (after, responses) =>
      (device, request) :: served rest (room - responses.length) after

/-- The response to a write, read or counter request. That of a write is kept for a result read,
and a read that is refused has none. -/
def responseFrames (device : EmulatedDevice) (request : DataFrame) : List DataFrame :=
  match requestTypeOf (u16FromRpmbField request.msgType) with
  | some .readWriteCounter => [readWriteCounter digest device request]
  | some .authenticatedDataWrite => [(authenticatedDataWrite digest device request).result]
  | some .authenticatedDataRead =>
    if checkReadRequest device request = resOk then readResponses digest device request else []
  | _ => []

/-- The last frame carries the MAC of all of them. -/
def MacValid (key : Field 32) (frames : List DataFrame) : Prop :=
  ∀ last ∈ frames.getLast?, last.keyMac = calculateMac digest key frames

/-- The result of a write without its MAC. -/
def writeResult (device : EmulatedDevice) (request : DataFrame) (opResult : Nat) : DataFrame :=
  { DataFrame.zero with
    address := request.address
    writeCounter := u32ToRpmbField device.writeCounter
    opResult := u16ToRpmbField opResult
    msgType := u16ToRpmbField respAuthenticatedDataWrite }

/-- A write is accepted, or its refusal has the MAC of a success by a collision. -/
def ResultCovered (device : EmulatedDevice) (request : DataFrame) : Prop :=
  requestTypeOf (u16FromRpmbField request.msgType) = some .authenticatedDataWrite →
    let code := checkWriteRequest digest device request
    code = resOk ∨ calculateMac digest device.key [writeResult device request resOk] =
      calculateMac digest device.key [writeResult device request code]

/-- The frames that are sent back for a request. -/
def sentFrames (visit : EmulatedDevice × DataFrame) : List DataFrame :=
  match requestTypeOf (u16FromRpmbField visit.2.msgType) with
  | some .resultRead => [visit.1.result]
  | some .authenticatedDataWrite => []
  | _ => responseFrames digest visit.1 visit.2

end

variable {digest : Bytes → Field 32} {device : EmulatedDevice} {request : DataFrame}

theorem calculateMac_modify (key mac : Field 32) (i : Nat) (frames : List DataFrame) :
    calculateMac digest key (frames.modify i fun frame => frame.setMac mac) =
      calculateMac digest key frames := by
  have same : (frames.modify i fun frame => frame.setMac mac).map DataFrame.hashed =
      frames.map DataFrame.hashed := by
    induction frames generalizing i with
    | nil => cases i <;> rfl
    | cons frame rest ih =>
      cases i with
      | zero => rfl
      | succ i => exact congrArg (frame.hashed :: ·) (ih i)
  unfold calculateMac
  rw [List.flatMap_def, List.flatMap_def, same]

theorem macValid_readResponses :
    MacValid digest device.key (readResponses digest device request) := by
  intro last isLast
  unfold readResponses at isLast ⊢
  dsimp only at isLast ⊢
  rw [calculateMac_modify]
  rw [List.getLast?_eq_getElem?, List.length_modify, List.getElem?_modify_eq] at isLast
  obtain ⟨frame, _, rfl⟩ := Option.map_eq_some_iff.mp isLast
  rfl

variable {responses : List DataFrame}

theorem answer_programmed {room : Nat} {after : EmulatedDevice}
    (programmed : device.keyProgrammed = true)
    (answered : answer digest device room request = .ok (after, responses)) :
    after.keyProgrammed = true := by
  unfold answer at answered
  split at answered
  case h_1 =>
    unfold authenticationKeyWrite at answered
    rw [if_pos programmed] at answered
    cases answered
    exact programmed
  case h_3 =>
    unfold authenticatedDataWrite at answered
    dsimp only at answered
    rw [if_pos programmed] at answered
    cases answered
    split_ifs <;> exact programmed
  case h_4 =>
    split_ifs at answered
    cases read : answerRead digest device room request <;> rw [read] at answered <;> cases answered
    exact programmed
  case h_2 | h_5 =>
    split_ifs at answered
    cases answered
    exact programmed
  case h_6 => cases answered

section

variable (programmed : device.keyProgrammed = true)

include programmed

/-- The MAC of the result of a write is the one for the code of a success. -/
theorem authenticatedDataWrite_result :
    let code := checkWriteRequest digest device request
    let after := if code = resOk then device.written request else device
    (authenticatedDataWrite digest device request).result =
      (writeResult after request code).setMac
        (calculateMac digest device.key [writeResult after request resOk]) := by
  have zero : DataFrame.zero.opResult = u16ToRpmbField resOk := by decide
  unfold authenticatedDataWrite writeResult DataFrame.setMac
  dsimp only
  rw [if_pos programmed, ← zero]
  split <;> rfl

theorem macValid_iff :
    MacValid digest device.key (responseFrames digest device request) ↔
      ResultCovered digest device request := by
  unfold responseFrames ResultCovered
  generalize requestTypeOf (u16FromRpmbField request.msgType) = type
  match type with
  | some .readWriteCounter =>
    refine iff_of_true ?_ nofun
    rintro _ ⟨⟩
    unfold readWriteCounter
    dsimp only
    rw [if_pos programmed]
    rfl
  | some .authenticatedDataRead =>
    refine iff_of_true ?_ nofun
    dsimp only
    split
    · exact macValid_readResponses
    · nofun
  | some .authenticatedDataWrite =>
    dsimp only [MacValid]
    rw [authenticatedDataWrite_result programmed]
    by_cases accepted : checkWriteRequest digest device request = resOk
    · refine iff_of_true ?_ fun _ => .inl accepted
      rintro _ ⟨⟩
      rw [accepted]
      rfl
    · rw [if_neg accepted]
      simp only [accepted, false_or, forall_const]
      constructor
      · exact fun valid => valid _ rfl
      · rintro collides _ ⟨⟩
        exact collides
  | none | some .authenticationKeyWrite | some .resultRead => exact iff_of_true nofun nofun

theorem served_programmed {requests : List DataFrame} {room : Nat} :
    ∀ visit ∈ served digest requests room device, visit.1.keyProgrammed = true := by
  induction requests generalizing room device with
  | nil => nofun
  | cons request rest ih =>
    unfold served
    cases answered : answer digest device room request with
    | error _ => nofun
    | ok pair =>
      obtain ⟨after, responses⟩ := pair
      exact List.forall_mem_cons.mpr ⟨programmed, ih (answer_programmed programmed answered)⟩

theorem answer_sent {room : Nat} {after : EmulatedDevice}
    (answered : answer digest device room request = .ok (after, responses)) :
    responses = sentFrames digest (device, request) := by
  unfold answer answerRead at answered
  unfold sentFrames responseFrames
  dsimp only
  rw [if_pos programmed] at answered
  split at answered <;> rename_i type <;> simp only [type]
  · cases answered
    rfl
  · split_ifs at answered
    cases answered
    rfl
  · cases answered
    rfl
  · split_ifs at answered ⊢ <;> cases answered <;> rfl
  · split_ifs at answered
    cases answered
    rfl
  · cases answered

/-- An exchange sends back the frames of the requests that are served. -/
theorem exchange_responses (requests : List DataFrame) (room : Nat) :
    (exchange digest requests room device).responses =
      (served digest requests room device).flatMap (sentFrames digest) := by
  induction requests generalizing room device with
  | nil => rfl
  | cons request rest ih =>
    unfold exchange served
    cases answered : answer digest device room request with
    | error _ => rfl
    | ok pair =>
      obtain ⟨after, responses⟩ := pair
      dsimp only
      rw [List.flatMap_cons, ← answer_sent programmed answered,
        ih (answer_programmed programmed answered)]

end

/-- The responses of a device with a key carry valid MACs exactly if it accepts all writes,
collisions of the digest apart. -/
theorem responses_authenticated_iff (digest : Bytes → Field 32) (requests : List DataFrame)
    (room : Nat) (device : EmulatedDevice) :
    let visits := served digest requests room { device with keyProgrammed := true }
    (∀ visit ∈ visits, MacValid digest visit.1.key (responseFrames digest visit.1 visit.2)) ↔
      ∀ visit ∈ visits, ResultCovered digest visit.1 visit.2 :=
  forall₂_congr fun visit member => macValid_iff (served_programmed rfl visit member)

/-- A write with a wrong MAC is refused, and the result does not carry a MAC of the refusal. -/
theorem refusedWrite_unauthenticated :
    let digest : Bytes → Field 32 := fun bytes _ => bytes.sum
    let device : EmulatedDevice := ⟨fun _ => 0, 0x20000, fun _ => 0, true, 0, DataFrame.zero⟩
    let request : DataFrame :=
      { DataFrame.zero with
        blockCount := u16ToRpmbField 1
        msgType := u16ToRpmbField RequestType.authenticatedDataWrite.code }
    checkWriteRequest digest device request = resAuthenticationFailure ∧
      ¬ MacValid digest device.key (responseFrames digest device request) := by
  refine ⟨by decide +kernel, fun valid => ?_⟩
  have same := congrFun (valid _ (List.getLast?_eq_some_getLast (by decide +kernel))) 0
  revert same
  decide +kernel

/-- The request frames of a data request, from some frame on. -/
structure FrameRun where
  memory : Memory
  (request count responses room respIndex : Nat)

def EmulatedDevice.serve (digest : Bytes → Field 32) (device : EmulatedDevice) (run : FrameRun) :
    EmulatedDevice :=
  (serveFrames digest run.responses run.room run.count run.request
    ⟨device, run.memory, run.respIndex⟩).2.device

/-- The write counter has gone up, or it and the data are as before. -/
def EmulatedDevice.Advances (before after : EmulatedDevice) : Prop :=
  before.writeCounter.toNat < after.writeCounter.toNat ∨
    before.writeCounter = after.writeCounter ∧ before.buffer = after.buffer

theorem EmulatedDevice.Advances.trans {before after last : EmulatedDevice}
    (first : before.Advances after) (next : after.Advances last) : before.Advances last := by
  obtain up | ⟨same, kept⟩ := first
  · obtain further | ⟨same, _⟩ := next
    · exact .inl (Nat.lt_trans up further)
    · exact .inl (same ▸ up)
  · unfold EmulatedDevice.Advances
    rw [same, kept]
    exact next

/-- An accepted write carries the counter, which is not at its end. -/
theorem checkWriteRequest_ok (passed : checkWriteRequest digest device request = resOk) :
    device.writeCounter.toNat < (device.writeCounter + 1).toNat ∧
      device.writeCounter = u32FromRpmbField request.writeCounter := by
  unfold checkWriteRequest at passed
  split_ifs at passed with expired _ _ _ counted <;> cases passed
  exact ⟨by bv_omega, not_not.mp counted⟩

theorem serveFrame_advances {responses room start : Nat} {serving later : Serving}
    (served : serveFrame digest responses room start serving = .ok later) :
    serving.device.Advances later.device := by
  unfold serveFrame Serving.respond at served
  dsimp only at served
  split at served
  · cases served
    unfold authenticationKeyWrite
    dsimp only
    split <;> exact .inr ⟨rfl, rfl⟩
  · split_ifs at served
    cases served
    exact .inr ⟨rfl, rfl⟩
  · cases served
    unfold authenticatedDataWrite
    dsimp only
    split_ifs with _ passed
    · exact .inl (checkWriteRequest_ok passed).1
    · exact .inr ⟨rfl, rfl⟩
    · exact .inr ⟨rfl, rfl⟩
  · split_ifs at served
    split at served
    · cases served
    · cases served
      exact .inr ⟨rfl, rfl⟩
  · split_ifs at served
    cases served
    exact .inr ⟨rfl, rfl⟩
  · cases served

theorem serve_advances (run : FrameRun) : device.Advances (device.serve digest run) := by
  obtain ⟨memory, start, count, responses, room, respIndex⟩ := run
  unfold EmulatedDevice.serve
  dsimp only
  induction count generalizing device memory start respIndex with
  | zero => exact .inr ⟨rfl, rfl⟩
  | succ count ih =>
    unfold serveFrames
    split
    · exact .inr ⟨rfl, rfl⟩
    · rename_i later served
      exact (serveFrame_advances served).trans (ih ..)

/-- Whatever frames the device serves, its counter does not go back and its data change only with
the counter. So it does not accept a write again that it has accepted before. -/
theorem acceptedWrite_once (device : EmulatedDevice) (request : DataFrame) (runs : List FrameRun) :
    let written := authenticatedDataWrite digest device request
    let later := runs.foldl (EmulatedDevice.serve digest) written
    written.Advances later ∧ ¬(device.keyProgrammed = true ∧
      checkWriteRequest digest device request = resOk ∧
      checkWriteRequest digest later request = resOk) := by
  intro written later
  have advances : written.Advances later :=
    List.foldlRecOn runs _ (.inr ⟨rfl, rfl⟩) fun _ advances run _ =>
      advances.trans (serve_advances run)
  refine ⟨advances, ?_⟩
  rintro ⟨programmed, passed, again⟩
  obtain ⟨up, counted⟩ := checkWriteRequest_ok passed
  have counter : written.writeCounter = device.writeCounter + 1 := by
    simp [written, authenticatedDataWrite, programmed, passed, EmulatedDevice.written]
  have back := (checkWriteRequest_ok again).2.trans counted.symm
  rw [EmulatedDevice.Advances, counter, back] at advances
  obtain further | ⟨same, _⟩ := advances
  · exact Nat.lt_asymm up further
  · exact Nat.ne_of_gt up (congrArg BitVec.toNat same)

end Rpmb
