import TrustedServices.Rpc.Request
import TrustedServices.Rpmb.Overlap

/- Requests over one buffer, compared with a call of the device over two arrays. -/
namespace Rpmb

open Lib Rpc

section

/-- A request as the client can send it: the numbers of frames travel as 32-bit words. -/
structure DataRequest where
  devId : BitVec 32
  frames : List DataFrame
  maxResponses : Nat
  frames_fit : frames.length < 2 ^ 32
  responses_fit : maxResponses < 2 ^ 32

/-- The sizes of the descriptors before the frames. -/
def requestHeader : Nat := 12
def responseHeader : Nat := 4

/-- The size of a descriptor with its frames. It fits a `size_t`. -/
def calculateSize (header frameCount : Nat) : Nat := frameSize * frameCount + header

def validateSize (header frameCount available : Nat) : Option Nat :=
  if calculateSize header frameCount > available then none
  else some (calculateSize header frameCount)

def wordAt (memory : Memory) (start : Nat) : Nat := (Field.load memory start 4).leWord

def storeWord (memory : Memory) (start word : Nat) : Memory :=
  Field.store memory start (Field.ofLeWord 4 word)

def DataRequest.send (request : DataRequest) (memory : Memory) : Memory :=
  let memory := storeWord memory 0 request.devId.toNat
  let memory := storeWord memory 4 request.frames.length
  let memory := storeWord memory 8 request.maxResponses
  storeAll memory requestHeader request.frames

structure Handled where
  rpcStatus : RpcStatus
  serviceStatus : PsaStatus
  dataLength : Nat
  memory : Memory
  device : EmulatedDevice

variable (digest : Bytes → Field 32) (device : EmulatedDevice)

/-- The frames of the request and those of the response start at different places of the buffer.
The length of the response is set with a successful status only. -/
def dataRequestHandler (memory : Memory) (dataLength size : Nat) : Handled :=
  let failed (status : RpcStatus) : Handled := ⟨status, psaSuccess, 0, memory, device⟩
  let requestCount := wordAt memory 4
  let maxCount := wordAt memory 8
  if dataLength < requestHeader then failed .errorInvalidRequestBody
  else if validateSize requestHeader requestCount dataLength = none then
    failed .errorInvalidRequestBody
  else if validateSize responseHeader maxCount size = none then failed .errorInvalidResponseBody
  else
    let served := rpmbBackendEmulatedDataRequest digest device (BitVec.ofNat 32 (wordAt memory 0))
      memory requestHeader requestCount responseHeader maxCount
    if served.1 ≠ psaSuccess then
      ⟨.success, served.1, 0, served.2.memory, served.2.device⟩
    else
      match validateSize responseHeader served.2.respIndex size with
      | none => ⟨.errorInvalidResponseBody, served.1, 0, served.2.memory, served.2.device⟩
      | some total =>
        ⟨.success, served.1, total, storeWord served.2.memory 0 served.2.respIndex, served.2.device⟩

def readResponse (responseMaxLength : Nat) (handled : Handled) : Exchanged :=
  let failed : Exchanged := ⟨psaErrorGenericError, handled.device, []⟩
  if handled.rpcStatus ≠ .success then failed
  else if handled.dataLength < responseHeader ∨ handled.dataLength > responseMaxLength then failed
  else if handled.dataLength ≠ calculateSize responseHeader (wordAt handled.memory 0) then failed
  else if handled.serviceStatus = psaSuccess then
    ⟨psaSuccess, handled.device, loadAll handled.memory responseHeader (wordAt handled.memory 0)⟩
  else ⟨handled.serviceStatus, handled.device, []⟩

section

variable (request : DataRequest) (memory : Memory)

/-- The provider's part of a call, in a buffer that holds the request and the response. -/
def callProvider (spare : Nat) : Handled :=
  let requestLength := calculateSize requestHeader request.frames.length
  let responseMaxLength := calculateSize responseHeader request.maxResponses
  dataRequestHandler digest device (request.send memory) requestLength
    (max requestLength responseMaxLength + spare)

def rpmbClientDataRequest (spare : Nat) : Exchanged :=
  readResponse (calculateSize responseHeader request.maxResponses)
    (callProvider digest device request memory spare)

/-- A call of the device with an array of requests and, behind it, one for the responses. -/
def directDataRequest (gap : Nat) : Exchanged :=
  let responses := frameSize * request.frames.length + gap
  let served := rpmbBackendEmulatedDataRequest digest device request.devId
    (storeAll memory 0 request.frames) 0 request.frames.length responses request.maxResponses
  ⟨served.1, served.2.device,
    if served.1 = psaSuccess then loadAll served.2.memory responses served.2.respIndex else []⟩

end

variable (request : DataRequest) (memory : Memory)

theorem wordAt_storeWord {start word : Nat} (fits : word < 2 ^ 32) :
    wordAt (storeWord memory start word) start = word := by
  unfold wordAt storeWord
  rw [Field.load_store, Field.leWord_ofLeWord (show word < 256 ^ 4 by omega)]

theorem wordAt_congr {first second : Memory} {start : Nat}
    (same : ∀ address, start ≤ address → address < start + 4 → first address = second address) :
    wordAt first start = wordAt second start := by
  unfold wordAt
  rw [Field.load_congr same]

theorem storeWord_outside {start word address : Nat}
    (outside : address < start ∨ start + 4 ≤ address) :
    storeWord memory start word address = memory address :=
  Field.store_outside _ outside

theorem send_devId : wordAt (request.send memory) 0 = request.devId.toNat := by
  refine (wordAt_congr ?_).trans (wordAt_storeWord memory request.devId.isLt)
  intro address _ below
  unfold DataRequest.send
  rw [storeAll_outside (by unfold requestHeader; omega), storeWord_outside _ (by omega),
    storeWord_outside _ (by omega)]

theorem send_count : wordAt (request.send memory) 4 = request.frames.length := by
  refine (wordAt_congr ?_).trans
    (wordAt_storeWord (storeWord memory 0 request.devId.toNat) request.frames_fit)
  intro address _ below
  unfold DataRequest.send
  rw [storeAll_outside (by unfold requestHeader; omega), storeWord_outside _ (by omega)]

theorem send_maxResponses : wordAt (request.send memory) 8 = request.maxResponses := by
  refine (wordAt_congr ?_).trans (wordAt_storeWord
    (storeWord (storeWord memory 0 request.devId.toNat) 4 request.frames.length)
    request.responses_fit)
  intro address _ below
  unfold DataRequest.send
  rw [storeAll_outside (by unfold requestHeader; omega)]

theorem send_frames :
    loadAll (request.send memory) requestHeader request.frames.length = request.frames :=
  loadAll_storeAll

def serveInPlace : PsaStatus × Serving :=
  rpmbBackendEmulatedDataRequest digest device request.devId (request.send memory) requestHeader
    request.frames.length responseHeader request.maxResponses

theorem serveInPlace_within :
    (serveInPlace digest device request memory).2.respIndex ≤ request.maxResponses := by
  unfold serveInPlace rpmbBackendEmulatedDataRequest
  split
  · exact Nat.zero_le _
  · exact (serveFrames_extends (Nat.zero_le _)).within

theorem callProvider_eq (spare : Nat) :
    callProvider digest device request memory spare =
      let served := serveInPlace digest device request memory
      if served.1 ≠ psaSuccess then
        ⟨.success, served.1, 0, served.2.memory, served.2.device⟩
      else
        ⟨.success, served.1, calculateSize responseHeader served.2.respIndex,
          storeWord served.2.memory 0 served.2.respIndex, served.2.device⟩ := by
  have within := serveInPlace_within digest device request memory
  have backend : rpmbBackendEmulatedDataRequest digest device
      (BitVec.ofNat 32 (wordAt (request.send memory) 0)) (request.send memory) requestHeader
      (wordAt (request.send memory) 4) responseHeader (wordAt (request.send memory) 8) =
      serveInPlace digest device request memory := by
    rw [send_devId, send_count, send_maxResponses, BitVec.ofNat_toNat, BitVec.setWidth_eq]
    rfl
  unfold callProvider dataRequestHandler
  dsimp only
  rw [backend, send_count, send_maxResponses]
  unfold validateSize
  rw [if_neg (by unfold calculateSize; omega), if_neg (by rw [if_neg (by omega)]; exact nofun),
    if_neg (by rw [if_neg (by omega)]; exact nofun)]
  split
  · rfl
  · have bound := Nat.mul_le_mul_left frameSize within
    rw [if_neg (by unfold calculateSize at *; omega)]

/-- The client reports the frames of a successful call, and no other status than a failure of its
own. -/
theorem rpmbClientDataRequest_eq (spare : Nat) :
    rpmbClientDataRequest digest device request memory spare =
      let served := serveInPlace digest device request memory
      if served.1 ≠ psaSuccess then ⟨psaErrorGenericError, served.2.device, []⟩
      else
        ⟨psaSuccess, served.2.device, loadAll served.2.memory responseHeader served.2.respIndex⟩ := by
  have within := serveInPlace_within digest device request memory
  have fits := request.responses_fit
  unfold rpmbClientDataRequest
  rw [callProvider_eq]
  by_cases failed : (serveInPlace digest device request memory).1 ≠ psaSuccess
  · rw [if_pos failed, if_pos failed]
    unfold readResponse
    dsimp only
    rw [if_neg (by decide), if_pos (by unfold responseHeader; omega)]
  · rw [if_neg failed, if_neg failed]
    unfold readResponse
    dsimp only
    have bound := Nat.mul_le_mul_left frameSize within
    rw [wordAt_storeWord _ (by omega), if_neg (by decide),
      if_neg (by unfold calculateSize; omega), if_neg (by exact not_not.mpr rfl),
      if_pos (not_not.mp failed)]
    congr 1
    apply loadAll_congr
    intro address above below
    exact storeWord_outside _ (by unfold responseHeader at above; omega)

end

section

variable {digest : Bytes → Field 32} {device : EmulatedDevice}

theorem answer_status {room : Nat} {frame : DataFrame} {status : PsaStatus}
    (refused : answer digest device room frame = .error status) :
    status = psaErrorInvalidArgument ∨ status = psaErrorBufferTooSmall := by
  unfold answer at refused
  split at refused
  · cases refused
  · split_ifs at refused ⊢
    exact Or.inr (Except.error.inj refused).symm
  · cases refused
  · split at refused
    · unfold answerRead at refused
      split at refused
      · split at refused
        · split at refused
          · exact Or.inr (Except.error.inj refused).symm
          · cases refused
        · cases refused
      · cases refused
    · exact Or.inr (Except.error.inj refused).symm
  · split_ifs at refused ⊢
    exact Or.inr (Except.error.inj refused).symm
  · exact Or.inl (Except.error.inj refused).symm

theorem exchange_status_ne (frames : List DataFrame) (room : Nat) :
    (exchange digest frames room device).status ≠ psaErrorGenericError := by
  induction frames generalizing room device with
  | nil => exact (by decide : psaSuccess ≠ psaErrorGenericError)
  | cons frame rest ih =>
    rw [exchange]
    cases answered : answer digest device room frame with
    | error status =>
      obtain rfl | rfl := answer_status answered
      · exact (by decide : psaErrorInvalidArgument ≠ psaErrorGenericError)
      · exact (by decide : psaErrorBufferTooSmall ≠ psaErrorGenericError)
    | ok pair => exact ih _

end

section

variable (digest : Bytes → Field 32) (device : EmulatedDevice) (request : DataRequest)
  (memory scratch : Memory) (spare gap : Nat)

/-- Requests in an array of their own are not disturbed. -/
theorem undisturbed_of_separate {frames : List DataFrame} {room requests responses : Nat}
    {device : EmulatedDevice} (separate : requests + frameSize * frames.length ≤ responses) :
    Undisturbed digest frames room device requests responses := by
  induction frames generalizing room requests responses device with
  | nil => trivial
  | cons frame rest ih =>
    rw [List.length_cons, Nat.mul_succ] at separate
    unfold Undisturbed
    cases answer digest device room frame with
    | error status => trivial
    | ok pair =>
      have size : frameSize = 512 := rfl
      have behind : requests + 508 ≤ responses := by omega
      exact ⟨Or.inr behind, Or.inr (by omega), ih (by omega)⟩

/-- A direct call answers as a function of the frames. -/
theorem directDataRequest_eq (device_zero : request.devId = 0) :
    directDataRequest digest device request scratch gap =
      let answered := exchange digest request.frames request.maxResponses device
      ⟨answered.status, answered.device,
        if answered.status = psaSuccess then answered.responses else []⟩ := by
  unfold directDataRequest rpmbBackendEmulatedDataRequest
  dsimp only
  rw [if_neg (not_not.mpr device_zero), serveFrames_eq loadAll_storeAll
    (undisturbed_of_separate digest (by omega))]
  rw [Nat.sub_zero, Nat.mul_zero, Nat.add_zero, Nat.zero_add, loadAll_storeAll]

theorem directDataRequest_status_ne :
    (directDataRequest digest device request scratch gap).status ≠ psaErrorGenericError := by
  by_cases device_zero : request.devId = 0
  · rw [directDataRequest_eq _ _ _ _ _ device_zero]
    exact exchange_status_ne _ _
  · unfold directDataRequest rpmbBackendEmulatedDataRequest
    dsimp only
    rw [if_pos device_zero]
    exact (by decide : psaErrorInvalidArgument ≠ psaErrorGenericError)

def answeredInPlace : Exchanged :=
  let served := serveInPlace digest device request memory
  ⟨served.1, served.2.device, loadAll served.2.memory responseHeader served.2.respIndex⟩

/-- The provider returns the status of a direct call, and the client reports the outcome of a direct
call. -/
def ServedInPlace : Prop :=
  (callProvider digest device request memory spare).serviceStatus =
      (directDataRequest digest device request scratch gap).status ∧
    rpmbClientDataRequest digest device request memory spare =
      directDataRequest digest device request scratch gap

/-- The request is served in place if the direct call succeeds and the device answers alike. -/
theorem servedInPlace_iff_answered :
    ServedInPlace digest device request memory scratch spare gap ↔
      (directDataRequest digest device request scratch gap).status = psaSuccess ∧
        answeredInPlace digest device request memory =
          directDataRequest digest device request scratch gap := by
  unfold ServedInPlace
  rw [callProvider_eq, rpmbClientDataRequest_eq]
  by_cases failed : (serveInPlace digest device request memory).1 ≠ psaSuccess
  · rw [if_pos failed, if_pos failed]
    constructor
    · rintro ⟨_, reported⟩
      have generic := congrArg Exchanged.status reported
      exact absurd generic.symm (directDataRequest_status_ne digest device request scratch gap)
    · rintro ⟨succeeded, same⟩
      exact absurd ((congrArg Exchanged.status same).trans succeeded) failed
  · rw [if_neg failed, if_neg failed]
    have succeeded := not_not.mp failed
    have answered : answeredInPlace digest device request memory =
        ⟨psaSuccess, (serveInPlace digest device request memory).2.device,
          loadAll (serveInPlace digest device request memory).2.memory responseHeader
            (serveInPlace digest device request memory).2.respIndex⟩ := by
      unfold answeredInPlace
      dsimp only
      rw [succeeded]
    rw [answered]
    constructor
    · rintro ⟨status, same⟩
      exact ⟨(congrArg Exchanged.status same).symm, same⟩
    · rintro ⟨direct, same⟩
      exact ⟨succeeded.trans direct.symm, same⟩

/-- Where the responses never get ahead of the requests, the device answers alike. -/
theorem answeredInPlace_of_behind (device_zero : request.devId = 0)
    (succeeded : (directDataRequest digest device request scratch gap).status = psaSuccess)
    (never : firstAhead digest request.frames request.maxResponses 0 device = none) :
    answeredInPlace digest device request memory =
      directDataRequest digest device request scratch gap := by
  have undisturbed : Undisturbed digest request.frames (request.maxResponses - 0) device
      requestHeader (responseHeader + frameSize * 0) := undisturbed_of_firstAhead never rfl
  have direct := directDataRequest_eq digest device request scratch gap device_zero
  dsimp only at direct
  rw [direct] at succeeded
  rw [direct, if_pos succeeded]
  unfold answeredInPlace serveInPlace rpmbBackendEmulatedDataRequest
  rw [if_neg (not_not.mpr device_zero), serveFrames_eq (send_frames request memory) undisturbed]
  dsimp only
  rw [Nat.sub_zero, Nat.mul_zero, Nat.add_zero, Nat.zero_add, loadAll_storeAll]

/-- Where they get ahead, a nonce that is not its own shift is lost. -/
theorem shiftedNonce_of_answered {frame : DataFrame} (device_zero : request.devId = 0)
    (succeeded : (directDataRequest digest device request scratch gap).status = psaSuccess)
    (ahead : firstAhead digest request.frames request.maxResponses 0 device = some frame)
    (same : answeredInPlace digest device request memory =
      directDataRequest digest device request scratch gap) :
    frame.nonce = shiftedNonce frame := by
  have direct := directDataRequest_eq digest device request scratch gap device_zero
  dsimp only at direct
  rw [direct] at succeeded same
  rw [if_pos succeeded] at same
  have geometry : requestHeader = responseHeader + frameSize * 0 + 8 + frameSize * 0 := rfl
  obtain ⟨i, answered, found, nonce, shifted⟩ := serveFrames_ahead geometry
    (Nat.zero_le request.maxResponses) (send_frames request memory) ahead
  have served : serveInPlace digest device request memory =
      serveFrames digest responseHeader request.maxResponses request.frames.length requestHeader
        ⟨device, request.send memory, 0⟩ := if_neg (not_not.mpr device_zero)
  rw [Nat.zero_add, ← served] at shifted
  rw [Nat.sub_zero] at found
  have loaded : loadAll (serveInPlace digest device request memory).2.memory responseHeader
      (serveInPlace digest device request memory).2.respIndex =
      (exchange digest request.frames request.maxResponses device).responses :=
    congrArg Exchanged.responses same
  rw [← loaded] at found
  obtain ⟨present, rfl⟩ := List.getElem?_eq_some_iff.mp found
  rw [getElem_loadAll] at nonce
  exact nonce.symm.trans shifted

theorem devId_of_succeeded
    (succeeded : (directDataRequest digest device request scratch gap).status = psaSuccess) :
    request.devId = 0 := by
  by_contra other
  unfold directDataRequest rpmbBackendEmulatedDataRequest at succeeded
  dsimp only at succeeded
  rw [if_pos other] at succeeded
  exact absurd (show psaErrorInvalidArgument = psaSuccess from succeeded) (by decide)

/-- A request is served in the shared buffer as it is directly if the direct call succeeds and the
responses never get ahead of the requests. It is not if the direct call fails, or if the first read
with which they get ahead has a nonce other than its own shift. -/
theorem servedInPlace_behind :
    ((directDataRequest digest device request scratch gap).status = psaSuccess →
      firstAhead digest request.frames request.maxResponses 0 device = none →
      ServedInPlace digest device request memory scratch spare gap) ∧
    (ServedInPlace digest device request memory scratch spare gap →
      (directDataRequest digest device request scratch gap).status = psaSuccess ∧
        ∀ frame, firstAhead digest request.frames request.maxResponses 0 device = some frame →
          frame.nonce = shiftedNonce frame) := by
  rw [servedInPlace_iff_answered]
  have device_zero := devId_of_succeeded digest device request scratch gap
  constructor
  · intro succeeded never
    exact ⟨succeeded, answeredInPlace_of_behind digest device request memory scratch gap
      (device_zero succeeded) succeeded never⟩
  · rintro ⟨succeeded, same⟩
    exact ⟨succeeded, fun frame ahead => shiftedNonce_of_answered digest device request memory
      scratch gap (device_zero succeeded) succeeded ahead same⟩

end

/-- A device of the smallest size with a key. -/
def programmedDevice : EmulatedDevice where
  buffer := fun _ => 0
  bufferSize := 128 * 1024
  key := fun _ => 0
  keyProgrammed := true
  writeCounter := 0
  result := DataFrame.zero

def readFrame (address blockCount : Nat) (nonce : Field 16) : DataFrame :=
  { DataFrame.zero with
    nonce := nonce
    address := u16ToRpmbField address
    blockCount := u16ToRpmbField blockCount
    msgType := u16ToRpmbField RequestType.authenticatedDataRead.code }

/-- A read of the first two blocks. -/
def twoBlockRead : DataRequest where
  devId := 0
  frames := [readFrame 0 2 fun i => UInt8.ofNat i]
  maxResponses := 2
  frames_fit := by decide
  responses_fit := by decide

/-- The second response to a read of two blocks is written with what the first one has left of the
nonce. -/
theorem twoBlockRead_disturbed :
    (directDataRequest (fun _ _ => 0) programmedDevice twoBlockRead (fun _ => 0) 0).status =
        psaSuccess ∧
      ¬ ServedInPlace (fun _ _ => 0) programmedDevice twoBlockRead (fun _ => 0) (fun _ => 0)
        0 0 := by
  have succeeded : (directDataRequest (fun _ _ => 0) programmedDevice twoBlockRead (fun _ => 0)
      0).status = psaSuccess := by
    decide
  refine ⟨succeeded, ?_⟩
  rw [servedInPlace_iff_answered]
  rintro ⟨_, same⟩
  have found : (firstAhead (fun _ _ => 0) twoBlockRead.frames twoBlockRead.maxResponses 0
      programmedDevice).map (fun frame => (frame.nonce 0, shiftedNonce frame 0)) =
      some (0, 8) := by decide
  obtain ⟨frame, ahead, values⟩ := Option.map_eq_some_iff.mp found
  have nonce := shiftedNonce_of_answered _ _ _ _ _ _ rfl succeeded ahead same
  obtain ⟨first, second⟩ := Prod.mk.inj values
  rw [nonce, second] at first
  exact absurd first (by decide)

end Rpmb
