import TrustedServices.Rpc.Request
import TrustedServices.Fwu.Types

/- The decoding of requests to the update service. -/
namespace Fwu

open Lib Rpc Accessing

/-- The requests that carry parameters. A provider sets the number of images that a partial
update may name. -/
inductive FwuRequest
  | beginStaging (maxUpdateCount : Nat)
  | openStream
  | writeStream
  | readStream
  | commit
  | acceptImage
  deriving DecidableEq, Repr

inductive OpenOpType
  | read
  | write
  deriving DecidableEq, Repr

/-- The decoded parameters. The payload of a write stays in the request. -/
inductive FwuParameters
  | beginStaging (vendorFlags partialUpdateCount : Nat) (updateGuid : Bytes)
  | openStream (imageTypeUuid : Bytes) (opType : OpenOpType)
  | writeStream (handle dataLength : Nat) (data : Access RpcBuffer)
  | readStream (handle : Nat)
  | commit (handle : Nat) (accepted : Bool) (maxAtomicLen : Nat)
  | acceptImage (imageTypeUuid : Bytes)
  deriving DecidableEq, Repr

def FwuParameters.pointers : FwuParameters → List (Access RpcBuffer)
  | .writeStream _ _ data => [data]
  | _ => []

def sizeofFwuBeginStagingIn : Nat := 12

def sizeofFwuOpenIn : Nat := 17

def sizeofFwuWriteStreamIn : Nat := 8

def sizeofFwuReadStreamIn : Nat := 4

def sizeofFwuCommitIn : Nat := 12

def sizeofFwuAcceptImageIn : Nat := 20

def uuidOctetsLen : Nat := 16

/-- The length of the GUIDs to copy, computed in 32 bits. -/
def updateGuidLen (partialUpdateCount : Nat) : Nat := uuidOctetsLen * partialUpdateCount % 2 ^ 32

abbrev Decoding := Accessing RpcBuffer (Except RpcStatus FwuParameters)

/-- Decode a request that is long enough for its fixed part. -/
def withFixedPart (fixedLen dataLength : Nat) (decode : Decoding) : Decoding :=
  if fixedLen ≤ dataLength then decode else pure (.error .errorInvalidRequestBody)

/-- The full length is checked for overflow only. -/
def fwuDeserializeBeginStagingReq (maxUpdateCount dataLength : Nat) : Decoding :=
  withFixedPart sizeofFwuBeginStagingIn dataLength do
    let partialUpdateCount ← loadWord .request 8 4
    match addOverflow sizeofFwuBeginStagingIn partialUpdateCount with
    | none => return .error .errorInvalidRequestBody
    | some _ =>
      if maxUpdateCount < partialUpdateCount then return .error .errorInternal
      else
        let vendorFlags ← loadWord .request 4 4
        let updateGuid ← load .request sizeofFwuBeginStagingIn (updateGuidLen partialUpdateCount)
        return .ok (.beginStaging vendorFlags partialUpdateCount updateGuid)

def openOpType (opType : Nat) : Option OpenOpType :=
  if opType = 0 then some .read else if opType = 1 then some .write else none

section

variable (dataLength : Nat)

def fwuDeserializeOpenReq : Decoding :=
  withFixedPart sizeofFwuOpenIn dataLength do
    let opType ← loadWord .request 16 1
    match openOpType opType with
    | some opType =>
      let imageTypeUuid ← load .request 0 uuidOctetsLen
      return .ok (.openStream imageTypeUuid opType)
    | none => return .error .errorInvalidRequestBody

def fwuDeserializeWriteStreamReq : Decoding :=
  withFixedPart sizeofFwuWriteStreamIn dataLength do
    let handle ← loadWord .request 0 4
    let dataLen ← loadWord .request 4 4
    return .ok (.writeStream handle dataLen ⟨.request, sizeofFwuWriteStreamIn, dataLen⟩)

def fwuDeserializeReadStreamReq : Decoding :=
  withFixedPart sizeofFwuReadStreamIn dataLength do
    let handle ← loadWord .request 0 4
    return .ok (.readStream handle)

def fwuDeserializeCommitReq : Decoding :=
  withFixedPart sizeofFwuCommitIn dataLength do
    let handle ← loadWord .request 0 4
    let acceptanceReq ← loadWord .request 4 4
    let maxAtomicLen ← loadWord .request 8 4
    return .ok (.commit handle (acceptanceReq == 0) maxAtomicLen)

def fwuDeserializeAcceptReq : Decoding :=
  withFixedPart sizeofFwuAcceptImageIn dataLength do
    let imageTypeUuid ← load .request 4 uuidOctetsLen
    return .ok (.acceptImage imageTypeUuid)

def FwuRequest.deserialize : FwuRequest → Decoding
  | .beginStaging maxUpdateCount => fwuDeserializeBeginStagingReq maxUpdateCount dataLength
  | .openStream => fwuDeserializeOpenReq dataLength
  | .writeStream => fwuDeserializeWriteStreamReq dataLength
  | .readStream => fwuDeserializeReadStreamReq dataLength
  | .commit => fwuDeserializeCommitReq dataLength
  | .acceptImage => fwuDeserializeAcceptReq dataLength

end

variable {dataLength : Nat} {memory : Memory RpcBuffer}

/-- A request of `dataLength` bytes; the response plays no part in decoding. -/
def requestBound (dataLength : Nat) : RpcBuffer → Nat
  | .request => dataLength
  | .response => 0

@[simp] theorem requestBound_request : requestBound dataLength .request = dataLength := rfl

/-- If a decoding succeeds, what it has read and what its result points to lie inside the
request. -/
def Confined (dataLength : Nat) (decoding : Decoding) (memory : Memory RpcBuffer) : Prop :=
  ∀ parameters, (decoding memory).value = .ok parameters →
    Within (requestBound dataLength) decoding memory ∧
      ∀ pointer ∈ parameters.pointers, pointer.Within (requestBound dataLength)

def requestWord (memory : Memory RpcBuffer) (offset width : Nat) : Nat :=
  (loadWord RpcBuffer.request offset width memory).value

/-- The tail that a request announces lies inside it. -/
def FwuRequest.TailInside (dataLength : Nat) (memory : Memory RpcBuffer) : FwuRequest → Prop
  | .beginStaging maxUpdateCount =>
    sizeofFwuBeginStagingIn ≤ dataLength → requestWord memory 8 4 ≤ maxUpdateCount →
      sizeofFwuBeginStagingIn + updateGuidLen (requestWord memory 8 4) ≤ dataLength
  | .writeStream =>
    sizeofFwuWriteStreamIn ≤ dataLength →
      sizeofFwuWriteStreamIn + requestWord memory 4 4 ≤ dataLength
  | _ => True

/-- A decoding of a request without a tail is confined. -/
theorem confined_of_fixedPart {fixedLen : Nat} {decode : Decoding}
    (within : fixedLen ≤ dataLength → Within (requestBound dataLength) decode memory)
    (pointers : ∀ parameters, (decode memory).value = .ok parameters → parameters.pointers = []) :
    Confined dataLength (withFixedPart fixedLen dataLength decode) memory := by
  unfold Confined withFixedPart
  split_ifs with enough
  · intro parameters success
    refine ⟨within enough, ?_⟩
    rw [pointers parameters success]
    exact fun pointer member => nomatch member
  · intro parameters success
    cases success

theorem requestWord_lt (offset width : Nat) : requestWord memory offset width < 256 ^ width := by
  have bound := leNat_lt (load RpcBuffer.request offset width memory).value
  simpa [requestWord, loadWord, load] using bound

/-- The overflow check on the full length always passes. -/
theorem addOverflow_count (offset : Nat) :
    addOverflow sizeofFwuBeginStagingIn (requestWord memory offset 4) =
      some (sizeofFwuBeginStagingIn + requestWord memory offset 4) := by
  have bound := @requestWord_lt memory offset 4
  unfold addOverflow
  rw [if_pos]
  unfold sizeofFwuBeginStagingIn
  omega

theorem beginStaging_confined (maxUpdateCount : Nat) :
    Confined dataLength (fwuDeserializeBeginStagingReq maxUpdateCount dataLength) memory ↔
      (FwuRequest.beginStaging maxUpdateCount).TailInside dataLength memory := by
  have count : (loadWord RpcBuffer.request 8 4 memory).value = requestWord memory 8 4 := rfl
  have header : sizeofFwuBeginStagingIn = 12 := rfl
  unfold Confined fwuDeserializeBeginStagingReq withFixedPart FwuRequest.TailInside
  by_cases enough : sizeofFwuBeginStagingIn ≤ dataLength
  · by_cases known : maxUpdateCount < requestWord memory 8 4
    · simp only [enough, ↓reduceIte, value_bind, memory_loadWord, count, addOverflow_count, known,
        value_pure, reduceCtorEq, false_implies, implies_true, Nat.not_le.mpr known]
    · simp only [enough, ↓reduceIte, value_bind, memory_loadWord, count, addOverflow_count, known,
        value_pure, Except.ok.injEq, within_bind, within_loadWord, within_load, within_pure,
        memory_load, requestBound_request, forall_eq', FwuParameters.pointers, forall_const,
        Nat.not_lt.mp known, List.not_mem_nil, false_implies, implies_true, and_true]
      omega
  · simp [enough]

theorem writeStream_confined :
    Confined dataLength (fwuDeserializeWriteStreamReq dataLength) memory ↔
      FwuRequest.writeStream.TailInside dataLength memory := by
  have length : (loadWord RpcBuffer.request 4 4 memory).value = requestWord memory 4 4 := rfl
  have header : sizeofFwuWriteStreamIn = 8 := rfl
  unfold Confined fwuDeserializeWriteStreamReq withFixedPart FwuRequest.TailInside
  by_cases enough : sizeofFwuWriteStreamIn ≤ dataLength
  · simp only [enough, ↓reduceIte, value_bind, memory_loadWord, length, value_pure,
      Except.ok.injEq, forall_eq', within_bind, within_loadWord, within_pure,
      requestBound_request, FwuParameters.pointers, List.forall_mem_singleton, Access.within_iff,
      forall_const, and_true]
    omega
  · simp [enough]

theorem openStream_confined : Confined dataLength (fwuDeserializeOpenReq dataLength) memory := by
  apply confined_of_fixedPart
  · intro enough
    unfold sizeofFwuOpenIn at enough
    rw [within_bind, within_loadWord, requestBound_request]
    refine ⟨by omega, ?_⟩
    split
    · simp only [within_bind, within_load, within_pure, requestBound_request, uuidOctetsLen,
        and_true]
      omega
    · simp
  · intro parameters success
    rw [value_bind] at success
    cases opType : openOpType (loadWord RpcBuffer.request 16 1 memory).value with
    | none =>
      rw [opType] at success
      cases success
    | some opType' =>
      rw [opType] at success
      cases success
      rfl

theorem readStream_confined :
    Confined dataLength (fwuDeserializeReadStreamReq dataLength) memory := by
  apply confined_of_fixedPart
  · intro enough
    unfold sizeofFwuReadStreamIn at enough
    simp only [within_bind, within_loadWord, within_pure, requestBound_request, and_true]
    omega
  · intro parameters success
    cases success
    rfl

theorem commit_confined : Confined dataLength (fwuDeserializeCommitReq dataLength) memory := by
  apply confined_of_fixedPart
  · intro enough
    unfold sizeofFwuCommitIn at enough
    simp only [within_bind, within_loadWord, within_pure, requestBound_request, and_true]
    omega
  · intro parameters success
    cases success
    rfl

theorem acceptImage_confined : Confined dataLength (fwuDeserializeAcceptReq dataLength) memory := by
  apply confined_of_fixedPart
  · intro enough
    unfold sizeofFwuAcceptImageIn at enough
    simp only [within_bind, within_load, within_pure, requestBound_request, uuidOctetsLen, and_true]
    omega
  · intro parameters success
    cases success
    rfl

/-- The decoding of a request is confined to it exactly if the tail that the request announces
is. -/
theorem deserialize_confined_iff (request : FwuRequest) (dataLength : Nat)
    (memory : Memory RpcBuffer) :
    Confined dataLength (request.deserialize dataLength) memory ↔
      request.TailInside dataLength memory := by
  cases request with
  | beginStaging maxUpdateCount => exact beginStaging_confined maxUpdateCount
  | openStream => exact iff_of_true openStream_confined trivial
  | writeStream => exact writeStream_confined
  | readStream => exact iff_of_true readStream_confined trivial
  | commit => exact iff_of_true commit_confined trivial
  | acceptImage => exact iff_of_true acceptImage_confined trivial

/-- A request whose words are all one. -/
def onesRequest : Memory RpcBuffer := fun _ position => if position % 4 = 0 then 1 else 0

/-- Requests that consist of their fixed part and announce one GUID, and one byte. -/
theorem fixedParts_notConfined :
    ¬ Confined 12 ((FwuRequest.beginStaging 4).deserialize 12) onesRequest ∧
      ¬ Confined 8 (FwuRequest.writeStream.deserialize 8) onesRequest := by
  have read : ∀ parameters length (decoding : Decoding),
      (decoding onesRequest).value = .ok parameters →
      ¬ (Within (requestBound length) decoding onesRequest ∧
        ∀ pointer ∈ parameters.pointers, pointer.Within (requestBound length)) →
      ¬ Confined length decoding onesRequest := fun parameters length decoding success outside
        confined => outside (confined parameters success)
  exact ⟨read (.beginStaging 1 1 _) _ _ rfl (by decide), read (.writeStream 1 1 _) _ _ rfl
    (by decide)⟩

end Fwu
