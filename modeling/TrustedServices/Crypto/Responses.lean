import TrustedServices.Crypto.Calls

/- The handlers that return output of any length. -/
namespace Crypto

open Lib Common

/-- What a handler meets before it serializes: whether the request is decoded, the status of the
key's attributes or of the context, whether a buffer is allocated, and the result of the backend. -/
structure Course where
  decoded : RpcStatus
  ready : PsaStatus
  allocated : Bool
  status : PsaStatus
  output : Bytes
  deriving DecidableEq, Repr

section

/-- The common shape of the handlers. `unallocated` is their answer when there is no buffer. -/
def outputHandler (serialize : ResponseBuffer → Bytes → RpcStatus × ResponseBuffer)
    (unallocated : RpcStatus × PsaStatus) (course : Course) (response : ResponseBuffer) : Answer :=
  if course.decoded ≠ rpcSuccess then ⟨course.decoded, psaSuccess, response⟩
  else if course.ready ≠ psaSuccess then ⟨rpcSuccess, course.ready, response⟩
  else if course.allocated = false then ⟨unallocated.1, unallocated.2, response⟩
  else if course.status = psaSuccess then
    let serialized := serialize response course.output
    ⟨serialized.1, psaSuccess, serialized.2⟩
  else ⟨rpcSuccess, course.status, response⟩

variable (course : Course) (response : ResponseBuffer)

def exportKeyHandler : Answer :=
  outputHandler serializeExportKeyResp (rpcErrorResourceFailure, psaSuccess)
    { course with ready := psaSuccess } response

def exportPublicKeyHandler : Answer :=
  outputHandler serializeExportPublicKeyResp (rpcErrorResourceFailure, psaSuccess)
    { course with ready := psaSuccess } response

def asymmetricDecryptHandler : Answer :=
  outputHandler serializeAsymmetricDecryptResp (rpcErrorResourceFailure, psaSuccess) course response

def asymmetricEncryptHandler : Answer :=
  outputHandler serializeAsymmetricEncryptResp (rpcErrorResourceFailure, psaSuccess) course response

def generateRandomHandler : Answer :=
  outputHandler serializeGenerateRandomResp (rpcErrorResourceFailure, psaSuccess)
    { course with ready := psaSuccess } response

def cipherUpdateHandler : Answer :=
  outputHandler serializeCipherUpdateResp (rpcSuccess, psaErrorInsufficientMemory) course response

def aeadUpdateHandler : Answer :=
  outputHandler serializeAeadUpdateResp (rpcSuccess, psaErrorInsufficientMemory) course response

end

inductive OutputOperation
  | exportKey
  | exportPublicKey
  | asymmetricDecrypt
  | asymmetricEncrypt
  | generateRandom
  | cipherUpdate
  | aeadUpdate
  deriving DecidableEq, Repr

def OutputOperation.handler : OutputOperation → Course → ResponseBuffer → Answer
  | .exportKey => exportKeyHandler
  | .exportPublicKey => exportPublicKeyHandler
  | .asymmetricDecrypt => asymmetricDecryptHandler
  | .asymmetricEncrypt => asymmetricEncryptHandler
  | .generateRandom => generateRandomHandler
  | .cipherUpdate => cipherUpdateHandler
  | .aeadUpdate => aeadUpdateHandler

def OutputOperation.tag : OutputOperation → BitVec 16
  | .exportKey => 1
  | .exportPublicKey => 1
  | .asymmetricDecrypt => 1
  | .asymmetricEncrypt => 1
  | .generateRandom => 1
  | .cipherUpdate => 1
  | .aeadUpdate => 1

section

/-- The backend's source of random bytes, with the memory of the provider. -/
structure RandomSource where
  allocated : Nat → Bool
  status : Nat → PsaStatus
  bytes : Nat → Bytes
  length_bytes : ∀ size, (bytes size).length = size

variable (source : RandomSource)

def deserializeGenerateRandomReq (request : Bytes) : RpcStatus × Nat :=
  if 4 ≤ request.length then (rpcSuccess, leNat (slice request 0 4))
  else (rpcErrorInvalidRequestBody, 0)

def RandomSource.course (request : Bytes) : Course :=
  let size := (deserializeGenerateRandomReq request).2
  ⟨(deserializeGenerateRandomReq request).1, psaSuccess, source.allocated size, source.status size,
    source.bytes size⟩

/-- The status, and the bytes that are copied to the output. The size is sent in 32 bits. -/
def cryptoCallerGenerateRandom (memory : SessionMemory) (outputSize : Nat) : PsaStatus × Bytes :=
  let request := leBytes 4 outputSize
  match memory.begin request.length (tlvRequiredSpace outputSize) with
  | none => (psaErrorGenericError, [])
  | some size =>
    decodeOutput OutputOperation.generateRandom.tag outputSize
      (rpcCallerSessionInvoke
        (generateRandomHandler (source.course request) (responseOver size request)))

end

/-- The response lies in its buffer, and the caller decodes the output from it. -/
structure Answer.Carries (answer : Answer) (tag : BitVec 16) (output : Bytes) : Prop where
  inside : answer.response.dataLength ≤ answer.response.data.length
  decoded : ∃ record behind,
    tlvFindDecode (answer.response.data.take answer.response.dataLength) tag =
      some (record, behind) ∧ record.length.toNat = output.length ∧ record.value = output

variable {operation : OutputOperation} {course : Course} {response : ResponseBuffer}

def OutputOperation.reported : OutputOperation → Bytes → Nat
  | .aeadUpdate, output => output.length % 2 ^ 16
  | _, output => output.length

variable {output : Bytes}

theorem OutputOperation.reported_small (small : output.length < 2 ^ 16) :
    operation.reported output = output.length := by
  cases operation with
  | aeadUpdate => exact Nat.mod_eq_of_lt small
  | exportKey | exportPublicKey | asymmetricDecrypt | asymmetricEncrypt | generateRandom
  | cipherUpdate => rfl

theorem outputHandler_success {serialize : ResponseBuffer → Bytes → RpcStatus × ResponseBuffer}
    {unallocated : RpcStatus × PsaStatus}
    (failure : unallocated.1 ≠ rpcSuccess ∨ unallocated.2 ≠ psaSuccess)
    (done : (outputHandler serialize unallocated course response).rpcStatus = rpcSuccess)
    (success : (outputHandler serialize unallocated course response).serviceStatus = psaSuccess) :
    (course.allocated = true ∧ course.status = psaSuccess) ∧
      (serialize response course.output).1 = rpcSuccess ∧
      (outputHandler serialize unallocated course response).response =
        (serialize response course.output).2 := by
  unfold outputHandler at done success ⊢
  split at done
  · rename_i undecoded
    exact absurd done undecoded
  · rename_i decoded
    rw [if_neg decoded] at success ⊢
    split at done
    · rename_i unready
      rw [if_pos unready] at success
      exact absurd success unready
    · rename_i ready
      rw [if_neg ready] at success ⊢
      split at done
      · rename_i missing
        rw [if_pos missing] at success
        exact absurd success (failure.resolve_left (not_not_intro done))
      · rename_i allocated
        rw [if_neg allocated] at success ⊢
        split_ifs at done ⊢ with refused
        · exact ⟨⟨(Bool.not_eq_false _).mp allocated, refused⟩, done, rfl⟩
        · rw [if_neg refused] at success
          exact absurd success refused

theorem OutputOperation.handler_success
    (done : (operation.handler course response).rpcStatus = rpcSuccess)
    (success : (operation.handler course response).serviceStatus = psaSuccess) :
    (serializeOutput response course.output operation.tag
        (operation.reported course.output)).1 = rpcSuccess ∧
      (operation.handler course response).response =
        (serializeOutput response course.output operation.tag
          (operation.reported course.output)).2 := by
  cases operation with
  | exportKey | exportPublicKey | asymmetricDecrypt | asymmetricEncrypt | generateRandom =>
    exact (outputHandler_success (.inl (by decide)) done success).2
  | cipherUpdate => exact (outputHandler_success (.inr (by decide)) done success).2
  | aeadUpdate =>
    have made := (outputHandler_success (.inr (by decide)) done success).2
    unfold serializeAeadUpdateResp at made
    rwa [BitVec.toNat_ofNat] at made

variable {answer : Answer} {tag : BitVec 16}

theorem serializeOutput_carries (small : output.length < 2 ^ 16)
    (serialized : (serializeOutput response output tag output.length).1 = rpcSuccess)
    (made : answer.response = (serializeOutput response output tag output.length).2) :
    answer.Carries tag output := by
  have same : output.length % 2 ^ 16 = output.length := Nat.mod_eq_of_lt small
  have notHuge : output.length < 2 ^ 64 - tlvHdrLen := by unfold tlvHdrLen; omega
  obtain ⟨behind, found⟩ := serializeOutput_find (Nat.mod_le _ _) notHuge serialized
  constructor
  · rw [made]
    rw [serializeOutput_eq] at serialized
    split_ifs at serialized ⊢ with fits
    · rw [serializeOutput_size, serializeOutput_eq, if_pos fits]
      rw [tlvRequiredSpace_eq notHuge]
      rwa [same] at fits
    · cases serialized
  · rw [made]
    refine ⟨_, _, found, ?_, ?_⟩
    · rw [BitVec.toNat_ofNat, same]
    · rw [same, List.take_length]

theorem OutputOperation.handler_carries
    (done : (operation.handler course response).rpcStatus = rpcSuccess)
    (success : (operation.handler course response).serviceStatus = psaSuccess)
    (small : course.output.length < 2 ^ 16) :
    (operation.handler course response).Carries operation.tag course.output := by
  obtain ⟨serialized, made⟩ := OutputOperation.handler_success done success
  rw [OutputOperation.reported_small small] at serialized made
  exact serializeOutput_carries small serialized made

theorem Answer.Carries.small (carries : answer.Carries tag output) : output.length < 2 ^ 16 := by
  obtain ⟨record, _, _, length, _⟩ := carries.decoded
  omega

/-- A caller that succeeds with a response that carries its output has got that output. -/
theorem decodeOutput_carried {outputSize : Nat}
    (carries : answer.Carries tag output)
    (success : (decodeOutput tag outputSize (rpcCallerSessionInvoke answer)).1 = psaSuccess) :
    (decodeOutput tag outputSize (rpcCallerSessionInvoke answer)).2 = output ∧
      output.length ≤ outputSize := by
  obtain ⟨done, _, record, behind, found, fits, result⟩ := decodeOutput_success success
  obtain ⟨carried, _, decoded, length, value⟩ := carries.decoded
  have received : (rpcCallerSessionInvoke answer).response =
      answer.response.data.take answer.response.dataLength :=
    if_neg (not_or.mpr ⟨not_not_intro done, Nat.not_lt.mpr carries.inside⟩)
  rw [received] at found
  have same := (Prod.mk.inj (Option.some.inj (found.symm.trans decoded))).1
  rw [same] at fits result
  rw [result, ← length]
  exact ⟨value, fits⟩

variable {source : RandomSource} {memory : SessionMemory} {outputSize : Nat}

theorem deserializeGenerateRandomReq_leBytes (small : outputSize < 2 ^ 32) :
    deserializeGenerateRandomReq (leBytes 4 outputSize) = (rpcSuccess, outputSize) := by
  unfold deserializeGenerateRandomReq
  rw [length_leBytes, if_pos (Nat.le_refl 4)]
  have whole : slice (leBytes 4 outputSize) 0 4 = leBytes 4 outputSize := by
    have front := slice_leBytes_front 4 outputSize []
    rwa [List.append_nil] at front
  rw [whole, leNat_leBytes 4 outputSize (by omega)]

theorem RandomSource.course_output (small : outputSize < 2 ^ 32) :
    (source.course (leBytes 4 outputSize)).output = source.bytes outputSize := by
  unfold RandomSource.course
  rw [deserializeGenerateRandomReq_leBytes small]

section

variable (success : (cryptoCallerGenerateRandom source memory outputSize).1 = psaSuccess)

include success

/-- A caller's output is filled if it is below 64 KiB. -/
theorem cryptoCallerGenerateRandom_filled (small : outputSize < 2 ^ 16) :
    (cryptoCallerGenerateRandom source memory outputSize).2 = source.bytes outputSize := by
  unfold cryptoCallerGenerateRandom at success ⊢
  dsimp only at success ⊢
  split at success
  · exact absurd success (by decide)
  · obtain ⟨done, accepted, _⟩ := decodeOutput_success success
    have output := @RandomSource.course_output source outputSize (by omega)
    have carries := @OutputOperation.handler_carries .generateRandom _ _ done accepted (by
      rw [output, source.length_bytes]
      exact small)
    rw [← output]
    exact (decodeOutput_carried carries success).1

theorem cryptoCallerGenerateRandom_short :
    (cryptoCallerGenerateRandom source memory outputSize).2.length < 2 ^ 16 := by
  unfold cryptoCallerGenerateRandom at success ⊢
  dsimp only at success ⊢
  split at success
  · exact absurd success (by decide)
  · obtain ⟨_, _, record, _, found, _, result⟩ := decodeOutput_success success
    rw [result]
    rw [tlvFindDecode_length found]
    exact record.length.isLt

end

/-- The responses that carry their output, and the calls for random bytes that fill theirs, are the
ones for less than 64 KiB. -/
theorem cryptoResponses_whole_iff (operation : OutputOperation) (course : Course)
    (response : ResponseBuffer) (source : RandomSource) (memory : SessionMemory)
    (outputSize : Nat) :
    ((operation.handler course response).rpcStatus = rpcSuccess →
      (operation.handler course response).serviceStatus = psaSuccess →
      ((operation.handler course response).Carries operation.tag course.output ↔
        course.output.length < 2 ^ 16)) ∧
    ((cryptoCallerGenerateRandom source memory outputSize).1 = psaSuccess →
      ((cryptoCallerGenerateRandom source memory outputSize).2 = source.bytes outputSize ↔
        outputSize < 2 ^ 16)) := by
  refine ⟨fun done success => ⟨fun carries => carries.small, ?_⟩,
    fun success => ⟨fun filled => ?_, ?_⟩⟩
  · exact OutputOperation.handler_carries done success
  · have short := cryptoCallerGenerateRandom_short success
    rwa [filled, source.length_bytes] at short
  · exact cryptoCallerGenerateRandom_filled success

/-- A call that gets its memory and its random bytes succeeds with the length cut to 16 bits. -/
theorem cryptoCallerGenerateRandom_cut {size : Nat} (small : outputSize < 2 ^ 32)
    (begun : memory.begin 4 (tlvHdrLen + outputSize) = some size)
    (allocated : source.allocated outputSize = true)
    (produced : source.status outputSize = psaSuccess) :
    cryptoCallerGenerateRandom source memory outputSize =
      (psaSuccess, (source.bytes outputSize).take (outputSize % 2 ^ 16)) := by
  have notHuge : outputSize < 2 ^ 64 - tlvHdrLen := by unfold tlvHdrLen; omega
  have cut := Nat.mod_le outputSize (2 ^ 16)
  have room := SessionMemory.begin_enough begun
  have request := deserializeGenerateRandomReq_leBytes small
  have fits : tlvHdrLen + (source.bytes outputSize).length % 2 ^ 16 ≤
      (responseOver size (leBytes 4 outputSize)).data.length := by
    rw [length_responseOver (by rw [length_leBytes]; exact room.1), source.length_bytes]
    omega
  have handled : generateRandomHandler (source.course (leBytes 4 outputSize))
      (responseOver size (leBytes 4 outputSize)) =
        ⟨rpcSuccess, psaSuccess, (serializeOutput (responseOver size (leBytes 4 outputSize))
          (source.bytes outputSize) 1 outputSize).2⟩ := by
    unfold generateRandomHandler RandomSource.course outputHandler
    rw [request]
    dsimp only
    rw [if_neg (not_not_intro rfl), if_neg (not_not_intro rfl), if_neg (by rw [allocated]; decide),
      if_pos produced]
    unfold serializeGenerateRandomResp
    rw [source.length_bytes, serializeOutput_eq, if_pos fits]
  have serialized : (serializeOutput (responseOver size (leBytes 4 outputSize))
      (source.bytes outputSize) 1 outputSize).1 = rpcSuccess := by
    rw [serializeOutput_eq, if_pos fits]
  have inside : (serializeOutput (responseOver size (leBytes 4 outputSize))
      (source.bytes outputSize) 1 outputSize).2.dataLength ≤
        (serializeOutput (responseOver size (leBytes 4 outputSize))
          (source.bytes outputSize) 1 outputSize).2.data.length := by
    rw [serializeOutput_size, length_responseOver (by rw [length_leBytes]; exact room.1),
      serializeOutput_eq, if_pos fits]
    rw [tlvRequiredSpace_eq notHuge]
    exact room.2
  obtain ⟨behind, found⟩ := serializeOutput_find
    (by rw [source.length_bytes]; exact cut) notHuge serialized
  unfold cryptoCallerGenerateRandom
  dsimp only
  rw [length_leBytes, tlvRequiredSpace_eq notHuge, begun]
  dsimp only
  rw [handled]
  unfold decodeOutput rpcCallerSessionInvoke
  rw [if_neg (not_not_intro rfl), if_neg (not_not_intro rfl),
    if_neg (not_or.mpr ⟨not_not_intro rfl, Nat.not_lt.mpr inside⟩)]
  dsimp only [OutputOperation.tag]
  rw [found]
  dsimp only
  rw [BitVec.toNat_ofNat, source.length_bytes, if_pos cut]

/-- A source of zeros with memory for any output. -/
def zeroSource : RandomSource where
  allocated _ := true
  status _ := psaSuccess
  bytes size := List.replicate size 0
  length_bytes _ := List.length_replicate

theorem cryptoResponses_whole_zeros :
    (cryptoCallerGenerateRandom zeroSource (.forEachCall (2 ^ 32)) 2).1 = psaSuccess ∧
      (cryptoCallerGenerateRandom zeroSource (.forEachCall (2 ^ 32)) 2).2 = [0, 0] := by
  have success : (cryptoCallerGenerateRandom zeroSource (.forEachCall (2 ^ 32)) 2).1 =
      psaSuccess := by
    rw [@cryptoCallerGenerateRandom_cut _ _ _ 6 (by decide) (by decide) rfl rfl]
  obtain ⟨_, filled⟩ := cryptoResponses_whole_iff .generateRandom (zeroSource.course [])
    (responseOver 0 []) zeroSource (.forEachCall (2 ^ 32)) 2
  exact ⟨success, (filled success).mpr (by decide)⟩

/-- A call for 64 KiB of random bytes succeeds, and its output is left as it was. -/
theorem generateRandom_unfilled :
    cryptoCallerGenerateRandom zeroSource (.forEachCall (2 ^ 32)) (2 ^ 16) = (psaSuccess, []) := by
  rw [@cryptoCallerGenerateRandom_cut _ _ _ (4 + 2 ^ 16) (by decide) (by decide) rfl rfl]
  rfl

end Crypto
