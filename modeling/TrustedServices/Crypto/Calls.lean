import TrustedServices.Common.Tlv
import TrustedServices.Crypto.ContextPool

/- Calls of the crypto service with one record of output, over shared memory. -/
namespace Crypto

open Lib Common

def psaErrorGenericError : PsaStatus := -132
def psaErrorBufferTooSmall : PsaStatus := -138
def psaErrorInsufficientMemory : PsaStatus := -141

def rpcErrorInternal : RpcStatus := -1
def rpcErrorInvalidRequestBody : RpcStatus := -6

/-- The response of a request. The size of its buffer is the length of `data`. -/
structure ResponseBuffer where
  data : Bytes
  dataLength : Nat
  deriving DecidableEq, Repr

structure Answer where
  rpcStatus : RpcStatus
  serviceStatus : PsaStatus
  response : ResponseBuffer
  deriving DecidableEq, Repr

/-- The memory of a session, shared for each call (up to the largest size that there is) or once. -/
inductive SessionMemory
  | forEachCall (largest : Nat)
  | forSession (size : Nat)
  deriving DecidableEq, Repr

def SessionMemory.begin : SessionMemory → Nat → Nat → Option Nat
  | memory, requestLength, responseMaxLength =>
    let required := max requestLength responseMaxLength
    if required > 2 ^ 32 - 1 then none
    else
      match memory with
      | .forEachCall largest => if required ≤ largest then some required else none
      | .forSession size => if required ≤ size then some size else none

/-- The response goes to the memory of the request. -/
def responseOver (size : Nat) (request : Bytes) : ResponseBuffer :=
  ⟨request ++ List.replicate (size - request.length) 0, 0⟩

structure Received where
  rpcStatus : RpcStatus
  serviceStatus : PsaStatus
  response : Bytes
  deriving DecidableEq, Repr

def rpcCallerSessionInvoke (answer : Answer) : Received :=
  ⟨answer.rpcStatus, answer.serviceStatus,
    if answer.rpcStatus ≠ rpcSuccess ∨ answer.response.dataLength > answer.response.data.length then
      []
    else answer.response.data.take answer.response.dataLength⟩

section

variable (response : ResponseBuffer) (output : Bytes)

/-- A response of one record. The length that is `reported` for it need not be the one in the
record. -/
def serializeOutput (tag : BitVec 16) (reported : Nat) : RpcStatus × ResponseBuffer :=
  match tlvEncode (tlvIteratorBegin response.data) (TlvRecord.ofBuffer tag output) with
  | none => (rpcErrorInternal, response)
  | some iter => (rpcSuccess, ⟨iter.buffer, tlvRequiredSpace reported⟩)

def serializeExportKeyResp : RpcStatus × ResponseBuffer :=
  serializeOutput response output 1 output.length

def serializeExportPublicKeyResp : RpcStatus × ResponseBuffer :=
  serializeOutput response output 1 output.length

def serializeAsymmetricDecryptResp : RpcStatus × ResponseBuffer :=
  serializeOutput response output 1 output.length

def serializeAsymmetricEncryptResp : RpcStatus × ResponseBuffer :=
  serializeOutput response output 1 output.length

def serializeGenerateRandomResp : RpcStatus × ResponseBuffer :=
  serializeOutput response output 1 output.length

def serializeCipherUpdateResp : RpcStatus × ResponseBuffer :=
  serializeOutput response output 1 output.length

/-- The AEAD provider reports the length in the record. -/
def serializeAeadUpdateResp : RpcStatus × ResponseBuffer :=
  serializeOutput response output 1 (BitVec.ofNat 16 output.length).toNat

end

/-- A caller's output buffer of a size, from a response: the status and what is copied. -/
def decodeOutput (tag : BitVec 16) (outputSize : Nat) (received : Received) :
    PsaStatus × Bytes :=
  if received.rpcStatus ≠ rpcSuccess then (psaErrorGenericError, [])
  else if received.serviceStatus ≠ psaSuccess then (received.serviceStatus, [])
  else
    match tlvFindDecode received.response tag with
    | none => (psaErrorGenericError, [])
    | some (record, _) =>
      if record.length.toNat ≤ outputSize then (psaSuccess, record.value)
      else (psaErrorBufferTooSmall, [])

variable {response : ResponseBuffer} {output : Bytes} {tag : BitVec 16} {reported : Nat}

theorem SessionMemory.begin_enough {memory : SessionMemory} {requestLength responseMaxLength : Nat}
    {size : Nat} (begun : memory.begin requestLength responseMaxLength = some size) :
    requestLength ≤ size ∧ responseMaxLength ≤ size := by
  unfold SessionMemory.begin at begun
  dsimp only at begun
  split_ifs at begun ⊢
  split at begun
  · split_ifs at begun ⊢
    cases begun
    omega
  · split_ifs at begun ⊢
    cases begun
    omega

theorem length_responseOver {size : Nat} {request : Bytes} (fits : request.length ≤ size) :
    (responseOver size request).data.length = size := by
  unfold responseOver
  rw [List.length_append, List.length_replicate]
  omega

theorem serializeOutput_eq :
    serializeOutput response output tag reported =
      if tlvHdrLen + output.length % 2 ^ 16 ≤ response.data.length then
        (rpcSuccess, ⟨(TlvRecord.ofBuffer tag output).bytes ++
          response.data.drop (tlvHdrLen + output.length % 2 ^ 16), tlvRequiredSpace reported⟩)
      else (rpcErrorInternal, response) := by
  unfold serializeOutput
  rw [tlvEncode_begin, TlvRecord.ofBuffer_length]
  by_cases fits : tlvHdrLen + output.length % 2 ^ 16 ≤ response.data.length
  · rw [if_pos fits, if_pos fits]
    rfl
  · rw [if_neg fits, if_neg fits]

theorem serializeOutput_size :
    (serializeOutput response output tag reported).2.data.length = response.data.length := by
  rw [serializeOutput_eq]
  split
  · rw [List.length_append, TlvRecord.length_ofBuffer_bytes, List.length_drop]
    omega
  · rfl

/-- What is decoded from a response, if at least its record is reported. -/
theorem serializeOutput_find (enough : output.length % 2 ^ 16 ≤ reported)
    (small : reported < 2 ^ 64 - tlvHdrLen)
    (done : (serializeOutput response output tag reported).1 = rpcSuccess) :
    ∃ behind, tlvFindDecode ((serializeOutput response output tag reported).2.data.take
        (serializeOutput response output tag reported).2.dataLength) tag =
      some (⟨tag, BitVec.ofNat 16 output.length, output.take (output.length % 2 ^ 16)⟩, behind) := by
  rw [serializeOutput_eq] at done ⊢
  split_ifs at done ⊢ with fits
  · dsimp only
    rw [tlvRequiredSpace_eq small, List.take_append, List.take_of_length_le (by
      rw [TlvRecord.length_ofBuffer_bytes]
      omega)]
    exact ⟨_, tlvFindDecode_ofBuffer⟩
  · cases done

theorem decodeOutput_success {outputSize : Nat} {received : Received}
    (success : (decodeOutput tag outputSize received).1 = psaSuccess) :
    received.rpcStatus = rpcSuccess ∧ received.serviceStatus = psaSuccess ∧
      ∃ record behind, tlvFindDecode received.response tag = some (record, behind) ∧
        record.length.toNat ≤ outputSize ∧
        decodeOutput tag outputSize received = (psaSuccess, record.value) := by
  unfold decodeOutput at success ⊢
  split_ifs at success ⊢ with done accepted
  · exact absurd success (by decide)
  · exact absurd success accepted
  · cases found : tlvFindDecode received.response tag with
    | none =>
      rw [found] at success
      have failed : psaErrorGenericError = psaSuccess := success
      exact absurd failed (by decide)
    | some decoded =>
      rw [found] at success
      dsimp only at success ⊢
      split_ifs at success with fits
      · exact ⟨not_not.mp done, not_not.mp accepted, decoded.1, decoded.2, rfl, fits,
          if_pos fits⟩
      · exact absurd success (by decide)

end Crypto
