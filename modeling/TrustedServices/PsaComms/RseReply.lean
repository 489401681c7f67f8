import TrustedServices.Lib.Confinement

/- Replies of the RSE and how they are decoded into the output vectors of a PSA call. -/
namespace PsaComms

open Lib Accessing

abbrev PsaStatus := Int32

def psaSuccess : PsaStatus := 0
def psaErrorNotSupported : PsaStatus := -134
def psaErrorInvalidArgument : PsaStatus := -135
def psaErrorBufferTooSmall : PsaStatus := -138

section

inductive RseProtocol
  | embed
  | pointerAccess
  deriving DecidableEq, Repr

def psaMaxIovec : Nat := 4

structure RseRequest where
  inLens : List Nat
  outLens : List Nat
  vectors : inLens.length + outLens.length ≤ psaMaxIovec

variable (request : RseRequest)

def commsMhuMsgSize : Nat := 0x2200

/-- `select_protocol_version`, with the sizes of both messages without their trailers. -/
def RseRequest.protocol : RseProtocol :=
  if 20 + request.inLens.sum > commsMhuMsgSize - 4 ∨
      16 + request.outLens.sum > commsMhuMsgSize - 4 then .pointerAccess
  else .embed

def RseRequest.outLen (vector : Nat) : Nat := request.outLens.getD vector 0

/-- Where the space for an output vector starts in the carveout: behind the input vectors and the
output vectors before it. -/
def RseRequest.outOffset (vector : Nat) : Nat :=
  request.inLens.sum + (request.outLens.take vector).sum

end

/-- The memory that decoding uses. The carveout is one memory; it is named with the output vector
that it is read for. -/
inductive RseBuffer
  | reply
  | carveout (vector : Nat)
  | output (vector : Nat)
  deriving DecidableEq, Repr

abbrev RseProgram := Accessing RseBuffer

/-- The result of decoding, with the lengths of the output vectors and the protocol that the reply
was read with. -/
structure Decoded where
  status : PsaStatus
  returnVal : Option Nat
  lens : List Nat
  protocol : Option RseProtocol
  deriving DecidableEq, Repr

/-- The sizes of `serialized_rse_comms_header_t` and of a reply that is embedded, without its
trailer. -/
def headerSize : Nat := 4
def embedReplySize : Nat := 12

def loadReturnVal : RseProgram Nat := Accessing.loadWord .reply headerSize 4

/-- The loop over the output vectors from one on, whose lengths are given. The value is whether the
loop ends and the lengths it leaves. -/
def embedCopy (replySize : Nat) : Nat → Nat → List Nat → RseProgram (Bool × List Nat)
  | _, _, [] => return (true, [])
  | vector, payloadOffset, len :: rest =>
    if embedReplySize + payloadOffset > replySize then return (false, len :: rest)
    else do
      let size ← Accessing.loadWord .reply (headerSize + 4 + 2 * vector) 2
      let payload ← Accessing.load .reply (headerSize + embedReplySize + payloadOffset) size
      Accessing.store (.output vector) 0 payload
      let others ← embedCopy replySize (vector + 1) (payloadOffset + size) rest
      return (others.1, size :: others.2)

def rseProtocolEmbedDeserializeReply (outLens : List Nat) (replySize : Nat) :
    RseProgram Decoded := do
  let copied ← embedCopy replySize 0 0 outLens
  if copied.1 then
    let returnVal ← loadReturnVal
    return ⟨psaSuccess, some returnVal, copied.2, some .embed⟩
  else return ⟨psaErrorInvalidArgument, none, copied.2, some .embed⟩

/-- The request as decoding finds it in the request buffer: the sizes of the input vectors, and
where the output vectors are in the carveout. -/
structure PointerAccessMsg where
  inSize : Nat
  outOffset : Nat → Nat

def loadOutSize (vector : Nat) : RseProgram Nat :=
  Accessing.loadWord .reply (headerSize + 4 + 4 * vector) 4

def sumOutSizes : Nat → Nat → RseProgram Nat
  | _, 0 => return 0
  | vector, count + 1 => do
      let size ← loadOutSize vector
      let sizes ← sumOutSizes (vector + 1) count
      return size + sizes

def pointerAccessCopy (msg : PointerAccessMsg) : Nat → Nat → RseProgram (List Nat)
  | _, 0 => return []
  | vector, count + 1 => do
      let size ← loadOutSize vector
      let payload ← Accessing.load (.carveout vector) (msg.outOffset vector) size
      Accessing.store (.output vector) 0 payload
      let lens ← pointerAccessCopy msg (vector + 1) count
      return size :: lens

def rseProtocolPointerAccessDeserializeReply (msg : PointerAccessMsg) (carveoutSize : Nat)
    (outLens : List Nat) : RseProgram Decoded := do
  let outSize ← sumOutSizes 0 outLens.length
  if msg.inSize + outSize > carveoutSize then
    return ⟨psaErrorBufferTooSmall, none, outLens, some .pointerAccess⟩
  else
    let returnVal ← loadReturnVal
    if returnVal = 0 then
      let lens ← pointerAccessCopy msg 0 outLens.length
      return ⟨psaSuccess, some returnVal, lens, some .pointerAccess⟩
    else return ⟨psaSuccess, some returnVal, outLens, some .pointerAccess⟩

def RseRequest.pointerAccessMsg (request : RseRequest) (foreign : PointerAccessMsg) :
    PointerAccessMsg :=
  match request.protocol with
  | .pointerAccess => ⟨request.inLens.sum, request.outOffset⟩
  | .embed => foreign

/-- `foreign` is what an embedded request looks like when it is read as one of the other protocol. -/
def rseProtocolDeserializeReply (request : RseRequest) (foreign : PointerAccessMsg)
    (carveoutSize replySize : Nat) : RseProgram Decoded := do
  let protocolVer ← Accessing.loadWord .reply 0 1
  if protocolVer = 0 then rseProtocolEmbedDeserializeReply request.outLens replySize
  else if protocolVer = 1 then
    rseProtocolPointerAccessDeserializeReply (request.pointerAccessMsg foreign) carveoutSize
      request.outLens
  else return ⟨psaErrorNotSupported, none, request.outLens, none⟩

variable (request : RseRequest) (replySize : Nat)

/-- What decoding may touch. -/
def RseArea : RseBuffer → Nat → Prop
  | .reply, position => position < replySize
  | .carveout vector, position =>
    request.outOffset vector ≤ position ∧
      position < request.outOffset vector + request.outLen vector
  | .output vector, position => position < request.outLen vector

structure ReplyConfined (foreign : PointerAccessMsg) (carveoutSize : Nat)
    (memory : Memory RseBuffer) : Prop where
  touches : Accessing.TouchesOnly (RseArea request replySize)
    (rseProtocolDeserializeReply request foreign carveoutSize replySize) memory
  lens : ∀ vector, (rseProtocolDeserializeReply request foreign carveoutSize replySize
    memory).value.lens.getD vector 0 ≤ request.outLen vector
  protocol : ∀ used, (rseProtocolDeserializeReply request foreign carveoutSize replySize
    memory).value.protocol = some used → used = request.protocol

variable (reply : Nat → UInt8)

def embedOutSize (vector : Nat) : Nat := wordAt reply (headerSize + 4 + 2 * vector) 2

def embedOffset : Nat → Nat
  | 0 => 0
  | vector + 1 => embedOffset vector + embedOutSize reply vector

/-- An output vector is decoded: what is in front of it is not longer than the reply. -/
def EmbedDecoded (vector : Nat) : Prop :=
  embedReplySize + embedOffset reply vector ≤ replySize

/-- The size and the payload of an output vector are in the reply, and the payload fits its
buffer. -/
structure EmbedVectorFits (vector : Nat) : Prop where
  sizeInside : headerSize + 4 + 2 * vector + 2 ≤ replySize
  fits : embedOutSize reply vector ≤ request.outLen vector
  inside : embedOutSize reply vector = 0 ∨
    headerSize + embedReplySize + embedOffset reply vector + embedOutSize reply vector ≤ replySize

structure EmbedFits : Prop where
  vectors : ∀ vector < request.outLens.length, EmbedDecoded replySize reply vector →
    EmbedVectorFits request replySize reply vector
  returnVal : (∀ vector < request.outLens.length, EmbedDecoded replySize reply vector) →
    headerSize + 4 ≤ replySize

def outSize (vector : Nat) : Nat := wordAt reply (headerSize + 4 + 4 * vector) 4

def outSizes : Nat → Nat → Nat
  | _, 0 => 0
  | vector, count + 1 => outSize reply vector + outSizes (vector + 1) count

/-- The sizes are in the reply and, if they are used, fit the output vectors. -/
structure PointerAccessFits (carveoutSize : Nat) : Prop where
  sizes : request.outLens.length ≠ 0 →
    headerSize + 4 + 4 * request.outLens.length ≤ replySize
  returnVal : request.inLens.sum + outSizes reply 0 request.outLens.length ≤ carveoutSize →
    headerSize + 4 ≤ replySize
  fits : request.inLens.sum + outSizes reply 0 request.outLens.length ≤ carveoutSize →
    wordAt reply headerSize 4 = 0 →
    ∀ vector < request.outLens.length, outSize reply vector ≤ request.outLen vector

/-- The reply is of the request's protocol, or of none that is known, and fits the request. -/
structure ReplyFits (carveoutSize : Nat) : Prop where
  header : 1 ≤ replySize
  embed : wordAt reply 0 1 = 0 → request.protocol = .embed ∧ EmbedFits request replySize reply
  pointerAccess : wordAt reply 0 1 = 1 →
    request.protocol = .pointerAccess ∧ PointerAccessFits request replySize reply carveoutSize

end PsaComms
