import TrustedServices.Lib.Custody
import TrustedServices.PsaComms.RseReply

/- RSE comms and OpenAMP. Of a buffer only its custody is kept. -/
namespace PsaComms.Channels

open Lib Handling

def psaNullHandle : Int32 := 0
def psaErrorGenericError : Int32 := -132
def psaErrorCommunicationFailure : Int32 := -145

/-- A request length that a messenger accepts. -/
def ValidLength (length : Nat) : Prop := length ≠ 0 ∧ length < 2 ^ 32

instance (length : Nat) : Decidable (ValidLength length) := inferInstanceAs (Decidable (_ ∧ _))

inductive RseBuffer
  | request
  | response
  deriving DecidableEq, Repr

/-- Which buffers the messenger holds: `req_buf` and `resp_buf`. -/
structure RseMessenger where
  reqBuf : Bool
  respBuf : Bool
  deriving DecidableEq, Repr

abbrev RseProgram := Handling RseMessenger RseBuffer

/-- What happens outside the channel during a call, with what the reply is decoded to. -/
structure RseTransport where
  reqCalloc : Bool
  serialized : Int32
  respCalloc : Bool
  send : Bool
  waitData : Bool
  receive : Bool
  decoded : Decoded

def rseCommsMessengerCallBegin (transport : RseTransport) (reqLen : Nat) : RseProgram Bool := do
  if ValidLength reqLen then
    let messenger ← getState
    if messenger.reqBuf then return false
    else if transport.reqCalloc then
      note .acquire .request
      setState { messenger with reqBuf := true }
      return true
    else return false
  else return false

def rseCommsPlatformInvoke (transport : RseTransport) : RseProgram Bool := do
  note .read .request
  return transport.send && transport.waitData && transport.receive

def rseCommsMessengerCallInvoke (transport : RseTransport) : RseProgram Bool := do
  if transport.respCalloc then
    note .acquire .response
    let invoked ← rseCommsPlatformInvoke transport
    if invoked then
      let messenger ← getState
      setState { messenger with respBuf := true }
      return true
    else
      note .release .response
      return false
  else return false

def rseCommsMessengerCallEnd : RseProgram Unit := do
  let messenger ← getState
  if messenger.reqBuf then note .release .request
  if messenger.respBuf then note .release .response
  setState ⟨false, false⟩

/-- A call with a request of some length. -/
structure RseCall where
  reqLen : Nat
  transport : RseTransport

/-- A reply with pointers is decoded with the offsets in the request. -/
def rseProtocolDeserializeReply (decoded : Decoded) : RseProgram Int32 := do
  note .read .response
  if decoded.protocol = some .pointerAccess then note .read .request
  return decoded.status

def rsePsaCall (call : RseCall) : RseProgram Int32 := do
  let begun ← rseCommsMessengerCallBegin call.transport call.reqLen
  if begun then
    if call.transport.serialized = psaSuccess then
      let invoked ← rseCommsMessengerCallInvoke call.transport
      if invoked then
        let deserialized ← rseProtocolDeserializeReply call.transport.decoded
        if deserialized = psaSuccess then
          rseCommsMessengerCallEnd
          return .ofNat (call.transport.decoded.returnVal.getD 0)
        else return deserialized
      else return psaErrorGenericError
    else return call.transport.serialized
  else return psaErrorGenericError

inductive Transaction
  | idle
  | inProgress
  | invoked
  deriving DecidableEq, Repr

/-- The request buffer of a call, its responses in the order of their delivery, and a pointer that
was never set. -/
inductive AmpBuffer
  | request
  | response (index : Nat)
  | stray
  deriving DecidableEq, Repr

structure AmpMessenger where
  status : Transaction
  respBuf : Option AmpBuffer
  deriving DecidableEq, Repr

abbrev AmpProgram := Handling AmpMessenger AmpBuffer

/-- What happens outside the channel during a call: the size of the request buffer that is obtained,
the number of bytes that are sent, whether the peer's signal is received, how many messages are
delivered with it, and the reply in the last one. -/
structure AmpTransport where
  txBuffer : Option Nat
  sent : Option Nat
  received : Bool
  delivered : Nat
  reply : Int32

variable (transport : AmpTransport)

/-- A buffer that is too small is kept. -/
def openampVirtioCallBegin (reqLen : Nat) : AmpProgram Bool :=
  match transport.txBuffer with
  | none => return false
  | some size => do
      note .acquire .request
      return decide (reqLen ≤ size)

def openampMessengerCallBegin (reqLen : Nat) : AmpProgram Bool := do
  if ValidLength reqLen then
    let messenger ← getState
    if messenger.status = .idle then
      let begun ← openampVirtioCallBegin transport reqLen
      if begun then
        setState { messenger with status := .inProgress }
        return true
      else return false
    else return false
  else return false

def deliver : Nat → Nat → AmpProgram Unit
  | _, 0 => return ()
  | index, count + 1 => do
      note .acquire (.response index)
      let messenger ← getState
      setState { messenger with respBuf := some (.response index) }
      deliver (index + 1) count

/-- The request buffer is handed over once it is sent. -/
def openampVirtioCallInvoke : AmpProgram Bool :=
  match transport.sent with
  | none => return false
  | some sent => do
      note .release .request
      if some sent = transport.txBuffer then
        if transport.received then
          deliver 0 transport.delivered
          return true
        else return false
      else return false

/-- The response buffer, which may be missing, if the request is invoked. -/
def openampMessengerCallInvoke : AmpProgram (Option (Option AmpBuffer)) := do
  let messenger ← getState
  if messenger.status = .inProgress then
    let invoked ← openampVirtioCallInvoke transport
    if invoked then
      let messenger ← getState
      setState { messenger with status := .invoked }
      return some messenger.respBuf
    else return none
  else return none

def openampVirtioCallEnd (messenger : AmpMessenger) : AmpProgram Unit := do
  match messenger.respBuf with
  | some buffer => note .release buffer
  | none => pure ()

def openampMessengerCallEnd : AmpProgram Unit := do
  let messenger ← getState
  if messenger.status = .idle then return ()
  else
    openampVirtioCallEnd messenger
    setState ⟨.idle, none⟩

def nsOpenampMsgSize : Nat := 36

def psaConnect : AmpProgram Int32 := do
  let begun ← openampMessengerCallBegin transport nsOpenampMsgSize
  if begun then
    let invoked ← openampMessengerCallInvoke transport
    match invoked with
    | none => return psaNullHandle
    | some response =>
      openampMessengerCallEnd
      -- the reply is read from the buffer that has been released
      match response with
      | some buffer =>
        note .read buffer
        return transport.reply
      | none => return psaNullHandle
  else return psaErrorGenericError

/-- What is read of a response before the call is ended. -/
def readOutputs (outLen : Nat) (buffer : AmpBuffer) : AmpProgram Unit := do
  if outLen = 0 then return ()
  else
    note .read buffer
    if transport.reply = psaSuccess then note .read buffer else return ()

def psaCall (handle : Int32) (reqLen outLen : Nat) : AmpProgram Int32 := do
  if handle = psaNullHandle then return psaErrorInvalidArgument
  else
    let begun ← openampMessengerCallBegin transport reqLen
    if begun then
      let invoked ← openampMessengerCallInvoke transport
      match invoked with
      | none => return psaErrorGenericError
      | some (some buffer) =>
        readOutputs transport outLen buffer
        openampMessengerCallEnd
        note .read buffer
        return transport.reply
      | some none =>
        openampMessengerCallEnd
        return psaErrorCommunicationFailure
    else return psaErrorGenericError

def psaClose (handle : Int32) : AmpProgram Unit := do
  if handle = psaNullHandle then return ()
  else
    let begun ← openampMessengerCallBegin transport nsOpenampMsgSize
    if begun then
      let invoked ← openampMessengerCallInvoke transport
      match invoked with
      | none => return ()
      | some _ => openampMessengerCallEnd
    else return ()

inductive AmpRequest
  | connect
  | call (handle : Int32) (inLens : List Nat) (outLen : Nat)
  | close (handle : Int32)

def AmpRequest.length : AmpRequest → Nat
  | .connect => nsOpenampMsgSize
  | .call _ inLens outLen => nsOpenampMsgSize + 8 * inLens.length + 8 * outLen + inLens.sum
  | .close _ => nsOpenampMsgSize

structure AmpCall where
  request : AmpRequest
  transport : AmpTransport

def performAmp (call : AmpCall) : AmpProgram Int32 :=
  match call.request with
  | .connect => psaConnect call.transport
  | .call handle inLens outLen =>
    psaCall call.transport handle (AmpRequest.call handle inLens outLen).length outLen
  | .close handle => do
      psaClose call.transport handle
      return 0

end PsaComms.Channels
