import TrustedServices.Lib.Blocking
import TrustedServices.Lib.Bytes
import TrustedServices.Lib.Registers

/- The direct message routing extension of libsp. Only 32-bit messages are delivered. -/
namespace LibSp

open Lib

abbrev EndpointId := BitVec 16

abbrev FfaResult := BitVec 32

def ffaOk : FfaResult := 0

def ffaBusy : FfaResult := -4

def ffaDenied : FfaResult := -6

def spIdInvalid : EndpointId := 0xffff

def ffaSuccess32 : BitVec 32 := 0x84000061

def ffaMsgSendDirectReq32 : BitVec 32 := 0x8400006f

def ffaMsgSendDirectResp32 : BitVec 32 := 0x84000070

def ffaIs32BitFunc (functionId : BitVec 32) : Bool := functionId &&& 0x40000000 = 0

abbrev Args32 := Registers 32

structure FfaDirectMsg where
  functionId : BitVec 32
  sourceId : EndpointId
  destinationId : EndpointId
  args : Args32

def FfaDirectMsg.zero : FfaDirectMsg := ⟨0, 0, 0, fun _ => 0⟩

def ffaRoutingExtRcBit : BitVec 32 := 0x80000000

def ffaRoutingExtErrorBit : BitVec 32 := 0x40000000

def ffaRoutingExtBitsMask : BitVec 32 := ffaRoutingExtRcBit ||| ffaRoutingExtErrorBit

def isRcMessage (msg : FfaDirectMsg) : Bool := msg.args 0 &&& ffaRoutingExtRcBit ≠ 0

def isErrorMessage (msg : FfaDirectMsg) : Bool := msg.args 0 &&& ffaRoutingExtErrorBit ≠ 0

def getErrorCodeFromMessage (msg : FfaDirectMsg) : FfaResult := msg.args 1

def rcErrorArgs (errorCode : FfaResult) : Args32 :=
  ![ffaRoutingExtErrorBit ||| ffaRoutingExtRcBit, errorCode, 0, 0, 0]

inductive FfaCall
  | msgWait
  | sendDirectReq32 (source destination : EndpointId) (args : Args32)
  | sendDirectReq64 (source destination : EndpointId) (args : Registers 64)
  | sendDirectResp32 (source destination : EndpointId) (args : Args32)
  | sendDirectResp64 (source destination : EndpointId) (args : Registers 64)

/-- A request returns with its response; the other calls return with the next request. -/
def FfaCall.isRequest : FfaCall → Bool
  | .sendDirectReq32 _ _ _ | .sendDirectReq64 _ _ _ => true
  | _ => false

structure FfaError where
  code : FfaResult
  isError : code ≠ ffaOk

/-- What a call returns: an error, a success without a message, or a 32-bit message. -/
inductive Delivery
  | error (error : FfaError)
  | success
  | message (source destination : EndpointId) (args : Args32)

/-- The message of a delivery. A 64-bit request has no 32-bit response. -/
def Delivery.unpack (call : FfaCall) : Delivery → Option FfaDirectMsg
  | .error _ => none
  | .success => some { FfaDirectMsg.zero with functionId := ffaSuccess32 }
  | .message source destination args =>
    match call with
    | .sendDirectReq32 _ _ _ => some ⟨ffaMsgSendDirectResp32, source, destination, args⟩
    | .sendDirectReq64 _ _ _ =>
      some { FfaDirectMsg.zero with functionId := ffaMsgSendDirectResp32 }
    | _ => some ⟨ffaMsgSendDirectReq32, source, destination, args⟩

structure Exchange where
  call : FfaCall
  delivery : Option Delivery

inductive SpRcState
  | idle
  | root
  | leaf
  | rcRoot
  | internal
  | forwarding
  deriving DecidableEq, Repr

structure Routing where
  state : SpRcState
  ownId : EndpointId
  callerId : EndpointId
  calleeId : EndpointId
  deriving DecidableEq, Repr

/-- A partition in a call: what the FF-A layer will deliver, and the exchanges so far, the latest
first. -/
structure SpState where
  routing : Routing
  pending : List Delivery
  log : List Exchange

/-- A call to the FF-A layer. A call that fails leaves the message as it is. -/
def ffaCall (call : FfaCall) (msg : FfaDirectMsg) :
    Blocking SpState (FfaResult × FfaDirectMsg) := fun sp =>
  match sp.pending with
  | [] => (none, { sp with log := ⟨call, none⟩ :: sp.log })
  | delivery :: rest =>
    let later := { sp with pending := rest, log := ⟨call, some delivery⟩ :: sp.log }
    match delivery with
    | .error error => (some (error.code, msg), later)
    | delivery => (some (ffaOk, (delivery.unpack call).getD msg), later)

def setRouting (change : Routing → Routing) : Blocking SpState Unit :=
  Blocking.modify fun sp => { sp with routing := change sp.routing }

/-- Enough rounds for every loop: each round takes a delivery. -/
def rounds : Blocking SpState Nat := Blocking.read fun sp => sp.pending.length + 1

def sendRcErrorMessage (req : FfaDirectMsg) (errorCode : FfaResult) :
    Blocking SpState (FfaResult × FfaDirectMsg) :=
  ffaCall (.sendDirectResp32 req.destinationId req.sourceId (rcErrorArgs errorCode)) req

def sendRcErrorMessageToRcRoot (resp : FfaDirectMsg) (errorCode : FfaResult) :
    Blocking SpState (FfaResult × FfaDirectMsg) := do
  let routing ← Blocking.read (·.routing)
  ffaCall (.sendDirectReq32 routing.ownId routing.calleeId (rcErrorArgs errorCode)) resp

def denyUnexpectedRcResponses :
    Nat → FfaDirectMsg → Blocking SpState (FfaResult × FfaDirectMsg)
  | 0, _ => Blocking.stuck
  | fuel + 1, req =>
    if isRcMessage req then do
      let (result, req) ← sendRcErrorMessage req ffaDenied
      if result ≠ ffaOk then pure (result, req) else denyUnexpectedRcResponses fuel req
    else pure (ffaOk, req)

def denyUnexpectedRequests : Nat → FfaDirectMsg → Blocking SpState (FfaResult × FfaDirectMsg)
  | 0, _ => Blocking.stuck
  | fuel + 1, req => do
      let routing ← Blocking.read (·.routing)
      if isRcMessage req = false ∨ req.sourceId ≠ routing.callerId then do
        let (result, req) ← sendRcErrorMessage req ffaBusy
        if result ≠ ffaOk then do
          let (result, req) ← ffaCall .msgWait req
          if result ≠ ffaOk then pure (result, req) else denyUnexpectedRequests fuel req
        else denyUnexpectedRequests fuel req
      else pure (ffaOk, req)

def requestReceivedHook (req : FfaDirectMsg) : Blocking SpState (FfaResult × FfaDirectMsg) := do
  let fuel ← rounds
  let (result, req) ← denyUnexpectedRcResponses fuel req
  if result ≠ ffaOk then pure (result, req)
  else do
    setRouting fun _ => ⟨.leaf, req.destinationId, req.sourceId, spIdInvalid⟩
    if ffaIs32BitFunc req.functionId then
      let args := Function.update req.args 0 (req.args 0 &&& ~~~ffaRoutingExtBitsMask)
      pure (ffaOk, { req with args := args })
    else pure (ffaOk, req)

/-- Messages that are not RC responses, or are not from the caller, are denied. -/
def awaitRcResponse (fuel : Nat) (answer : FfaResult × FfaDirectMsg) :
    Blocking SpState (FfaResult × FfaDirectMsg) :=
  if answer.1 ≠ ffaOk then pure answer else denyUnexpectedRequests fuel answer.2

/-- The RC root gets the RC response, or the error in its place. -/
def answerRcRoot (resp : FfaDirectMsg) (answer : FfaResult × FfaDirectMsg) :
    Blocking SpState (FfaResult × FfaDirectMsg) :=
  if answer.1 ≠ ffaOk then sendRcErrorMessageToRcRoot resp answer.1
  else do
    setRouting fun routing => { routing with state := .internal }
    let routing ← Blocking.read (·.routing)
    ffaCall (.sendDirectReq32 routing.ownId routing.calleeId answer.2.args) resp

/-- The loop of the hook after a direct request. RC requests of the callee go to the caller, and
RC responses of the caller to the callee. -/
def forwardRcMessages :
    Nat → FfaDirectMsg → FfaDirectMsg → Blocking SpState (FfaResult × FfaDirectMsg)
  | 0, _, _ => Blocking.stuck
  | fuel + 1, resp, rcResp =>
    if isRcMessage resp then
      if isErrorMessage resp then pure (getErrorCodeFromMessage resp, resp)
      else do
        setRouting fun routing => { routing with state := .forwarding }
        let routing ← Blocking.read (·.routing)
        let sent ← ffaCall (.sendDirectResp32 routing.ownId routing.callerId resp.args) rcResp
        let answer ← awaitRcResponse fuel sent
        let (result, resp) ← answerRcRoot resp answer
        if result ≠ ffaOk then pure (result, resp) else forwardRcMessages fuel resp answer.2
    else pure (ffaOk, resp)

def reqPostHook (resp : FfaDirectMsg) : Blocking SpState (FfaResult × FfaDirectMsg) := do
  let fuel ← rounds
  let (result, resp) ← forwardRcMessages fuel resp FfaDirectMsg.zero
  setRouting fun routing => { routing with state := .leaf, calleeId := spIdInvalid }
  pure (result, resp)

def reqErrorHook : Blocking SpState Unit :=
  setRouting fun routing => { routing with state := .leaf, calleeId := spIdInvalid }

def rcReqPostHook (resp : FfaDirectMsg) : Blocking SpState (FfaResult × FfaDirectMsg) := do
  let fuel ← rounds
  let (result, resp) ← denyUnexpectedRequests fuel resp
  setRouting fun routing => { routing with state := .leaf }
  if isErrorMessage resp then pure (getErrorCodeFromMessage resp, resp) else pure (result, resp)

def rcReqErrorHook : Blocking SpState Unit :=
  setRouting fun routing => { routing with state := .leaf }

end LibSp
