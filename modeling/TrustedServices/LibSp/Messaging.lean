import TrustedServices.LibSp.DirectMsgRouting

/- The messaging calls of libsp, with the direct message routing extension. -/
namespace LibSp

open Lib

/-- The union of the arguments, in 32-bit words. -/
abbrev ArgWords := Fin 10 → BitVec 32

structure SpMsg where
  sourceId : EndpointId
  destinationId : EndpointId
  is64bitMessage : Bool
  args : ArgWords

def SpMsg.zero : SpMsg := ⟨0, 0, false, fun _ => 0⟩

def ArgWords.args32 (words : ArgWords) : Args32 := fun i => words (i.castLE (by decide))

def ArgWords.args64 (words : ArgWords) : Registers 64 := fun i =>
  words ⟨2 * i + 1, by omega⟩ ++ words ⟨2 * i, by omega⟩

def Args32.words (args : Args32) : ArgWords := fun i => if h : i.val < 5 then args ⟨i, h⟩ else 0

/-- Only requests and responses carry a message. -/
def unpackFfaDirectMsg (msg : FfaDirectMsg) : SpMsg :=
  if msg.functionId = ffaMsgSendDirectReq32 ∨ msg.functionId = ffaMsgSendDirectResp32 then
    ⟨msg.sourceId, msg.destinationId, false, Args32.words msg.args⟩
  else SpMsg.zero

/-- A 32-bit message with one of the bits of the extension is not sent. -/
def SpMsg.conflicts (msg : SpMsg) : Bool :=
  msg.is64bitMessage = false && msg.args 0 &&& ffaRoutingExtBitsMask ≠ 0

def spResultOk : FfaResult := 0

def spResultInvalidParameters : FfaResult := -10

/-- The end of a call: the message is passed on if there is no error. -/
def returnMsg (unpack : FfaDirectMsg → SpMsg) (answer : FfaResult × FfaDirectMsg) :
    FfaResult × SpMsg :=
  if answer.1 ≠ ffaOk then (answer.1, SpMsg.zero) else (spResultOk, unpack answer.2)

/-- A call from the point on at which the FF-A layer has delivered a message. -/
abbrev passOn (unpack : FfaDirectMsg → SpMsg)
    (hook : FfaDirectMsg → Blocking SpState (FfaResult × FfaDirectMsg)) (msg : FfaDirectMsg) :
    Blocking SpState (FfaResult × SpMsg) := do
  let answer ← hook msg
  pure (returnMsg unpack answer)

def spMsgWait : Blocking SpState (FfaResult × SpMsg) := do
  let (result, msg) ← ffaCall .msgWait FfaDirectMsg.zero
  if result ≠ ffaOk then pure (result, SpMsg.zero)
  else passOn unpackFfaDirectMsg requestReceivedHook msg

def spMsgSendDirectReq (req : SpMsg) : Blocking SpState (FfaResult × SpMsg) :=
  if req.conflicts then pure (spResultInvalidParameters, SpMsg.zero)
  else do
    setRouting fun routing =>
      { routing with state := .internal, calleeId := req.destinationId }
    let (result, resp) ← ffaCall
      (if req.is64bitMessage then
        .sendDirectReq64 req.sourceId req.destinationId (ArgWords.args64 req.args)
      else .sendDirectReq32 req.sourceId req.destinationId (ArgWords.args32 req.args))
      FfaDirectMsg.zero
    if result ≠ ffaOk then do
      reqErrorHook
      pure (result, SpMsg.zero)
    else passOn unpackFfaDirectMsg reqPostHook resp

def spMsgSendDirectResp (resp : SpMsg) : Blocking SpState (FfaResult × SpMsg) :=
  if resp.conflicts then pure (spResultInvalidParameters, SpMsg.zero)
  else do
    setRouting fun routing =>
      { routing with state := .idle, callerId := spIdInvalid, calleeId := spIdInvalid }
    let (result, req) ← ffaCall
      (if resp.is64bitMessage then
        .sendDirectResp64 resp.sourceId resp.destinationId (ArgWords.args64 resp.args)
      else .sendDirectResp32 resp.sourceId resp.destinationId (ArgWords.args32 resp.args))
      FfaDirectMsg.zero
    if result ≠ ffaOk then pure (result, SpMsg.zero)
    else passOn unpackFfaDirectMsg requestReceivedHook req

/-- An RC request is always sent in 32 bits. -/
def spMsgSendRcReq (req : SpMsg) : Blocking SpState (FfaResult × SpMsg) :=
  if req.conflicts then pure (spResultInvalidParameters, SpMsg.zero)
  else do
    setRouting fun routing => { routing with state := .rcRoot }
    let args := Function.update (ArgWords.args32 req.args) 0 (req.args 0 ||| ffaRoutingExtRcBit)
    let (result, resp) ← ffaCall (.sendDirectResp32 req.sourceId req.destinationId args)
      FfaDirectMsg.zero
    if result ≠ ffaOk then do
      rcReqErrorHook
      pure (result, SpMsg.zero)
    else passOn unpackFfaDirectMsg rcReqPostHook resp

end LibSp
