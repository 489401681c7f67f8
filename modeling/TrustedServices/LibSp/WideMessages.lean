import TrustedServices.LibSp.Messaging

/- 64-bit messages, of which the hooks look at the first 32-bit word. -/
namespace LibSp

open Lib

def ffaMsgSendDirectReq64 : BitVec 32 := 0xc400006f

def ffaMsgSendDirectResp64 : BitVec 32 := 0xc4000070

structure WideMsg where
  sourceId : EndpointId
  destinationId : EndpointId
  args : ArgWords

def WideMsg.spMsg (msg : WideMsg) : SpMsg := ⟨msg.sourceId, msg.destinationId, true, msg.args⟩

/-- The calls in which a 64-bit message is received: a request in `sp_msg_wait` and in
`sp_msg_send_direct_resp`, and a response in `sp_msg_send_direct_req`. -/
inductive ReceivingCall
  | msgWait
  | sendDirectReq
  | sendDirectResp

def ReceivingCall.functionId : ReceivingCall → BitVec 32
  | .sendDirectReq => ffaMsgSendDirectResp64
  | .msgWait | .sendDirectResp => ffaMsgSendDirectReq64

def ReceivingCall.postHook : ReceivingCall → FfaDirectMsg →
    Blocking SpState (FfaResult × FfaDirectMsg)
  | .sendDirectReq => reqPostHook
  | .msgWait | .sendDirectResp => requestReceivedHook

/-- The message after the hook, with the words of the union that no hook looks at. -/
def unpackOver (words : ArgWords) (msg : FfaDirectMsg) : SpMsg :=
  if msg.functionId = ffaMsgSendDirectReq64 ∨ msg.functionId = ffaMsgSendDirectResp64 then
    ⟨msg.sourceId, msg.destinationId, true,
      fun i => if h : i.val < 5 then msg.args ⟨i, h⟩ else words i⟩
  else unpackFfaDirectMsg msg

def WideMsg.seenIn (msg : WideMsg) (call : ReceivingCall) : FfaDirectMsg :=
  ⟨call.functionId, msg.sourceId, msg.destinationId, ArgWords.args32 msg.args⟩

/-- What the calls do with a message that is delivered. -/
def ReceivingCall.receive (call : ReceivingCall) (msg : WideMsg) :
    Blocking SpState (FfaResult × SpMsg) :=
  passOn (unpackOver msg.args) call.postHook (msg.seenIn call)

/-- The message is received as it is, and nothing is sent for it. -/
def ReceivedIntact (call : ReceivingCall) (msg : WideMsg) (sp : SpState) : Prop :=
  (call.receive msg sp).1 = some (spResultOk, msg.spMsg) ∧
    (call.receive msg sp).2.log = sp.log

/-- The message is sent as it is, as a request and as a response, if nothing is delivered yet. -/
def SentIntact (msg : WideMsg) (sp : SpState) : Prop :=
  (spMsgSendDirectReq msg.spMsg { sp with pending := [] }).2.log =
    ⟨.sendDirectReq64 msg.sourceId msg.destinationId (ArgWords.args64 msg.args), none⟩ :: sp.log ∧
  (spMsgSendDirectResp msg.spMsg { sp with pending := [] }).2.log =
    ⟨.sendDirectResp64 msg.sourceId msg.destinationId (ArgWords.args64 msg.args), none⟩ :: sp.log

/-- The first word does not have the RC bit, or it is the one of an RC error with the code of a
success in a response. -/
def LooksPlain (call : ReceivingCall) (msg : WideMsg) : Prop :=
  msg.args 0 &&& ffaRoutingExtRcBit = 0 ∨
    call = .sendDirectReq ∧ msg.args 0 &&& ffaRoutingExtErrorBit ≠ 0 ∧ msg.args 1 = ffaOk

variable {call : ReceivingCall} {msg : WideMsg}

theorem isRcMessage_seenIn :
    isRcMessage (msg.seenIn call) = true ↔ msg.args 0 &&& ffaRoutingExtRcBit ≠ 0 := by
  rw [isRcMessage, decide_eq_true_iff]
  rfl

theorem isErrorMessage_seenIn :
    isErrorMessage (msg.seenIn call) = true ↔ msg.args 0 &&& ffaRoutingExtErrorBit ≠ 0 := by
  rw [isErrorMessage, decide_eq_true_iff]
  rfl

theorem postHook_plain (plain : LooksPlain call msg) (sp : SpState) :
    ∃ routing, call.postHook (msg.seenIn call) sp =
      (some (ffaOk, msg.seenIn call), { sp with routing := routing }) := by
  rcases plain with plain | ⟨rfl, isError, code⟩
  · have notRc : ¬ isRcMessage (msg.seenIn call) := by simpa [isRcMessage_seenIn] using plain
    have wide : ffaIs32BitFunc (msg.seenIn call).functionId = false := by
      change ffaIs32BitFunc call.functionId = false
      cases call <;> decide
    cases call <;>
      simp [ReceivingCall.postHook, requestReceivedHook, rounds, denyUnexpectedRcResponses, wide,
        reqPostHook, forwardRcMessages, notRc, bind, pure, Blocking.read, setRouting,
        Blocking.modify]
  · have success : getErrorCodeFromMessage (msg.seenIn .sendDirectReq) = ffaOk := code
    cases isRc : isRcMessage (msg.seenIn .sendDirectReq) <;>
      simp [ReceivingCall.postHook, reqPostHook, rounds, forwardRcMessages, isRc,
        isErrorMessage_seenIn.mpr isError, success, bind, pure, Blocking.read, setRouting,
        Blocking.modify]

theorem postHook_rc (rc : ¬ LooksPlain call msg) (routing : Routing) (seen : FfaDirectMsg) :
    (call.postHook (msg.seenIn call) ⟨routing, [], []⟩).1 ≠ some (ffaOk, seen) := by
  simp only [LooksPlain, not_or, not_and] at rc
  have isRc : isRcMessage (msg.seenIn call) = true := isRcMessage_seenIn.mpr rc.1
  cases call with
  | sendDirectReq =>
    by_cases isError : isErrorMessage (msg.seenIn .sendDirectReq)
    · have failure : getErrorCodeFromMessage (msg.seenIn .sendDirectReq) ≠ ffaOk :=
        rc.2 rfl (isErrorMessage_seenIn.mp isError)
      simp [ReceivingCall.postHook, reqPostHook, rounds, forwardRcMessages, isRc, isError, failure,
        bind, pure, Blocking.read, setRouting, Blocking.modify]
    · simp [ReceivingCall.postHook, reqPostHook, rounds, forwardRcMessages, isRc, isError, bind,
        Blocking.read, setRouting, Blocking.modify, ffaCall]
  | msgWait | sendDirectResp =>
    simp [ReceivingCall.postHook, requestReceivedHook, rounds, denyUnexpectedRcResponses, isRc,
      bind, Blocking.read, sendRcErrorMessage, ffaCall]

theorem received_plain (plain : LooksPlain call msg) (sp : SpState) :
    ReceivedIntact call msg sp := by
  obtain ⟨routing, passed⟩ := postHook_plain plain sp
  have whole : unpackOver msg.args (msg.seenIn call) = msg.spMsg := by
    cases call <;>
      simp [unpackOver, WideMsg.seenIn, ReceivingCall.functionId, WideMsg.spMsg, ArgWords.args32]
  simp [ReceivedIntact, ReceivingCall.receive, passOn, returnMsg, passed, whole, bind, pure]

theorem received_rc (rc : ¬ LooksPlain call msg) (routing : Routing) :
    ¬ ReceivedIntact call msg ⟨routing, [], []⟩ := by
  rintro ⟨returned, _⟩
  have stopped := postHook_rc rc routing
  simp only [ReceivingCall.receive, passOn, returnMsg, bind, pure] at returned
  grind [spResultOk, ffaOk]

/-- A 64-bit message is always sent as it is, and always received so if it looks plain. -/
theorem transparent_iff (call : ReceivingCall) (msg : WideMsg) :
    (∀ sp, SentIntact msg sp ∧ ReceivedIntact call msg sp) ↔ LooksPlain call msg := by
  constructor
  · intro transparent
    by_contra rc
    exact received_rc rc ⟨.idle, 0, 0, 0⟩ (transparent _).2
  · intro plain sp
    exact ⟨⟨rfl, rfl⟩, received_plain plain sp⟩

/-- A request whose first argument is 2 ^ 31. -/
theorem highBit_denied :
    ¬ ∀ sp, ReceivedIntact .msgWait ⟨1, 2, Function.update 0 0 0x80000000⟩ sp := by
  intro received
  apply received_rc _ ⟨.idle, 0, 0, 0⟩ (received _)
  simp [LooksPlain, ffaRoutingExtRcBit]

end LibSp
