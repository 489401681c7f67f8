import TrustedServices.Lib.Transition
import TrustedServices.LibSp.Messaging
import TrustedServices.LibSp.RoutingTraces

/- The routing of direct messages over every sequence of calls and deliveries. -/
namespace LibSp

open Lib

/-- The partition between two calls. `served` is the sender of the request that it serves, as it
has seen it. -/
structure Partition where
  routing : Routing
  served : Option EndpointId
  deriving DecidableEq, Repr

def Partition.initial : Partition := ⟨⟨.idle, spIdInvalid, spIdInvalid, spIdInvalid⟩, none⟩

inductive SpCall
  | msgWait
  | sendDirectReq (req : SpMsg)
  | sendDirectResp (resp : SpMsg)
  | sendRcReq (req : SpMsg)

structure SpEvent where
  call : SpCall
  deliveries : List Delivery

def SpCall.run : SpCall → Blocking SpState (FfaResult × SpMsg)
  | .msgWait => spMsgWait
  | .sendDirectReq req => spMsgSendDirectReq req
  | .sendDirectResp resp => spMsgSendDirectResp resp
  | .sendRcReq req => spMsgSendRcReq req

def SpEvent.outcome (event : SpEvent) (partition : Partition) :
    Option (FfaResult × SpMsg) × SpState :=
  event.call.run ⟨partition.routing, event.deliveries, []⟩

/-- The sender of the request that is served after a call. A response that is sent ends the
service. -/
def SpCall.served (call : SpCall) (served : Option EndpointId) (answer : FfaResult × SpMsg) :
    Option EndpointId :=
  match call with
  | .msgWait => if answer.1 = spResultOk then some answer.2.sourceId else served
  | .sendDirectResp resp =>
    if answer.1 = spResultOk then some answer.2.sourceId
    else if resp.conflicts then served else none
  | .sendDirectReq _ | .sendRcReq _ => served

/-- A call that waits for more than is delivered is no step. -/
def Partition.step (partition : Partition) (event : SpEvent) : Partition :=
  match event.outcome partition with
  | (some answer, sp) => ⟨sp.routing, event.call.served partition.served answer⟩
  | (none, _) => partition

def SpCall.callee : SpCall → Option EndpointId
  | .sendDirectReq req => some req.destinationId
  | _ => none

/-- The messages that a call takes as its own and does not answer. -/
def SpCall.Accepts (call : SpCall) (served : Option EndpointId) (msg : FfaDirectMsg) : Prop :=
  match call with
  | .msgWait | .sendDirectResp _ => isRcMessage msg = false
  | .sendRcReq _ => isRcMessage msg = true ∧ served = some msg.sourceId
  | .sendDirectReq _ => False

/-- The messages are routed as they should be in a call with its answer, if it has returned. -/
structure Routed (call : SpCall) (served : Option EndpointId) (answer : Option (FfaResult × SpMsg))
    (sp : SpState) : Prop where
  trace : Trace served call.callee sp.log
  /-- A message that comes last is taken; all others are followed by their answer. -/
  taken : ∀ exchange ∈ sp.log.head?, exchange.call.isRequest = false →
    ∀ delivery ∈ exchange.delivery, ∀ msg ∈ delivery.unpack exchange.call, call.Accepts served msg
  /-- Requests for the partition are clear of the bits of the extension. -/
  request : call = .msgWait ∨ (∃ resp, call = .sendDirectResp resp) →
    ∀ msg, answer = some (spResultOk, msg) → msg.args 0 &&& ffaRoutingExtBitsMask = 0
  /-- An RC response for the partition came last, from the endpoint that it serves. -/
  response : ∀ req, call = .sendRcReq req → ∀ msg, answer = some (spResultOk, msg) →
    ∃ exchange ∈ sp.log.head?, ∃ delivery ∈ exchange.delivery,
      ∃ received ∈ delivery.unpack exchange.call, isRcMessage received = true ∧
        served = some received.sourceId ∧ msg = unpackFfaDirectMsg received
  leaf : ∀ req, call = .sendDirectReq req → answer.isSome →
    sp.routing.state = .leaf ∧ sp.routing.calleeId = spIdInvalid

def Disciplined (partition : Partition) (event : SpEvent) : Prop :=
  Routed event.call partition.served (event.outcome partition).1 (event.outcome partition).2

def startsWithRcRequest : List Delivery → Bool
  | .message _ _ args :: _ =>
    args 0 &&& ffaRoutingExtRcBit ≠ 0 && args 0 &&& ffaRoutingExtErrorBit = 0
  | _ => false

/-- An RC message from the endpoint number that stands for none. -/
def Delivery.isFromNobody : Delivery → Bool
  | .message source _ args => source = spIdInvalid && args 0 &&& ffaRoutingExtRcBit ≠ 0
  | _ => false

/-- The calls for which the routing is as it should be. -/
def RoutesProperly (partition : Partition) (event : SpEvent) : Prop :=
  match event.call with
  | .msgWait | .sendDirectResp _ => True
  | .sendDirectReq req =>
    (req.conflicts = true → partition.routing.state = .leaf) ∧
      (partition.served = none → startsWithRcRequest event.deliveries = false)
  | .sendRcReq _ =>
    masksErrors event.deliveries = false ∧
      (partition.served = none → ∀ delivery ∈ event.deliveries, delivery.isFromNobody = false)

instance (partition : Partition) (event : SpEvent) : Decidable (RoutesProperly partition event) := by
  unfold RoutesProperly
  split <;> infer_instance

variable {served callee : Option EndpointId} {routing : Routing} {deliveries : List Delivery}
  {bound : Nat} {log : List Exchange} {call : FfaCall} {delivery : Delivery}

/-- The variables of the extension fit the request that is served. -/
def Partition.Consistent (partition : Partition) : Prop :=
  partition.routing.callerId = partition.served.getD spIdInvalid ∧
    partition.routing.calleeId = spIdInvalid

/-- The end of a call. -/
structure Concludes (call : SpCall) (served : Option EndpointId) (answer : FfaResult × SpMsg)
    (sp : SpState) : Prop where
  routed : Routed call served (some answer) sp
  consistent : Partition.Consistent ⟨sp.routing, call.served served answer⟩

theorem start_at (served callee : Option EndpointId) (routing : Routing)
    (deliveries : List Delivery) :
    At served callee routing deliveries (deliveries.length + 1) [] ⟨routing, deliveries, []⟩ :=
  ⟨.nil, rfl, rfl, Nat.lt_succ_self _, rfl⟩

variable {req : FfaDirectMsg} {sp : SpState}

theorem unpack_narrow (listening : call.isRequest = false)
    (received : delivery.unpack call = some req) :
    ffaIs32BitFunc req.functionId = true ∧ ∀ args,
      (unpackFfaDirectMsg { req with args := args }).sourceId = req.sourceId := by
  obtain ⟨_, rfl⟩ | ⟨_, _, _, _, rfl⟩ := unpack_listening listening received
  · exact ⟨by decide, fun _ => rfl⟩
  · have narrow : ffaIs32BitFunc ffaMsgSendDirectReq32 = true := by decide
    exact ⟨narrow, fun _ => rfl⟩

/-- The bits of the extension are clear in a message that has been cleared of them. -/
theorem unpack_cleared (msg : FfaDirectMsg) :
    (unpackFfaDirectMsg { msg with
      args := Function.update msg.args 0 (msg.args 0 &&& ~~~ffaRoutingExtBitsMask) }).args 0 &&&
        ffaRoutingExtBitsMask = 0 := by
  unfold unpackFfaDirectMsg
  split
  · show (msg.args 0 &&& ~~~ffaRoutingExtBitsMask) &&& ffaRoutingExtBitsMask = 0
    rw [BitVec.and_assoc, BitVec.and_comm (~~~ffaRoutingExtBitsMask)]
    simp
  · rfl

def Received (served callee : Option EndpointId) (routing : Routing)
    (answer : FfaResult × SpMsg) (sp : SpState) : Prop :=
  Trace served callee sp.log ∧ ∃ call delivery log, sp.log = ⟨call, some delivery⟩ :: log ∧
    ((∃ req, delivery.unpack call = some req ∧ isRcMessage req = false ∧
        sp.routing = ⟨.leaf, req.destinationId, answer.2.sourceId, spIdInvalid⟩ ∧
        answer.1 = ffaOk ∧ answer.2.args 0 &&& ffaRoutingExtBitsMask = 0) ∨
      ∃ error, delivery = .error error ∧ sp.routing = routing ∧ answer.1 ≠ ffaOk)

theorem requestReceivedHook_meets (listening : call.isRequest = false)
    (received : delivery.unpack call = some req) :
    Blocking.Meets (Waits served callee)
      (At served callee routing deliveries bound (⟨call, some delivery⟩ :: log))
      (passOn unpackFfaDirectMsg requestReceivedHook req) (Received served callee routing) := by
  refine .map ?_
  refine .bind rounds_meets fun fuel => ?_
  refine .bind (denyUnexpectedRcResponses_meets listening received) fun answer => ?_
  obtain ⟨result, req⟩ := answer
  refine .choose fun call => .choose fun delivery => .choose fun log => .assume fun listening => ?_
  rintro sp ⟨⟨ok, unpacked, clear⟩ | ⟨error, rfl, failed⟩, here⟩
  · dsimp only at ok unpacked clear ⊢
    obtain ⟨narrow, sender⟩ := unpack_narrow listening unpacked
    rw [if_neg (fun differs => differs ok)]
    refine Blocking.Meets.bind (setRouting_meets _) (fun _ => ?_) sp here
    rw [if_pos narrow]
    refine .pure fun sp here => ⟨here.logged ▸ here.trace, call, delivery, log, here.logged, ?_⟩
    refine .inl ⟨req, unpacked, clear, ?_, rfl, unpack_cleared req⟩
    rw [here.routed]
    show Routing.mk .leaf req.destinationId req.sourceId spIdInvalid =
      ⟨.leaf, req.destinationId, (unpackFfaDirectMsg _).sourceId, spIdInvalid⟩
    rw [sender]
  · dsimp only at failed ⊢
    rw [if_pos (failed ▸ error.isError)]
    refine ⟨here.logged ▸ here.trace, call, _, log, here.logged, .inr ⟨error, rfl, here.routed, ?_⟩⟩
    unfold returnMsg
    rw [if_pos (failed ▸ error.isError)]
    exact failed ▸ error.isError

/-- The part of waiting and of responding that they share. -/
theorem receive_meets (listening : call.isRequest = false) :
    Blocking.Meets (Waits served callee) (At served callee routing deliveries bound []) (do
        let (result, msg) ← ffaCall call FfaDirectMsg.zero
        if result ≠ ffaOk then pure (result, SpMsg.zero)
        else passOn unpackFfaDirectMsg requestReceivedHook msg) (Received served callee routing) := by
  refine .bind (ffaCall_meets nofun) fun answer => ?_
  refine .choose fun delivery => .assume fun answers => ?_
  cases answers with
  | failed error =>
    dsimp only
    rw [if_pos error.isError]
    refine .pure fun sp here => ⟨here.logged ▸ here.trace, call, _, [], here.logged, ?_⟩
    exact .inr ⟨error, rfl, here.routed, error.isError⟩
  | heard unpacked =>
    exact requestReceivedHook_meets listening unpacked

variable {answer : FfaResult × SpMsg}

theorem Received.concludes {call : SpCall}
    (received : Received served none routing answer sp)
    (waiting : call = .msgWait ∨ ∃ resp, call = .sendDirectResp resp)
    (fresh : answer.1 = spResultOk → call.served served answer = some answer.2.sourceId)
    (before : answer.1 ≠ spResultOk →
      Partition.Consistent ⟨routing, call.served served answer⟩) :
    Concludes call served answer sp := by
  have accepts : ∀ msg, isRcMessage msg = false → call.Accepts served msg := by
    rcases waiting with rfl | ⟨resp, rfl⟩ <;> exact fun _ clear => clear
  have callee : call.callee = none := by
    rcases waiting with rfl | ⟨resp, rfl⟩ <;> rfl
  obtain ⟨trace, listened, delivery, log, logged, outcome⟩ := received
  refine ⟨⟨callee ▸ trace, ?_, ?_, ?_, ?_⟩, ?_⟩
  · intro exchange latest _ last isLast msg unpacked
    rw [logged] at latest
    cases latest
    cases isLast
    obtain ⟨req, same, clear, _⟩ | ⟨error, rfl, _⟩ := outcome
    · rw [same] at unpacked
      cases unpacked
      exact accepts _ clear
    · cases unpacked
  · rintro _ msg ⟨⟩
    obtain ⟨req, _, _, _, _, cleared⟩ | ⟨_, _, _, failed⟩ := outcome
    · exact cleared
    · exact absurd rfl failed
  · rintro req rfl
    simp at waiting
  · rintro req rfl
    simp at waiting
  · obtain ⟨req, _, _, routed, ok, _⟩ | ⟨_, _, routed, failed⟩ := outcome
    · rw [routed, fresh ok]
      exact ⟨rfl, rfl⟩
    · rw [routed]
      exact before failed

theorem spMsgWait_meets (consistent : Partition.Consistent ⟨routing, served⟩) :
    Blocking.Meets (Waits served none) (At served none routing deliveries bound [])
      spMsgWait (Concludes .msgWait served) := by
  refine (receive_meets rfl).weaken (fun _ here => here) fun answer sp received =>
    received.concludes (.inl rfl) (fun ok => if_pos ok) fun failed => ?_
  rw [show SpCall.msgWait.served served answer = served from if_neg failed]
  exact consistent

theorem refused_meets {call : SpCall} (calls : call.callee = callee)
    (leaf : ∀ req, call = .sendDirectReq req → routing.state = .leaf)
    (consistent : Partition.Consistent ⟨routing, served⟩)
    (same : call.served served (spResultInvalidParameters, SpMsg.zero) = served) :
    Blocking.Meets (Waits served callee) (At served callee routing deliveries bound [])
      (pure (spResultInvalidParameters, SpMsg.zero)) (Concludes call served) := by
  refine .pure fun sp here => ?_
  have failed : ∀ msg, some (spResultInvalidParameters, SpMsg.zero) ≠ some (spResultOk, msg) :=
    fun _ same => absurd (Prod.mk.inj (Option.some.inj same)).1 (by decide)
  refine ⟨⟨?_, ?_, ?_, ?_, ?_⟩, ?_⟩
  · rw [calls, here.logged]
    exact here.trace
  · rw [here.logged]
    exact nofun
  · exact fun _ msg ok => absurd ok (failed msg)
  · exact fun _ _ msg ok => absurd ok (failed msg)
  · intro req same _
    rw [here.routed]
    exact ⟨leaf req same, consistent.2⟩
  · rw [here.routed, same]
    exact consistent

theorem spMsgSendDirectResp_meets (resp : SpMsg)
    (consistent : Partition.Consistent ⟨routing, served⟩) :
    Blocking.Meets (Waits served none) (At served none routing deliveries bound [])
      (spMsgSendDirectResp resp) (Concludes (.sendDirectResp resp) served) := by
  refine .ite (fun conflicts => ?_) fun agrees => ?_
  · refine refused_meets rfl ?_ consistent (if_pos conflicts)
    rintro _ ⟨⟩
  · refine .bind (setRouting_meets _) fun _ => ?_
    refine (receive_meets ?_).weaken (fun _ here => here) fun answer sp received =>
      received.concludes (.inr ⟨resp, rfl⟩) (fun ok => if_pos ok) fun failed => ?_
    · split <;> rfl
    · rw [show (SpCall.sendDirectResp resp).served served answer = none from
        (if_neg failed).trans (if_neg agrees)]
      exact ⟨rfl, rfl⟩

/-- An RC request that is the response to a request comes first. -/
theorem At.startsWithRcRequest {resp : FfaDirectMsg}
    (here : At served callee routing deliveries bound [⟨call, some delivery⟩] sp)
    (requesting : call.isRequest = true) (received : delivery.unpack call = some resp)
    (rc : isRcMessage resp = true) (plain : isErrorMessage resp = false) :
    startsWithRcRequest deliveries = true := by
  rw [← here.consumed]
  cases delivery with
  | error error => cases received
  | success =>
    cases received
    exact absurd rc (by decide)
  | message source destination args =>
    cases call with
    | msgWait | sendDirectResp32 | sendDirectResp64 => cases requesting
    | sendDirectReq64 =>
      cases received
      exact absurd rc (by decide)
    | sendDirectReq32 =>
      cases received
      have set : args 0 &&& ffaRoutingExtRcBit ≠ 0 := of_decide_eq_true rc
      have unset : args 0 &&& ffaRoutingExtErrorBit = 0 := of_not_not (of_decide_eq_false plain)
      show (decide (args 0 &&& ffaRoutingExtRcBit ≠ 0) &&
        decide (args 0 &&& ffaRoutingExtErrorBit = 0)) = true
      rw [decide_eq_true set, decide_eq_true unset]
      rfl

variable {req : SpMsg}

theorem directReq_concludes
    {rest : List Exchange} {delivery : Option Delivery}
    (trace : Trace served (some req.destinationId) (⟨call, delivery⟩ :: rest))
    (requesting : call.isRequest = true) (logged : sp.log = ⟨call, delivery⟩ :: rest)
    (leaf : sp.routing.state = .leaf) (callee : sp.routing.calleeId = spIdInvalid)
    (caller : sp.routing.callerId = served.getD spIdInvalid) :
    Concludes (.sendDirectReq req) served answer sp := by
  refine ⟨⟨logged ▸ trace, ?_, ?_, ?_, fun _ _ _ => ⟨leaf, callee⟩⟩, caller, callee⟩
  · intro exchange latest listening
    rw [logged] at latest
    cases latest
    cases requesting.symm.trans listening
  · simp
  · simp

theorem spMsgSendDirectReq_meets (req : SpMsg) (consistent : Partition.Consistent ⟨routing, served⟩)
    (refusal : req.conflicts = true → routing.state = .leaf)
    (serving : served = none → startsWithRcRequest deliveries = false) :
    Blocking.Meets (Waits served (some req.destinationId))
      (At served (some req.destinationId) routing deliveries bound [])
      (spMsgSendDirectReq req) (Concludes (.sendDirectReq req) served) := by
  refine .ite (fun conflicts => ?_) fun _ => ?_
  · exact refused_meets rfl (fun _ _ => refusal conflicts) consistent rfl
  · refine .bind (setRouting_meets _) fun _ => ?_
    generalize chosen : (if req.is64bitMessage then
      FfaCall.sendDirectReq64 req.sourceId req.destinationId (ArgWords.args64 req.args)
      else .sendDirectReq32 req.sourceId req.destinationId (ArgWords.args32 req.args)) = sent
    have requesting : sent.isRequest = true := by
      rw [← chosen]
      split <;> rfl
    refine .bind (ffaCall_meets nofun) fun answer => ?_
    refine .choose fun delivery => .assume fun answers => ?_
    cases answers with
    | failed error =>
      dsimp only
      rw [if_pos error.isError]
      refine .bind (setRouting_meets _) fun _ => .pure fun sp here => ?_
      exact directReq_concludes here.trace requesting here.logged (by rw [here.routed])
        (by rw [here.routed]) (by rw [here.routed]; exact consistent.1)
    | heard unpacked =>
      refine .map ?_
      intro sp here
      refine Blocking.Meets.bind rounds_meets (fun fuel => ?_) sp here
      refine .bind (forwardRcMessages_meets _ requesting unpacked ?_ consistent.1 rfl)
        fun answer => ?_
      · intro rc plain
        cases served with
        | some caller => rfl
        | none =>
          have unset := serving rfl
          rw [here.startsWithRcRequest requesting unpacked rc plain] at unset
          cases unset
      · refine .choose fun call => .choose fun delivery => .choose fun log =>
          .choose fun state => .assume fun requesting => ?_
        refine .bind (setRouting_meets _) fun _ => .pure fun sp here => ?_
        exact directReq_concludes here.trace requesting here.logged (by rw [here.routed])
          (by rw [here.routed]) (by rw [here.routed]; exact consistent.1)

/-- The caller is the endpoint that is served, unless an RC message comes from no endpoint. -/
theorem At.fromServed {msg : FfaDirectMsg}
    (here : At served callee routing deliveries bound (⟨call, some delivery⟩ :: log) sp)
    (listening : call.isRequest = false) (received : delivery.unpack call = some msg)
    (rc : isRcMessage msg = true) (caller : msg.sourceId = served.getD spIdInvalid)
    (somebody : served = none → ∀ delivery ∈ deliveries, delivery.isFromNobody = false) :
    served = some msg.sourceId := by
  cases served with
  | some served => rw [caller, Option.getD_some]
  | none =>
    exfalso
    have member : delivery ∈ deliveries := by
      rw [← here.consumed]
      simp
    have nobody := somebody rfl delivery member
    obtain ⟨rfl, rfl⟩ | ⟨source, _, args, rfl, rfl⟩ := unpack_listening listening received
    · exact absurd rc (by decide)
    · have set : args 0 &&& ffaRoutingExtRcBit ≠ 0 := of_decide_eq_true rc
      have none : source = spIdInvalid := caller
      rw [Delivery.isFromNobody, decide_eq_true set, decide_eq_true none] at nobody
      cases nobody

theorem rcReq_concludes
    (trace : Trace served none (⟨call, some delivery⟩ :: log))
    (logged : sp.log = ⟨call, some delivery⟩ :: log)
    (taken : ∀ msg, delivery.unpack call = some msg →
      isRcMessage msg = true ∧ served = some msg.sourceId)
    (response : answer.1 = spResultOk →
      ∃ received, delivery.unpack call = some received ∧ answer.2 = unpackFfaDirectMsg received)
    (caller : sp.routing.callerId = served.getD spIdInvalid)
    (callee : sp.routing.calleeId = spIdInvalid) :
    Concludes (.sendRcReq req) served answer sp := by
  refine ⟨⟨logged ▸ trace, ?_, ?_, ?_, ?_⟩, caller, callee⟩
  · intro exchange latest _ last isLast msg received
    rw [logged] at latest
    cases latest
    cases isLast
    exact taken msg received
  · simp
  · rintro _ _ msg ⟨⟩
    obtain ⟨received, unpacked, same⟩ := response rfl
    rw [logged]
    exact ⟨_, rfl, delivery, rfl, received, unpacked, (taken received unpacked).1,
      (taken received unpacked).2, same⟩
  · simp

theorem spMsgSendRcReq_meets (req : SpMsg) (consistent : Partition.Consistent ⟨routing, served⟩)
    (unmasked : masksErrors deliveries = false)
    (somebody : served = none → ∀ delivery ∈ deliveries, delivery.isFromNobody = false) :
    Blocking.Meets (Waits served none) (At served none routing deliveries bound [])
      (spMsgSendRcReq req) (Concludes (.sendRcReq req) served) := by
  refine .ite (fun conflicts => ?_) fun _ => ?_
  · refine refused_meets rfl ?_ consistent rfl
    rintro _ ⟨⟩
  · refine .bind (setRouting_meets _) fun _ => ?_
    refine .bind (ffaCall_meets (by rintro _ ⟨⟩)) fun answer => ?_
    refine .choose fun delivery => .assume fun answers => ?_
    cases answers with
    | failed error =>
      dsimp only
      rw [if_pos error.isError]
      refine .bind (setRouting_meets _) fun _ => .pure fun sp here => ?_
      refine rcReq_concludes here.trace here.logged ?_ ?_ ?_ ?_
      · rintro _ ⟨⟩
      · exact fun ok => absurd ok error.isError
      · rw [here.routed]
        exact consistent.1
      · rw [here.routed]
        exact consistent.2
    | heard unpacked =>
      refine .map (.bind rounds_meets fun fuel => ?_)
      refine .bind (denyUnexpectedRequests_meets rfl unpacked) fun answer => ?_
      obtain ⟨result, resp⟩ := answer
      refine .assume fun code => .choose fun call => .choose fun delivery => .choose fun log =>
        .assume fun listening => .assume fun outcome => ?_
      refine .bind (setRouting_meets _) fun _ => ?_
      have ends : ∀ final sp, (final = ffaOk → delivery.unpack call = some resp) →
          At served none { routing with state := .leaf } deliveries fuel
            (⟨call, some delivery⟩ :: log) sp →
          Concludes (.sendRcReq req) served (returnMsg unpackFfaDirectMsg (final, resp)) sp := by
        intro final sp valid here
        have fromServed : ∀ msg, delivery.unpack call = some msg →
            isRcMessage msg = true ∧ served = some msg.sourceId := by
          intro msg received
          obtain ⟨_, same, rc, caller⟩ | ⟨error, rfl, _⟩ := outcome
          · cases same.symm.trans received
            exact ⟨rc, here.fromServed listening received rc (caller.trans consistent.1) somebody⟩
          · cases received
        refine rcReq_concludes here.trace here.logged fromServed ?_ ?_ ?_
        · unfold returnMsg
          split
          · exact fun ok => absurd ok ‹_›
          · exact fun _ => ⟨resp, valid (of_not_not ‹_›), rfl⟩
        · rw [here.routed]
          exact consistent.1
        · rw [here.routed]
          exact consistent.2
      refine .ite (fun bit => .pure fun sp here => ends _ sp ?_ here) fun _ =>
        .pure fun sp here => ends _ sp ?_ here
      · intro ok
        obtain ⟨_, same, _⟩ | ⟨error, rfl, failed⟩ := outcome
        · exact same
        · exact absurd ok (code (failed ▸ error.isError) unmasked bit)
      · rintro rfl
        obtain ⟨_, same, _⟩ | ⟨error, rfl, failed⟩ := outcome
        · exact same
        · exact absurd failed.symm error.isError

variable {partition : Partition} {event : SpEvent}

section

variable (consistent : partition.Consistent) (proper : RoutesProperly partition event)

include consistent proper

/-- A proper call ends as it should, unless it still waits. -/
theorem Partition.Consistent.meets :
    Blocking.Meets (Waits partition.served event.call.callee)
      (At partition.served event.call.callee partition.routing event.deliveries
        (event.deliveries.length + 1) [])
      event.call.run (Concludes event.call partition.served) := by
  obtain ⟨call, deliveries⟩ := event
  cases call with
  | msgWait => exact spMsgWait_meets consistent
  | sendDirectReq req => exact spMsgSendDirectReq_meets req consistent proper.1 proper.2
  | sendDirectResp resp => exact spMsgSendDirectResp_meets resp consistent
  | sendRcReq req => exact spMsgSendRcReq_meets req consistent proper.1 proper.2

theorem Partition.Consistent.step : (partition.step event).Consistent := by
  have ends := consistent.meets proper _ (start_at _ _ _ _)
  unfold Partition.step SpEvent.outcome
  generalize event.call.run _ = outcome at ends
  obtain ⟨_ | answer, sp⟩ := outcome
  · exact consistent
  · exact ends.consistent

theorem Partition.Consistent.disciplined : Disciplined partition event := by
  have ends := consistent.meets proper _ (start_at _ _ _ _)
  unfold Disciplined SpEvent.outcome
  generalize event.call.run _ = outcome at ends
  obtain ⟨_ | answer, sp⟩ := outcome
  · obtain ⟨trace, call, rest, logged⟩ := ends
    refine ⟨trace, ?_, fun _ _ => nofun, fun _ _ _ => nofun, fun _ _ => nofun⟩
    rw [logged]
    intro exchange latest _ delivery delivered
    cases latest
    cases delivered
  · exact ends.routed

end

/-- In every run of proper calls, all messages are routed as they should be, in every proper call
that follows. -/
theorem partition_disciplined
    (reached : Reached Partition.step Partition.initial RoutesProperly partition)
    (proper : RoutesProperly partition event) : Disciplined partition event := by
  have consistent : partition.Consistent :=
    reached.invariant _ ⟨rfl, rfl⟩ fun _ _ _ consistent proper => consistent.step proper
  exact consistent.disciplined proper

/-- A message of an endpoint to partition 2, with its first two arguments. -/
def messageFrom (source : EndpointId) (first second : BitVec 32) : Delivery :=
  .message source 2 ![first, second, 0, 0, 0]

def servingPartition : Partition :=
  Partition.initial.step ⟨.msgWait, [messageFrom 1 0 0]⟩

/-- An RC request to endpoint 1, with what is delivered. -/
def rcRequest (deliveries : List Delivery) : SpEvent :=
  ⟨.sendRcReq ⟨2, 1, false, fun _ => 0⟩, deliveries⟩

/-- A request of endpoint 3 is denied, and the response of endpoint 1 returned. -/
theorem partition_disciplined_rcRequest :
    let event := rcRequest [messageFrom 3 0 0, messageFrom 1 0x80000000 7]
    (event.outcome servingPartition).1.map (fun answer => (answer.1, answer.2.sourceId)) =
      some (spResultOk, 1) ∧ Disciplined servingPartition event :=
  ⟨by decide, partition_disciplined (.step .start trivial) (by decide)⟩

def abortedError : FfaError := ⟨-8, by decide⟩

/-- A denied request of endpoint 3 is returned as the RC response if neither the denial nor the
wait after it succeeds. -/
theorem rcRequest_undisciplined :
    let event := rcRequest [messageFrom 3 0x40000000 0, .error abortedError, .error abortedError]
    Reached Partition.step Partition.initial (fun _ _ => True) servingPartition ∧
      servingPartition.served = some 1 ∧
      (event.outcome servingPartition).1.map (fun answer => (answer.1, answer.2.sourceId)) =
        some (spResultOk, 3) ∧ ¬Disciplined servingPartition event := by
  intro event
  refine ⟨.step .start trivial, by decide, by decide, fun disciplined => ?_⟩
  have answered : (event.outcome servingPartition).1 = some (spResultOk, unpackFfaDirectMsg
      ⟨ffaMsgSendDirectReq32, 3, 2, ![0x40000000, 0, 0, 0, 0]⟩) := rfl
  -- The wait after the denial is the last call, and it has failed.
  obtain ⟨exchange, last, delivery, failed, received, unpacked, _⟩ :=
    disciplined.response _ rfl _ answered
  cases (Option.some.inj last : ⟨.msgWait, some (.error abortedError)⟩ = exchange)
  cases failed
  cases unpacked

end LibSp
