import TrustedServices.LibSp.DirectMsgRouting

/- What the loops of the routing extension exchange with the FF-A layer. -/
namespace LibSp

open Lib

/-- What may follow an exchange within one call. -/
inductive Follows (served callee : Option EndpointId) : Exchange → FfaCall → Prop
  | denies {call : FfaCall} {delivery : Delivery} {msg : FfaDirectMsg} (code : FfaResult)
      (listening : call.isRequest = false) (received : delivery.unpack call = some msg) :
      Follows served callee ⟨call, some delivery⟩
        (.sendDirectResp32 msg.destinationId msg.sourceId (rcErrorArgs code))
  | forwardsRequest {call : FfaCall} {delivery : Delivery} {msg : FfaDirectMsg}
      {caller : EndpointId} (own : EndpointId) (requesting : call.isRequest = true)
      (received : delivery.unpack call = some msg) (rc : isRcMessage msg = true)
      (serving : served = some caller) :
      Follows served callee ⟨call, some delivery⟩ (.sendDirectResp32 own caller msg.args)
  | forwardsResponse {call : FfaCall} {delivery : Delivery} {msg : FfaDirectMsg}
      {destination : EndpointId} (own : EndpointId) (listening : call.isRequest = false)
      (received : delivery.unpack call = some msg) (rc : isRcMessage msg = true)
      (serving : served = some msg.sourceId) (calling : callee = some destination) :
      Follows served callee ⟨call, some delivery⟩ (.sendDirectReq32 own destination msg.args)
  | waitsAgain (source destination : EndpointId) (args : Args32) (error : FfaError) :
      Follows served callee ⟨.sendDirectResp32 source destination args, some (.error error)⟩
        .msgWait
  | reportsError {call : FfaCall} {destination : EndpointId} (own : EndpointId) (error : FfaError)
      (listening : call.isRequest = false) (calling : callee = some destination) :
      Follows served callee ⟨call, some (.error error)⟩
        (.sendDirectReq32 own destination (rcErrorArgs error.code))

/-- The exchanges of a call, the latest first, follow each other. -/
def Trace (served callee : Option EndpointId) (log : List Exchange) : Prop :=
  log.IsChain fun later earlier => Follows served callee earlier later.call

/-- Two errors follow a message that claims to be an error with the code of success. -/
def masksErrors : List Delivery → Bool
  | .message _ _ args :: .error first :: .error second :: rest =>
    (args 0 &&& ffaRoutingExtErrorBit ≠ 0 && args 1 = ffaOk) ||
      masksErrors (.error first :: .error second :: rest)
  | _ :: rest => masksErrors rest
  | [] => false

variable {served callee : Option EndpointId} {routing : Routing} {deliveries : List Delivery}
  {bound : Nat} {log : List Exchange} {call : FfaCall} {delivery : Delivery} {req : FfaDirectMsg}

/-- The call still waits for its latest exchange. -/
def Waits (served callee : Option EndpointId) (sp : SpState) : Prop :=
  Trace served callee sp.log ∧ ∃ call rest, sp.log = ⟨call, none⟩ :: rest

/-- A point of a call, with the exchanges so far. -/
structure At (served callee : Option EndpointId) (routing : Routing) (deliveries : List Delivery)
    (bound : Nat) (log : List Exchange) (sp : SpState) : Prop where
  trace : Trace served callee log
  routed : sp.routing = routing
  logged : sp.log = log
  bounded : sp.pending.length < bound
  consumed : (log.filterMap Exchange.delivery).reverse ++ sp.pending = deliveries

/-- What a call returns for a delivery. -/
inductive Answers (call : FfaCall) (msg : FfaDirectMsg) :
    Delivery → FfaResult × FfaDirectMsg → Prop
  | failed (error : FfaError) : Answers call msg (.error error) (error.code, msg)
  | heard {delivery : Delivery} {received : FfaDirectMsg}
      (unpacked : delivery.unpack call = some received) :
      Answers call msg delivery (ffaOk, received)

variable {larger : Nat} {sp : SpState} {msg : FfaDirectMsg} {wanted : FfaDirectMsg → Prop}
  {resp : FfaDirectMsg}

theorem At.mono (here : At served callee routing deliveries bound log sp) (le : bound ≤ larger) :
    At served callee routing deliveries larger log sp :=
  { here with bounded := Nat.lt_of_lt_of_le here.bounded le }

theorem ffaCall_meets (ready : ∀ exchange ∈ log.head?, Follows served callee exchange call) :
    Blocking.Meets (Waits served callee) (At served callee routing deliveries bound log)
      (ffaCall call msg) fun answer sp => ∃ delivery, Answers call msg delivery answer ∧
        At served callee routing deliveries (bound - 1) (⟨call, some delivery⟩ :: log) sp := by
  intro sp here
  have traced : ∀ delivery, Trace served callee (⟨call, delivery⟩ :: log) :=
    fun _ => List.isChain_cons.mpr ⟨ready, here.trace⟩
  have bounded := here.bounded
  have consumed := here.consumed
  unfold ffaCall
  cases pending : sp.pending with
  | nil =>
    rw [here.logged]
    exact ⟨traced none, call, log, rfl⟩
  | cons delivery rest =>
    rw [pending] at bounded consumed
    have later : At served callee routing deliveries (bound - 1)
        (⟨call, some delivery⟩ :: log)
        { sp with pending := rest, log := ⟨call, some delivery⟩ :: sp.log } := by
      refine ⟨traced _, here.routed, by rw [here.logged], Nat.lt_sub_of_add_lt bounded, ?_⟩
      simpa using consumed
    cases delivery with
    | error error => exact ⟨_, .failed error, later⟩
    | success => exact ⟨_, .heard rfl, later⟩
    | message source destination args =>
      refine ⟨_, .heard ?_, later⟩
      cases call <;> rfl

/-- The end of a loop that listens for a message: it has come, or the latest call has failed. -/
def Ends (served callee : Option EndpointId) (routing : Routing) (deliveries : List Delivery)
    (bound : Nat) (wanted : FfaDirectMsg → Prop) (answer : FfaResult × FfaDirectMsg)
    (sp : SpState) : Prop :=
  ∃ call delivery log, FfaCall.isRequest call = false ∧
    (answer.1 = ffaOk ∧ delivery.unpack call = some answer.2 ∧ wanted answer.2 ∨
      ∃ error, delivery = .error error ∧ answer.1 = error.code) ∧
    At served callee routing deliveries bound (⟨call, some delivery⟩ :: log) sp

variable {answer : FfaResult × FfaDirectMsg}

theorem Ends.mono
    (ends : Ends served callee routing deliveries bound wanted answer sp)
    (le : bound ≤ larger) : Ends served callee routing deliveries larger wanted answer sp := by
  obtain ⟨call, delivery, log, listening, result, here⟩ := ends
  exact ⟨call, delivery, log, listening, result, here.mono le⟩

theorem readRouting_meets {pre : SpState → Prop} (routed : ∀ sp, pre sp → sp.routing = routing) :
    Blocking.Meets (Waits served callee) pre (Blocking.read SpState.routing)
      fun current sp => current = routing ∧ pre sp :=
  .read fun sp holds => ⟨routed sp holds, holds⟩

theorem masksErrors_cons {rest : List Delivery} (masks : masksErrors rest = true) :
    masksErrors (delivery :: rest) = true := by
  unfold masksErrors
  split
  · rename_i same
    cases same
    rw [masks, Bool.or_true]
  · rename_i same
    cases same
    exact masks
  · rename_i same
    cases same

variable {source destination : EndpointId}

theorem masksErrors_middle {args : Args32}
    {first second : FfaError} (older newer : List Delivery)
    (bit : args 0 &&& ffaRoutingExtErrorBit ≠ 0) (code : args 1 = ffaOk) :
    masksErrors (older ++ .message source destination args :: .error first :: .error second ::
      newer) = true := by
  induction older with
  | nil =>
    rw [List.nil_append, masksErrors, code, decide_eq_true bit]
    rfl
  | cons delivery older ih => exact masksErrors_cons ih

section

variable (listening : call.isRequest = false) (received : delivery.unpack call = some req)

include listening received

theorem denial_follows (code : FfaResult) :
    ∀ exchange ∈ (⟨call, some delivery⟩ :: log : List Exchange).head?,
      Follows served callee exchange
        (.sendDirectResp32 req.destinationId req.sourceId (rcErrorArgs code)) := by
  intro exchange latest
  cases latest
  exact .denies code listening received

theorem denyUnexpectedRcResponses_meets :
    Blocking.Meets (Waits served callee)
      (At served callee routing deliveries bound (⟨call, some delivery⟩ :: log))
      (denyUnexpectedRcResponses bound req)
      (Ends served callee routing deliveries bound fun msg => isRcMessage msg = false) := by
  induction bound generalizing call delivery req log with
  | zero => exact fun sp here => absurd here.bounded (Nat.not_lt_zero _)
  | succ fuel ih =>
    refine .ite (fun rc => ?_) fun clear => ?_
    · refine .bind (ffaCall_meets (denial_follows listening received _)) fun answer => ?_
      refine .choose fun next => .assume fun answers => ?_
      cases answers with
      | failed error =>
        dsimp only
        rw [if_pos error.isError]
        refine .pure fun sp here => ?_
        exact ⟨_, _, _, rfl, .inr ⟨error, rfl, rfl⟩, here.mono (Nat.le_succ _)⟩
      | heard unpacked =>
        exact (ih rfl unpacked).weaken (fun _ here => here)
          fun _ _ ends => ends.mono (Nat.le_succ _)
    · refine .pure fun sp here => ?_
      exact ⟨_, _, _, listening, .inl ⟨rfl, received, Bool.eq_false_iff.mpr clear⟩, here⟩

/-- What comes while a request may come is a request, if it is not blank. -/
theorem unpack_listening :
    delivery = .success ∧ req = { FfaDirectMsg.zero with functionId := ffaSuccess32 } ∨
      ∃ source destination args, delivery = .message source destination args ∧
        req = ⟨ffaMsgSendDirectReq32, source, destination, args⟩ := by
  cases delivery with
  | error error => cases received
  | success => exact .inl ⟨rfl, (Option.some.inj received).symm⟩
  | message source destination args =>
    cases call with
    | sendDirectReq32 | sendDirectReq64 => cases listening
    | msgWait | sendDirectResp32 | sendDirectResp64 =>
      exact .inr ⟨source, destination, args, rfl, (Option.some.inj received).symm⟩

/-- The message of a delivery that is an error message is the delivery itself. -/
theorem unpack_error (bit : isErrorMessage req = true) :
    ∃ source destination, delivery = .message source destination req.args := by
  obtain ⟨rfl, rfl⟩ | ⟨source, destination, args, rfl, rfl⟩ := unpack_listening listening received
  · exact absurd bit (by decide)
  · exact ⟨source, destination, rfl⟩

/-- The message that is left when a denial and the wait after it have failed is no error message
with the code of success. -/
theorem At.errorCode {waiting denial : FfaCall} {first second : FfaError}
    (here : At served callee routing deliveries bound
      (⟨waiting, some (.error second)⟩ :: ⟨denial, some (.error first)⟩ ::
        ⟨call, some delivery⟩ :: log) sp)
    (unmasked : masksErrors deliveries = false) (bit : isErrorMessage req = true) :
    getErrorCodeFromMessage req ≠ ffaOk := by
  intro code
  obtain ⟨source, destination, rfl⟩ := unpack_error listening received bit
  have consumed := here.consumed
  simp only [List.filterMap_cons, List.reverse_cons, List.append_assoc, List.cons_append,
    List.nil_append] at consumed
  have masks := @masksErrors_middle source destination req.args first second
    (log.filterMap Exchange.delivery).reverse sp.pending (of_decide_eq_true bit) code
  rw [consumed, unmasked] at masks
  cases masks

theorem denyUnexpectedRequests_meets :
    Blocking.Meets (Waits served callee)
      (At served callee routing deliveries bound (⟨call, some delivery⟩ :: log))
      (denyUnexpectedRequests bound req) fun answer sp =>
        (answer.1 ≠ ffaOk → masksErrors deliveries = false → isErrorMessage answer.2 = true →
          getErrorCodeFromMessage answer.2 ≠ ffaOk) ∧
        Ends served callee routing deliveries bound
          (fun msg => isRcMessage msg = true ∧ msg.sourceId = routing.callerId) answer sp := by
  induction bound generalizing call delivery req log with
  | zero => exact fun sp here => absurd here.bounded (Nat.not_lt_zero _)
  | succ fuel ih =>
    have again : ∀ {call delivery req log}, FfaCall.isRequest call = false →
        delivery.unpack call = some req →
        Blocking.Meets (Waits served callee)
          (At served callee routing deliveries fuel (⟨call, some delivery⟩ :: log))
          (denyUnexpectedRequests fuel req) fun answer sp =>
            (answer.1 ≠ ffaOk → masksErrors deliveries = false →
              isErrorMessage answer.2 = true → getErrorCodeFromMessage answer.2 ≠ ffaOk) ∧
            Ends served callee routing deliveries (fuel + 1)
              (fun msg => isRcMessage msg = true ∧ msg.sourceId = routing.callerId) answer sp :=
      fun listening received => (ih listening received).weaken (fun _ here => here)
        fun _ _ ends => ⟨ends.1, ends.2.mono (Nat.le_succ _)⟩
    refine .bind (readRouting_meets fun _ here => here.routed) fun current => ?_
    refine .assume ?_
    rintro rfl
    refine .ite (fun unexpected => ?_) fun expected => ?_
    · refine .bind (ffaCall_meets (denial_follows listening received _)) fun answer => ?_
      refine .choose fun next => .assume fun answers => ?_
      cases answers with
      | heard unpacked =>
        exact again rfl unpacked
      | failed error =>
        dsimp only
        rw [if_pos error.isError]
        refine .bind (ffaCall_meets ?_) fun answer => ?_
        · rintro exchange ⟨⟩
          exact .waitsAgain _ _ _ error
        refine .choose fun later => .assume fun answers => ?_
        cases answers with
        | heard unpacked =>
          exact (again rfl unpacked).weaken (fun _ here => here.mono (Nat.sub_le _ _))
            fun _ _ ends => ends
        | failed second =>
          rw [if_pos second.isError]
          refine .pure fun sp here => ⟨?_, _, _, _, rfl, .inr ⟨second, rfl, rfl⟩, here.mono ?_⟩
          · intro _ unmasked bit
            exact here.errorCode listening received unmasked bit
          · omega
    · refine .pure fun sp here => ⟨?_, _, _, _, listening, .inl ⟨rfl, received, ?_⟩, here⟩
      · exact fun differs => absurd rfl differs
      · rw [not_or] at expected
        exact ⟨Bool.eq_true_of_not_eq_false expected.1, of_not_not expected.2⟩

end

theorem setRouting_meets (change : Routing → Routing) :
    Blocking.Meets (Waits served callee) (At served callee routing deliveries bound log)
      (setRouting change) fun _ => At served callee (change routing) deliveries bound log :=
  .modify fun _ here => { here with routed := congrArg change here.routed }

theorem rounds_meets :
    Blocking.Meets (Waits served callee) (At served callee routing deliveries bound log)
      rounds fun fuel => At served callee routing deliveries fuel log :=
  .read fun _ here => { here with bounded := Nat.lt_succ_self _ }

/-- A point of a direct request at which the callee has answered. -/
def Requested (served callee : Option EndpointId) (routing : Routing) (deliveries : List Delivery)
    (bound : Nat) (sp : SpState) : Prop :=
  ∃ call delivery log state, FfaCall.isRequest call = true ∧
    At served callee { routing with state := state } deliveries bound
      (⟨call, some delivery⟩ :: log) sp

/-- The caller's answer to a forwarded RC request, or the error in its place, goes to the
callee. -/
theorem answerRcRoot_meets
    (answer : FfaResult × FfaDirectMsg) (calling : callee = some routing.calleeId)
    (serving : ∀ msg, wanted msg → isRcMessage msg = true ∧ served = some msg.sourceId) :
    Blocking.Meets (Waits served callee) (Ends served callee routing deliveries bound wanted answer)
      (answerRcRoot resp answer) fun reply sp => ∃ call delivery log state,
        FfaCall.isRequest call = true ∧
        Answers call resp delivery reply ∧
        At served callee { routing with state := state } deliveries (bound - 1)
          (⟨call, some delivery⟩ :: log) sp := by
  refine .choose fun call => .choose fun delivery => .choose fun log => .assume fun listening => ?_
  unfold answerRcRoot
  rintro sp ⟨⟨ok, received, wantedMsg⟩ | ⟨error, rfl, failed⟩, here⟩
  · obtain ⟨rc, caller⟩ := serving _ wantedMsg
    rw [if_neg (fun differs => differs ok)]
    have ready : ∀ exchange ∈ (⟨call, some delivery⟩ :: log : List Exchange).head?,
        Follows served callee exchange
          (.sendDirectReq32 routing.ownId routing.calleeId answer.2.args) := by
      intro exchange latest
      cases latest
      exact .forwardsResponse _ listening received rc caller calling
    refine Blocking.Meets.bind (setRouting_meets _) (fun _ => ?_) sp here
    refine .bind (readRouting_meets fun _ here => here.routed) fun current => .assume fun same => ?_
    rw [same]
    exact (ffaCall_meets ready).weaken (fun _ here => here)
      fun _ _ ⟨_, answers, here⟩ => ⟨_, _, _, _, rfl, answers, here⟩
  · rw [if_pos (failed ▸ error.isError), failed]
    have ready : ∀ exchange ∈ (⟨call, some (.error error)⟩ :: log : List Exchange).head?,
        Follows served callee exchange
          (.sendDirectReq32 routing.ownId routing.calleeId (rcErrorArgs error.code)) := by
      intro exchange latest
      cases latest
      exact .reportsError _ error listening calling
    refine Blocking.Meets.bind (readRouting_meets fun _ here => here.routed)
      (fun current => .assume fun same => ?_) sp here
    rw [same]
    exact (ffaCall_meets ready).weaken (fun _ here => here)
      fun _ _ ⟨_, answers, here⟩ => ⟨_, _, _, routing.state, rfl, answers, here⟩

theorem awaitRcResponse_meets {args : Args32}
    (answers : Answers (.sendDirectResp32 source destination args) msg delivery answer) :
    Blocking.Meets (Waits served callee) (At served callee routing deliveries bound
        (⟨.sendDirectResp32 source destination args, some delivery⟩ :: log))
      (awaitRcResponse bound answer) (Ends served callee routing deliveries bound
        fun msg => isRcMessage msg = true ∧ msg.sourceId = routing.callerId) := by
  unfold awaitRcResponse
  cases answers with
  | failed error =>
    rw [if_pos error.isError]
    exact .pure fun sp here => ⟨_, _, _, rfl, .inr ⟨error, rfl, rfl⟩, here⟩
  | heard unpacked =>
    exact (denyUnexpectedRequests_meets rfl unpacked).weaken (fun _ here => here)
      fun _ _ ends => ends.2

theorem forwardRcMessages_meets (rcResp : FfaDirectMsg)
    (requesting : call.isRequest = true) (received : delivery.unpack call = some resp)
    (serving : isRcMessage resp = true → isErrorMessage resp = false → served.isSome = true)
    (caller : routing.callerId = served.getD spIdInvalid)
    (calling : callee = some routing.calleeId) :
    Blocking.Meets (Waits served callee)
      (At served callee routing deliveries bound (⟨call, some delivery⟩ :: log))
      (forwardRcMessages bound resp rcResp)
      fun _ sp => Requested served callee routing deliveries bound sp := by
  induction bound generalizing call delivery resp rcResp log routing with
  | zero => exact fun sp here => absurd here.bounded (Nat.not_lt_zero _)
  | succ fuel ih =>
    refine .ite (fun rc => .ite (fun failed => ?_) fun plain => ?_) fun clear => ?_
    · exact .pure fun sp here => ⟨_, _, _, routing.state, requesting, here⟩
    · obtain ⟨served, rfl⟩ := Option.isSome_iff_exists.mp (serving rc (Bool.eq_false_iff.mpr plain))
      refine .bind (setRouting_meets _) fun _ => ?_
      refine .bind (readRouting_meets fun _ here => here.routed) fun current => ?_
      refine .assume ?_
      rintro rfl
      have ready : ∀ exchange ∈ (⟨call, some delivery⟩ :: log : List Exchange).head?,
          Follows (some served) callee exchange
            (.sendDirectResp32 routing.ownId routing.callerId resp.args) := by
        intro exchange latest
        cases latest
        exact .forwardsRequest _ requesting received rc (congrArg some caller.symm)
      refine .bind (ffaCall_meets ready) fun answer => ?_
      refine .choose fun forwarded => .assume fun answers => ?_
      refine .bind (awaitRcResponse_meets answers) fun answer => ?_
      refine .bind (answerRcRoot_meets answer calling fun msg wanted => ?_) fun reply => ?_
      · exact ⟨wanted.1, congrArg some (caller.symm.trans wanted.2.symm)⟩
      · refine .choose fun call => .choose fun delivery => .choose fun log =>
          .choose fun state => .assume fun requesting => .assume fun answers => ?_
        have le : fuel - 1 ≤ fuel + 1 := by omega
        cases answers with
        | failed error =>
          dsimp only
          rw [if_pos error.isError]
          exact .pure fun sp here => ⟨_, _, _, state, requesting, here.mono le⟩
        | heard unpacked =>
          have same : ({ routing with state := state } : Routing).callerId =
            (some served).getD spIdInvalid := caller
          exact (ih _ requesting unpacked (fun _ _ => rfl) same calling).weaken
            (fun _ here => here.mono (Nat.sub_le _ _))
            fun _ _ ⟨_, _, _, state, requesting, here⟩ =>
              ⟨_, _, _, state, requesting, here.mono (Nat.le_succ _)⟩
    · exact .pure fun sp here => ⟨_, _, _, routing.state, requesting, here⟩

end LibSp
