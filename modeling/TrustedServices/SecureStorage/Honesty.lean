import TrustedServices.SecureStorage.Client

/- When a success that the client reports is one of the storage backend. -/
namespace SecureStorage

open Lib Rpc

variable {State : Type} {backend : StorageBackend State} {state : State} {sourceId : Nat}

@[simp] theorem word64_front (word : BitVec 64) (rest : Bytes) :
    word64 (leBytes 8 word.toNat ++ rest) 0 = word := by
  exact leNat_leBytes_bitVec 8 word

@[simp] theorem word64_last (word : BitVec 64) : word64 (leBytes 8 word.toNat) 0 = word := by
  simpa using word64_front word []

@[simp] theorem word32_front (word : BitVec 32) (rest : Bytes) :
    word32 (leBytes 4 word.toNat ++ rest) 0 = word := by
  exact leNat_leBytes_bitVec 4 word

@[simp] theorem word32_last (word : BitVec 32) : word32 (leBytes 4 word.toNat) 0 = word := by
  simpa using word32_front word []

theorem word64_length (length : Nat) (rest : Bytes) (fits : length < 2 ^ 64) :
    (word64 (leBytes 8 length ++ rest) 0).toNat = length := by
  unfold word64
  rw [slice_leBytes_front, leNat_leBytes 8 length fits, BitVec.toNat_ofNat, Nat.mod_eq_of_lt fits]

section

variable (value : Nat) (rest : Bytes) {offset : Nat} (behind : 8 ≤ offset)

include behind

@[simp] theorem word64_behind :
    word64 (leBytes 8 value ++ rest) offset = word64 rest (offset - 8) := by
  unfold word64
  rw [slice_leBytes_behind 8 value rest offset 8 behind]

@[simp] theorem word32_behind :
    word32 (leBytes 8 value ++ rest) offset = word32 rest (offset - 8) := by
  unfold word32
  rw [slice_leBytes_behind 8 value rest offset 4 behind]

end

theorem length_setRequest (uid : BitVec 64) (data : Bytes) (createFlags : BitVec 32) :
    (setRequest uid data createFlags).length = 20 + data.length := by
  simp only [setRequest, List.length_append, length_leBytes]
  omega

theorem length_setExtendedRequest (uid dataOffset : BitVec 64) (data : Bytes) :
    (setExtendedRequest uid dataOffset data).length = 24 + data.length := by
  simp only [setExtendedRequest, List.length_append, length_leBytes]
  omega

variable {createFlags : BitVec 32} {uid : BitVec 64}

theorem slice_all (data : Bytes) : slice data 0 data.length = data := by
  simp [slice]

theorem dataHandler_eq {descriptorSize lengthOffset : Nat} {request data : Bytes}
    {decode : Bytes → StorageRequest} (fits : descriptorSize + data.length < 2 ^ 64)
    (length : request.length = descriptorSize + data.length)
    (dataLength : (word64 request lengthOffset).toNat = data.length)
    (body : slice request descriptorSize data.length = data) :
    dataHandler backend state sourceId descriptorSize lengthOffset request decode =
      .serve backend state sourceId (decode data) fun _ => [] := by
  unfold dataHandler
  rw [if_neg (by omega), dataLength]
  simp only [addOverflow, if_pos fits]
  rw [if_neg (by omega), body]

theorem setHandler_setRequest {data : Bytes} (fits : 20 + data.length < 2 ^ 64) :
    setHandler backend state sourceId (setRequest uid data createFlags) =
      .serve backend state sourceId (.set uid data createFlags) fun _ => [] := by
  unfold setHandler
  rw [dataHandler_eq fits (length_setRequest _ _ _)]
  · simp [setRequest]
  · simp [setRequest, word64_length data.length _ (by omega)]
  · simp [setRequest, slice_leBytes_behind, slice_all]

variable {dataOffset : BitVec 64}

theorem setExtendedHandler_setExtendedRequest {data : Bytes}
    (fits : 24 + data.length < 2 ^ 64) :
    setExtendedHandler backend state sourceId (setExtendedRequest uid dataOffset data) =
      .serve backend state sourceId (.setExtended uid dataOffset data) fun _ => [] := by
  unfold setExtendedHandler
  rw [dataHandler_eq fits (length_setExtendedRequest _ _ _)]
  · simp [setExtendedRequest]
  · simp [setExtendedRequest, word64_length data.length _ (by omega)]
  · simp [setExtendedRequest, slice_leBytes_behind, slice_all]

theorem getHandler_getRequest {dataSize responseSize : Nat}
    (fits : dataSize < 2 ^ 64) :
    getHandler backend state sourceId (getRequest uid dataOffset dataSize) responseSize =
      .serve backend state sourceId (.get uid dataOffset (min responseSize dataSize))
        StorageReply.data := by
  have size : (word64 (leBytes 8 dataSize) 0).toNat = dataSize := by
    simpa using word64_length dataSize [] fits
  unfold getHandler
  simp [getRequest, size]

variable {uid capacity : BitVec 64}

theorem createHandler_createRequest :
    createHandler backend state sourceId (createRequest uid capacity createFlags) =
      .serve backend state sourceId (.create uid capacity createFlags) fun _ => [] := by
  simp [createHandler, createRequest]

theorem removeHandler_uidRequest :
    removeHandler backend state sourceId (uidRequest uid) =
      .serve backend state sourceId (.remove uid) fun _ => [] := by
  simp [removeHandler, uidRequest]

theorem getInfoHandler_uidRequest {responseSize : Nat} (room : 20 ≤ responseSize) :
    getInfoHandler backend state sourceId (uidRequest uid) responseSize =
      .serve backend state sourceId (.getInfo uid) fun reply =>
        if reply.status = psaSuccess then reply.info.bytes else [] := by
  simp [getInfoHandler, uidRequest, Nat.not_lt_of_le room]

theorem infoOf_bytes (info : StorageInfo) : infoOf info.bytes = info := by
  simp [infoOf, StorageInfo.bytes, -BitVec.toNat_setWidth]

inductive ClientCall
  | set (uid : BitVec 64) (input : InputBuffer) (createFlags : BitVec 32)
  | get (uid dataOffset : BitVec 64) (dataSize : Nat) (destination : Bool)
  | getInfo (uid : BitVec 64) (destination : Bool)
  | remove (uid : BitVec 64)
  | create (uid capacity : BitVec 64) (createFlags : BitVec 32)
  | setExtended (uid dataOffset : BitVec 64) (input : InputBuffer)
  deriving DecidableEq, Repr

def ClientCall.perform (link : Link) (backend : StorageBackend State) (state : State)
    (sourceId : Nat) (session : CallerSession) : ClientCall → ClientOutcome State
  | .set uid input createFlags =>
    secureStorageClientSet link backend state sourceId session uid input createFlags
  | .get uid dataOffset dataSize destination =>
    secureStorageClientGet link backend state sourceId session uid dataOffset dataSize destination
  | .getInfo uid destination =>
    secureStorageClientGetInfo link backend state sourceId session uid destination
  | .remove uid => secureStorageClientRemove link backend state sourceId session uid
  | .create uid capacity createFlags =>
    secureStorageClientCreate link backend state sourceId session uid capacity createFlags
  | .setExtended uid dataOffset input =>
    secureStorageSetExtended link backend state sourceId session uid dataOffset input

/-- The request to the backend that a call is for. What is read is clipped to the memory. -/
def ClientCall.request (memorySize : Nat) : ClientCall → StorageRequest
  | .set uid input createFlags => .set uid input.data createFlags
  | .get uid dataOffset dataSize _ => .get uid dataOffset (min memorySize dataSize)
  | .getInfo uid _ => .getInfo uid
  | .remove uid => .remove uid
  | .create uid capacity createFlags => .create uid capacity createFlags
  | .setExtended uid dataOffset input => .setExtended uid dataOffset input.data

/-- The application gets what the backend produced. -/
def ClientCall.Gives (call : ClientCall) (reply : StorageReply) (outcome : ClientOutcome State) :
    Prop :=
  match call with
  | .get _ _ _ _ => outcome.data = some reply.data
  | .getInfo _ _ => outcome.info = some reply.info
  | _ => True

/-- A success of the client is one of the backend, which ran the request. -/
def ClientCall.Honest (call : ClientCall) (outcome : ClientOutcome State) : Prop :=
  outcome.status = psaSuccess → ∃ exchange ∈ outcome.exchange, ∃ reply,
    exchange.served = some (call.request exchange.memorySize, reply) ∧
      reply.status = psaSuccess ∧ call.Gives reply outcome

/-- The invocation succeeded, or the end failed, or the backend did carry out the request. -/
def Exchange.Sound (exchange : Exchange) : Prop :=
  exchange.invoked = .success ∨ exchange.ended ≠ .success ∨
    ∃ served ∈ exchange.served, served.2.status = psaSuccess

/-- The session in the transaction for a request, if it begins. -/
def Link.started (link : Link) (session : CallerSession) (requestLength responseMaxLength : Nat) :
    Option CallerSession :=
  let begun := rpcCallerSessionBegin (link.caller (Handled.refused () .success)) session
    requestLength responseMaxLength
  if begun.1 then some begun.2.1 else none

/-- The request is answered, or the session does not end well, or only the reply is lost and it is
a success. -/
def Link.Carries (link : Link) (started : CallerSession) (reply : StorageReply) : Prop :=
  sessionCalls started = true ∧ link.delivery = .answered ∨
    (rpcCallerSessionEnd (link.caller (Handled.refused () .success)) started true).1 ≠ .success ∨
    sessionCalls started = true ∧ link.delivery.ran = true ∧ reply.status = psaSuccess

/-- What has to hold of the transport: a `create` begins its transaction, and it and a
`setExtended` that begins are carried. -/
def ClientCall.CarriedOut (link : Link) (backend : StorageBackend State) (state : State)
    (sourceId : Nat) (session : CallerSession) : ClientCall → Prop
  | .create uid capacity createFlags => ∃ started ∈ link.started session 20 0,
    link.Carries started (backend.serve state sourceId (.create uid capacity createFlags)).1
  | .setExtended uid dataOffset input => input.isNull = false →
    ∀ started ∈ link.started session (24 + input.data.length) 0,
      link.Carries started (backend.serve state sourceId (.setExtended uid dataOffset input.data)).1
  | _ => True

variable {link : Link} {session : CallerSession} {handled : Handled State}

/-- An invocation succeeds only if the handler ran and succeeded. A response that does not fit
the memory is dropped. -/
theorem invoke_success {code : Nat}
    (success : (rpcCallerSessionInvoke (link.caller handled) session true code).1 = .success) :
    sessionCalls session = true ∧ link.delivery = .answered ∧ handled.status = .success ∧
      ∃ buffer, (rpcCallerSessionInvoke (link.caller handled) session true code).2 =
        some (if handled.response.length > session.sharedMemory.size
          then ⟨none, 0, handled.serviceStatus⟩
          else ⟨buffer, handled.response.length, handled.serviceStatus⟩) := by
  unfold rpcCallerSessionInvoke at success ⊢
  rw [if_neg (by decide)] at success ⊢
  by_cases idle : session.isCallTransactionInProgress = false
  · rw [if_pos idle] at success
    cases success
  · rw [if_neg idle] at success ⊢
    by_cases lacks : session.lacksMemory = true
    · rw [if_pos lacks] at success
      cases success
    · rw [if_neg lacks] at success ⊢
      by_cases connected : session.connected = true
      · have calls : sessionCalls session = true := by
          simp only [sessionCalls, connected, Bool.true_and, Bool.and_eq_true, Bool.not_eq_true']
          exact ⟨by simpa using idle, by simpa using lacks⟩
        simp only [CallerSession.callerOf, connected, if_true, rpcCallerCall, Link.caller]
          at success ⊢
        cases delivery : link.delivery with
        | lost status failed ran =>
          rw [delivery] at success
          rw [if_pos (.inl failed)] at success
          exact absurd success failed
        | answered =>
          rw [delivery] at success
          dsimp only at success ⊢
          have answered : handled.status = .success := by
            split at success
            · exact success
            · exact success
          refine ⟨calls, rfl, answered, session.sharedMemory.buffer, ?_⟩
          simp only [answered, ne_eq, not_true_eq_false, false_or]
          split
          · rfl
          · rfl
      · have unconnected : session.connected = false := by simpa using connected
        simp only [CallerSession.callerOf, unconnected, rpcCallerCall] at success
        cases success

theorem invoke_answered {code : Nat} (calls : sessionCalls session = true)
    (answered : link.delivery = .answered) (well : handled.status = .success) :
    (rpcCallerSessionInvoke (link.caller handled) session true code).1 = .success := by
  simp only [sessionCalls, Bool.and_eq_true, Bool.not_eq_true'] at calls
  simp only [rpcCallerSessionInvoke, calls, CallerSession.callerOf, rpcCallerCall, Link.caller,
    answered, well, Bool.true_eq_false, Bool.false_eq_true, if_true, if_false]
  split <;> rfl

/-- Nothing that a handler leaves matters for the end of a call. -/
theorem end_status {Other : Type} (handled : Handled State) (other : Handled Other) :
    (rpcCallerSessionEnd (link.caller handled) session true).1 =
      (rpcCallerSessionEnd (link.caller other) session true).1 := by
  obtain ⟨connected, _, _, _, _⟩ := session
  cases connected <;> rfl

theorem sound_iff {code memorySize : Nat} {output : Option InvokeOutput} {asked : StorageRequest}
    (serves : handled = .serve backend state sourceId asked fun _ => []) :
    Exchange.Sound
        { invoked := (rpcCallerSessionInvoke (link.caller handled) session true code).1
          output := output
          ended := (rpcCallerSessionEnd (link.caller handled) session true).1
          memorySize := memorySize
          served := if sessionCalls session && link.delivery.ran then handled.served else none } ↔
      link.Carries session (backend.serve state sourceId asked).1 := by
  subst serves
  refine or_congr ⟨fun success => ?_, fun carries => ?_⟩ (or_congr ?_ ?_)
  · obtain ⟨calls, answered, _⟩ := invoke_success success
    exact ⟨calls, answered⟩
  · exact invoke_answered carries.1 carries.2 rfl
  · rw [end_status]
  · simp [Handled.serve, and_assoc]

/-- A call over the session that has begun a transaction. -/
structure Exchanged (link : Link) (session : CallerSession) (backend : StorageBackend State)
    (state : State) (sourceId : Nat) (opcode : Opcode) (request : Bytes) (responseMaxLength : Nat)
    (read : RpcStatus → Option InvokeOutput → Bytes → Reading) (outcome : ClientOutcome State)
    (exchange : Exchange) (handled : Handled State) : Prop where
  begun : outcome.exchange = some exchange
  carried : ∃ started, link.started session request.length responseMaxLength = some started ∧
    ∀ asked, handled = .serve backend state sourceId asked (fun _ => []) →
      (exchange.Sound ↔ link.Carries started (backend.serve state sourceId asked).1)
  small : max request.length responseMaxLength ≤ 2 ^ 32 - 1
  handles : handled = receive backend state sourceId opcode request exchange.memorySize
  served : exchange.served = none ∨ exchange.served = handled.served
  answered : exchange.invoked = .success → handled.status = .success ∧
    exchange.served = handled.served ∧ ∃ buffer, exchange.output =
      some (if handled.response.length > exchange.memorySize
        then ⟨none, 0, handled.serviceStatus⟩
        else ⟨buffer, handled.response.length, handled.serviceStatus⟩)
  status : outcome.status =
    endStatus (read exchange.invoked exchange.output handled.response).status exchange.ended
  data : outcome.data = (read exchange.invoked exchange.output handled.response).data
  info : outcome.info = (read exchange.invoked exchange.output handled.response).info

theorem started_small {requestLength responseMaxLength : Nat} {started : CallerSession}
    (begins : link.started session requestLength responseMaxLength = some started) :
    max requestLength responseMaxLength ≤ 2 ^ 32 - 1 := by
  by_contra large
  unfold Link.started rpcCallerSessionBegin at begins
  rw [if_pos (Nat.lt_of_not_le large)] at begins
  cases begins

/-- What can come of a call over the session: no transaction, or an exchange with the provider. -/
theorem transact_cases (opcode : Opcode) (request : Bytes) (responseMaxLength : Nat)
    (noHandle : PsaStatus) (read : RpcStatus → Option InvokeOutput → Bytes → Reading)
    {outcome : ClientOutcome State}
    (computed : outcome = transact link backend state sourceId session opcode request
      responseMaxLength noHandle read) :
    outcome.status = noHandle ∧ outcome.exchange = none ∧
        link.started session request.length responseMaxLength = none ∨
      ∃ exchange handled, Exchanged link session backend state sourceId opcode request
        responseMaxLength read outcome exchange handled := by
  unfold transact at computed
  dsimp only at computed
  split at computed
  · rename_i refused
    rw [computed]
    exact .inl ⟨rfl, rfl, if_neg (ne_true_of_eq_false refused)⟩
  · rename_i began
    rw [computed]
    have begins : link.started session request.length responseMaxLength = some _ :=
      if_pos (eq_true_of_ne_false began)
    refine .inr ⟨_, _, ⟨rfl, ⟨_, begins, fun asked => sound_iff⟩, started_small begins, rfl, ?_, ?_,
      rfl, rfl, rfl⟩⟩
    · split
      · exact .inr rfl
      · exact .inl rfl
    · intro success
      obtain ⟨calls, answered, handledWell, output⟩ := invoke_success success
      refine ⟨handledWell, ?_, output⟩
      rw [calls, answered]
      rfl

theorem endStatus_success {psaStatus : PsaStatus} {ended : RpcStatus} :
    endStatus psaStatus ended = psaSuccess ↔ psaStatus = psaSuccess ∧ ended = .success := by
  unfold endStatus
  split_ifs with shown
  · constructor
    · intro same
      cases same
    · intro both
      exact absurd both.2 shown.2
  · constructor
    · intro success
      refine ⟨success, ?_⟩
      by_contra failed
      exact shown ⟨success, failed⟩
    · exact And.left

variable {output : Option InvokeOutput} {response : Bytes} {invoked : RpcStatus}
  {destination : Bool}

theorem readStatus_failed {initial : PsaStatus} (failed : invoked ≠ .success) :
    readStatus initial invoked output response = ⟨initial, none, none⟩ := by
  unfold readStatus
  split
  · exact absurd rfl failed
  · rfl

variable {dataSize : Nat}

theorem readData_failed (failed : invoked ≠ .success) :
    readData dataSize invoked output response = ⟨psaErrorGenericError, none, none⟩ := by
  unfold readData
  split
  · exact absurd rfl failed
  · rfl

theorem readInfo_failed (failed : invoked ≠ .success) :
    readInfo invoked output response = ⟨psaErrorGenericError, none, none⟩ := by
  unfold readInfo
  split
  · exact absurd rfl failed
  · rfl

variable {opcode : Opcode} {request : Bytes} {responseMaxLength : Nat} {initial : PsaStatus}
  {outcome : ClientOutcome State} {exchange : Exchange} {asked : StorageRequest}

/-- A success of a call that reads only the status: the end succeeded, and the backend did too
unless the invocation failed and the status was a success from the start. -/
theorem Exchanged.status_success
    (exchanged : Exchanged link session backend state sourceId opcode request responseMaxLength
      (readStatus initial) outcome exchange handled)
    (serves : handled = .serve backend state sourceId asked fun _ => []) :
    outcome.status = psaSuccess ↔ exchange.ended = .success ∧
      if exchange.invoked = .success then
        ∃ reply, exchange.served = some (asked, reply) ∧ reply.status = psaSuccess
      else initial = psaSuccess := by
  rw [exchanged.status, endStatus_success, and_comm]
  apply and_congr_right
  intro _
  split_ifs with invoked
  · obtain ⟨_, served, buffer, output⟩ := exchanged.answered invoked
    have status : (readStatus initial exchange.invoked exchange.output handled.response).status =
        (backend.serve state sourceId asked).1.status := by
      rw [invoked, output, serves]
      simp only [readStatus, Handled.serve, List.length_nil, Nat.not_lt_zero, gt_iff_lt, if_false,
        Int32.ofInt_toInt]
    rw [status, served, serves]
    constructor
    · exact fun success => ⟨_, rfl, success⟩
    · rintro ⟨reply, same, success⟩
      cases same
      exact success
  · rw [readStatus_failed invoked]

/-- A call that reads only the status is honest unless it starts from a success and the
transport fails in between. -/
theorem Exchanged.honest_iff (call : ClientCall)
    (exchanged : Exchanged link session backend state sourceId opcode request responseMaxLength
      (readStatus initial) outcome exchange handled)
    (serves : handled = .serve backend state sourceId (call.request exchange.memorySize)
      fun _ => []) (plain : ∀ reply, call.Gives reply outcome) :
    call.Honest outcome ↔ (initial = psaSuccess → exchange.Sound) := by
  have success := exchanged.status_success serves
  constructor
  · intro honest starts
    by_cases invoked : exchange.invoked = .success
    · exact .inl invoked
    · by_cases ended : exchange.ended = .success
      · rw [if_neg invoked] at success
        obtain ⟨same, begun, reply, served, well, _⟩ := honest (success.mpr ⟨ended, starts⟩)
        cases exchanged.begun.symm.trans begun
        exact .inr (.inr ⟨_, served, well⟩)
      · exact .inr (.inl ended)
  · intro sound reported
    obtain ⟨ended, source⟩ := success.mp reported
    by_cases invoked : exchange.invoked = .success
    · rw [if_pos invoked] at source
      obtain ⟨reply, served, well⟩ := source
      exact ⟨exchange, exchanged.begun, reply, served, well, plain reply⟩
    · rw [if_neg invoked] at source
      rcases sound source with succeeded | failed | ⟨⟨asked, reply⟩, served, well⟩
      · exact absurd succeeded invoked
      · exact absurd ended failed
      · have ran : exchange.served = handled.served := by
          rcases exchanged.served with absent | ran
          · rw [absent] at served
            cases served
          · exact ran
        rw [serves] at ran
        cases ran.symm.trans served
        exact ⟨exchange, exchanged.begun, _, ran, well, plain _⟩

/-- A read gives the data of the backend: the provider clips them to the memory, so that the
session does not drop them. -/
theorem Exchanged.honest_get
    (exchanged : Exchanged link session backend state sourceId opcode request responseMaxLength
      (readData dataSize) outcome exchange handled)
    (serves : handled = .serve backend state sourceId
      (.get uid dataOffset (min exchange.memorySize dataSize)) StorageReply.data) :
    (ClientCall.get uid dataOffset dataSize destination).Honest outcome := by
  intro reported
  have reading := (endStatus_success.mp (exchanged.status.symm.trans reported)).1
  by_cases invoked : exchange.invoked = .success
  · obtain ⟨_, served, buffer, output⟩ := exchanged.answered invoked
    have short : handled.response.length ≤ exchange.memorySize := by
      rw [serves]
      exact Nat.le_trans (backend.get_fits _ _ _ _ _) (Nat.min_le_left _ _)
    rw [if_neg (Nat.not_lt_of_le short)] at output
    have data := exchanged.data
    rw [invoked, output] at reading data
    simp only [readData] at reading data
    split at reading
    · cases reading
    · rename_i fits
      rw [if_neg fits] at data
      split_ifs at reading ⊢ with well
      · exact absurd reading well
      · rw [if_neg well] at data
        rw [serves] at served data well
        simp only [Handled.serve, Int32.ofInt_toInt, not_not] at well
        refine ⟨exchange, exchanged.begun, _, served, well, data.trans ?_⟩
        simp only [responseBytes, List.take_length]
        rfl
  · rw [readData_failed invoked] at reading
    cases reading

theorem Exchanged.honest_getInfo
    (exchanged : Exchanged link session backend state sourceId opcode request responseMaxLength
      readInfo outcome exchange handled) (serves : handled.status = .success → 20 ≤ exchange.memorySize ∧
      handled = .serve backend state sourceId (.getInfo uid) fun reply =>
        if reply.status = psaSuccess then reply.info.bytes else []) :
    (ClientCall.getInfo uid destination).Honest outcome := by
  intro reported
  have reading := (endStatus_success.mp (exchanged.status.symm.trans reported)).1
  by_cases invoked : exchange.invoked = .success
  · obtain ⟨well, served, buffer, output⟩ := exchanged.answered invoked
    obtain ⟨room, serves⟩ := serves well
    have info := exchanged.info
    rw [invoked, output] at reading info
    subst serves
    by_cases success : (backend.serve state sourceId (.getInfo uid)).1.status = psaSuccess
    · have length : (backend.serve state sourceId (.getInfo uid)).1.info.bytes.length = 20 := by
        simp [StorageInfo.bytes]
      have short : ¬ 20 > exchange.memorySize := Nat.not_lt_of_le room
      refine ⟨exchange, exchanged.begun, _, served, success, info.trans ?_⟩
      simp only [Handled.serve, success, if_true, length, if_neg short, readInfo,
        Int32.ofInt_toInt, ne_eq, not_true_eq_false, and_false, if_false, responseBytes]
      rw [← length, List.take_length, infoOf_bytes]
    · simp only [Handled.serve, if_neg success, List.length_nil, gt_iff_lt, Nat.not_lt_zero,
        if_false, readInfo, Int32.ofInt_toInt] at reading
      split at reading
      · cases reading
      · exact absurd reading success
  · rw [readInfo_failed invoked] at reading
    cases reading

theorem ClientCall.honest_of_failed {call : ClientCall} {status : PsaStatus}
    (same : outcome.status = status) (failed : status ≠ psaSuccess) : call.Honest outcome :=
  fun success => absurd (same.symm.trans success) failed

theorem ClientCall.honest_refused {call : ClientCall}
    (performed : ClientOutcome.refused state session psaErrorInvalidArgument = outcome) :
    call.Honest outcome := by
  subst performed
  exact @honest_of_failed _ _ _ psaErrorInvalidArgument rfl (by decide)

variable {input : InputBuffer}

theorem secureStorageClientSet_honest
    (performed : secureStorageClientSet link backend state sourceId session uid input createFlags =
      outcome) : (ClientCall.set uid input createFlags).Honest outcome := by
  unfold secureStorageClientSet at performed
  split_ifs at performed ⊢
  · exact ClientCall.honest_refused performed
  · exact ClientCall.honest_refused performed
  · rcases transact_cases _ _ _ _ _ performed.symm with
      ⟨status, _⟩ | ⟨exchange, handled, exchanged⟩
    · exact ClientCall.honest_of_failed status (by decide)
    · have small := exchanged.small
      rw [length_setRequest] at small
      have serves := exchanged.handles.trans (setHandler_setRequest (by omega))
      exact (Exchanged.honest_iff (.set uid input createFlags) exchanged serves
        fun _ => trivial).mpr fun starts => absurd starts (by decide)

theorem secureStorageClientGet_honest
    (performed : secureStorageClientGet link backend state sourceId session uid dataOffset dataSize
      destination = outcome) :
    (ClientCall.get uid dataOffset dataSize destination).Honest outcome := by
  unfold secureStorageClientGet at performed
  split at performed
  · exact ClientCall.honest_refused performed
  · rcases transact_cases _ _ _ _ _ performed.symm with
      ⟨status, _⟩ | ⟨exchange, handled, exchanged⟩
    · exact ClientCall.honest_of_failed status (by decide)
    · have small := exchanged.small
      exact exchanged.honest_get (exchanged.handles.trans (getHandler_getRequest (by omega)))

theorem secureStorageClientGetInfo_honest
    (performed : secureStorageClientGetInfo link backend state sourceId session uid destination =
      outcome) : (ClientCall.getInfo uid destination).Honest outcome := by
  unfold secureStorageClientGetInfo at performed
  split at performed
  · exact ClientCall.honest_refused performed
  · rcases transact_cases _ _ _ _ _ performed.symm with
      ⟨status, _⟩ | ⟨exchange, handled, exchanged⟩
    · exact ClientCall.honest_of_failed status (by decide)
    · apply exchanged.honest_getInfo
      intro well
      have room : 20 ≤ exchange.memorySize := by
        by_contra small
        rw [exchanged.handles, receive, getInfoHandler, if_neg (by simp [uidRequest]),
          if_pos (by omega)] at well
        cases well
      exact ⟨room, exchanged.handles.trans (getInfoHandler_uidRequest room)⟩

theorem secureStorageClientRemove_honest
    (performed : secureStorageClientRemove link backend state sourceId session uid = outcome) :
    (ClientCall.remove uid).Honest outcome := by
  rcases transact_cases _ _ _ _ _ performed.symm with
    ⟨status, _⟩ | ⟨exchange, handled, exchanged⟩
  · exact ClientCall.honest_of_failed status (by decide)
  · have serves := exchanged.handles.trans removeHandler_uidRequest
    exact (Exchanged.honest_iff (.remove uid) exchanged serves fun _ => trivial).mpr
      fun starts => absurd starts (by decide)

/-- A `create` reports a success that it starts from if no transaction begins, or if its
invocation fails. -/
theorem secureStorageClientCreate_honest_iff
    (performed : secureStorageClientCreate link backend state sourceId session uid capacity
      createFlags = outcome) :
    (ClientCall.create uid capacity createFlags).Honest outcome ↔
      (ClientCall.create uid capacity createFlags).CarriedOut link backend state sourceId
        session := by
  have length : (createRequest uid capacity createFlags).length = 20 := by simp [createRequest]
  dsimp only [ClientCall.CarriedOut]
  rcases transact_cases _ _ _ _ _ performed.symm with
    ⟨status, unbegun, refused⟩ | ⟨exchange, handled, exchanged⟩
  · rw [length] at refused
    rw [refused]
    refine iff_of_false (fun honest => ?_) nofun
    obtain ⟨exchange, begun, _⟩ := honest status
    cases unbegun.symm.trans begun
  · have serves := exchanged.handles.trans createHandler_createRequest
    obtain ⟨started, begins, sound⟩ := exchanged.carried
    rw [length] at begins
    rw [Exchanged.honest_iff (.create uid capacity createFlags) exchanged serves fun _ => trivial,
      sound _ serves, begins]
    simp

theorem secureStorageSetExtended_honest_iff
    (performed : secureStorageSetExtended link backend state sourceId session uid dataOffset input =
      outcome) :
    (ClientCall.setExtended uid dataOffset input).Honest outcome ↔
      (ClientCall.setExtended uid dataOffset input).CarriedOut link backend state sourceId
        session := by
  have length := length_setExtendedRequest uid dataOffset input.data
  dsimp only [ClientCall.CarriedOut]
  unfold secureStorageSetExtended at performed
  split_ifs at performed with null long
  · exact iff_of_true (ClientCall.honest_refused performed) fun given =>
      absurd null (ne_true_of_eq_false given)
  · refine iff_of_true (ClientCall.honest_refused performed) fun given started begins => ?_
    have small := started_small begins
    cases input with
    | null => cases given
    | bytes data =>
      dsimp only [InputBuffer.data] at small
      have fits : addOverflow 24 data.length = some _ := if_pos (by omega)
      cases fits.symm.trans long
  · rcases transact_cases _ _ _ _ _ performed.symm with
      ⟨status, _, refused⟩ | ⟨exchange, handled, exchanged⟩
    · rw [length] at refused
      rw [refused]
      exact iff_of_true (ClientCall.honest_of_failed status (by decide)) nofun
    · have small := exchanged.small
      rw [length] at small
      have serves := exchanged.handles.trans (setExtendedHandler_setExtendedRequest (by omega))
      obtain ⟨started, begins, sound⟩ := exchanged.carried
      rw [length] at begins
      rw [Exchanged.honest_iff (.setExtended uid dataOffset input) exchanged serves
        fun _ => trivial, sound _ serves, begins]
      simp [null]

/-- A success that the client reports is one of the backend, which ran the request and produced
what the client returns, exactly if the transport carries out its `create` and `set_extended`
calls. -/
theorem client_honest_iff (link : Link) (backend : StorageBackend State) (state : State)
    (sourceId : Nat) (session : CallerSession) (call : ClientCall) :
    call.Honest (call.perform link backend state sourceId session) ↔
      call.CarriedOut link backend state sourceId session := by
  cases call with
  | set uid input createFlags => exact iff_of_true (secureStorageClientSet_honest rfl) trivial
  | get uid dataOffset dataSize destination =>
    exact iff_of_true (secureStorageClientGet_honest rfl) trivial
  | getInfo uid destination => exact iff_of_true (secureStorageClientGetInfo_honest rfl) trivial
  | remove uid => exact iff_of_true (secureStorageClientRemove_honest rfl) trivial
  | create uid capacity createFlags => exact secureStorageClientCreate_honest_iff rfl
  | setExtended uid dataOffset input => exact secureStorageSetExtended_honest_iff rfl

/-- A link over which the memory cannot be shared. -/
def exhaustedLink : Link where
  createSharedMemory _ := (.errorInternal, .zero)
  releaseSharedMemory _ := .success
  delivery := .answered

/-- A link that loses every request. -/
def deadLink : Link where
  createSharedMemory size := (.success, ⟨5, some 4096, size⟩)
  releaseSharedMemory _ := .success
  delivery := .lost .errorTransportLayer nofun false

/-- A backend that refuses every request. -/
def refusingBackend : StorageBackend Unit where
  serve _ _ _ := (⟨psaErrorGenericError, [], ⟨0, 0, 0⟩⟩, ())
  get_fits _ _ _ _ _ := Nat.zero_le _

/-- A session with a caller that allocates for each call. -/
def idleSession : CallerSession := ⟨true, .zero, .allocForEachCall, false, 0⟩

/-- A `create` over a session that cannot begin succeeds, as do a `create` and a `set_extended`
whose requests are lost. The provider ran none of them. -/
theorem lostRequests_reportSuccess :
    ((ClientCall.create 1 16 0).perform exhaustedLink refusingBackend () 7 idleSession).status =
        psaSuccess ∧
      ((ClientCall.create 1 16 0).perform exhaustedLink refusingBackend () 7
        idleSession).exchange.isNone ∧
      (∀ call ∈ [ClientCall.create 1 16 0, .setExtended 1 0 (.bytes [1, 2, 3])],
        (call.perform deadLink refusingBackend () 7 idleSession).status = psaSuccess ∧
        ∀ exchange ∈ (call.perform deadLink refusingBackend () 7 idleSession).exchange,
          exchange.served = none) := by
  decide +kernel

end SecureStorage
