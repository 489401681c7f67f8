import TrustedServices.Crypto.Calls
import TrustedServices.Crypto.ContextPrivacy

/- Multi-part operations over a provider, and the requests of a caller for them. -/
namespace Crypto

open Lib Common Function Provider

/-- A provider with the operation of each context. `ended` is the last operation that was finished
or verified with success. -/
structure OperationService (size : Nat) (Op : Type) where
  provider : Provider size
  operations : Fin size → Op
  ended : Option Op

variable {size : Nat} {Op : Type}

section

variable (usage : CryptoContextOpId) (clientId : ClientId) (service : OperationService size Op)
  (response : ResponseBuffer)

def serializeOpHandle (opHandle : BitVec 32) : RpcStatus × ResponseBuffer :=
  if 4 ≤ response.data.length then
    (rpcSuccess, ⟨leBytes 4 opHandle.toNat ++ response.data.drop 4, 4⟩)
  else (rpcErrorInternal, response)

/-- A setup. The operation that the backend makes does not depend on the context. -/
def beginOperation (begun : PsaStatus × Op) : Answer × OperationService size Op :=
  let allocated := service.provider.alloc usage clientId
  match allocated.1 with
  | none =>
    (⟨rpcErrorResourceFailure, psaSuccess, response⟩, { service with provider := allocated.2 })
  | some (context, opHandle) =>
    let serialized :=
      if begun.1 = psaSuccess then serializeOpHandle response opHandle else (rpcSuccess, response)
    (⟨serialized.1, begun.1, serialized.2⟩,
      { service with
        provider :=
          if begun.1 ≠ psaSuccess ∨ serialized.1 ≠ rpcSuccess then allocated.2.free context
          else allocated.2
        operations := update service.operations context begun.2 })

def ContextAction.missing : ContextAction → PsaStatus
  | .abort => psaSuccess
  | _ => psaErrorBadState

def ContextAction.frees : ContextAction → PsaStatus → Bool
  | .finish, status => status == psaSuccess
  | .abort, _ => true
  | _, _ => false

def runOperation (action : ContextAction) (opHandle : BitVec 32)
    (run : Op → ResponseBuffer → Answer × Op) : Answer × OperationService size Op :=
  match cryptoContextPoolFind service.provider.pool usage clientId opHandle with
  | none => (⟨rpcSuccess, action.missing, response⟩, service)
  | some context =>
    let ran := run (service.operations context) response
    (ran.1,
      { provider :=
          if action.frees ran.1.serviceStatus then service.provider.free context
          else service.provider
        operations := update service.operations context ran.2
        ended :=
          if action = .finish ∧ ran.1.serviceStatus = psaSuccess then
            some (service.operations context)
          else service.ended })

end

/-- A request of one word, which is a handle in all requests but those of setups. -/
def wordRequest (word : BitVec 32) : Bytes := leBytes 4 word.toNat

def deserializeWord (request : Bytes) : Option (BitVec 32) :=
  if 4 ≤ request.length then some (BitVec.ofNat 32 (leNat (slice request 0 4))) else none

/-- A handle, and a parameter of any length in a record that has exactly its room. -/
def parameterRequest (opHandle : BitVec 32) (parameter : Bytes) : Bytes :=
  let record := TlvRecord.ofBuffer 1 parameter
  let space := List.replicate (tlvRequiredSpace record.length.toNat) 0
  wordRequest opHandle ++
    match tlvEncode (tlvIteratorBegin space) record with
    | none => space
    | some iter => iter.buffer

def deserializeParameter (request : Bytes) : Option (BitVec 32 × Bytes) :=
  match deserializeWord request with
  | none => none
  | some opHandle =>
    match tlvFindDecode (request.drop 4) 1 with
    | none => some (opHandle, [])
    | some (record, _) => some (opHandle, record.value)

def onDecoded {α State : Type} (decoded : Option α) (service : State) (response : ResponseBuffer)
    (handler : α → Answer × State) : Answer × State :=
  match decoded with
  | none => (⟨rpcErrorInvalidRequestBody, psaSuccess, response⟩, service)
  | some value => handler value

def sendRequest {State : Type} (memory : SessionMemory) (service : State) (request : Bytes)
    (responseMaxLength : Nat) (handler : Bytes → ResponseBuffer → Answer × State) :
    Option Received × State :=
  match memory.begin request.length responseMaxLength with
  | none => (none, service)
  | some size =>
    let handled := handler request (responseOver size request)
    (some (rpcCallerSessionInvoke handled.1), handled.2)

def Received.status (received : Received) : PsaStatus :=
  if received.rpcStatus = rpcSuccess then received.serviceStatus else psaErrorGenericError

def callStatus : Option Received → PsaStatus
  | none => psaErrorGenericError
  | some received => received.status

def decodeOpHandle : Option Received → PsaStatus × BitVec 32
  | none => (psaErrorGenericError, 0)
  | some received =>
    if received.status ≠ psaSuccess then (received.status, 0)
    else if 4 ≤ received.response.length then
      (psaSuccess, BitVec.ofNat 32 (leNat (slice received.response 0 4)))
    else (psaErrorGenericError, 0)

def decodeOutputOf (tag : BitVec 16) (outputSize : Nat) : Option Received → PsaStatus × Bytes
  | none => (psaErrorGenericError, [])
  | some received => decodeOutput tag outputSize received

variable {opHandle : BitVec 32} {parameter behind : Bytes}

theorem parameterRequest_eq :
    parameterRequest opHandle parameter =
      wordRequest opHandle ++ (TlvRecord.ofBuffer 1 parameter).bytes := by
  unfold parameterRequest
  dsimp only
  rw [tlvEncode_begin, tlvRequiredSpace_field, List.length_replicate, if_pos (Nat.le_refl _)]
  unfold TlvIterator.buffer
  dsimp only
  rw [List.drop_eq_nil_of_le (by rw [List.length_replicate]), List.append_nil]

@[simp] theorem length_wordRequest : (wordRequest opHandle).length = 4 := length_leBytes _ _

theorem length_parameterRequest :
    (parameterRequest opHandle parameter).length = 8 + parameter.length % 2 ^ 16 := by
  rw [parameterRequest_eq, List.length_append, length_wordRequest, TlvRecord.length_ofBuffer_bytes]
  unfold tlvHdrLen
  omega

theorem deserializeWord_append :
    deserializeWord (wordRequest opHandle ++ behind) = some opHandle := by
  exact congrArg some (leNat_leBytes_bitVec 4 opHandle)

theorem deserializeWord_eq : deserializeWord (wordRequest opHandle) = some opHandle := by
  have decoded := @deserializeWord_append opHandle []
  rwa [List.append_nil] at decoded

/-- The provider gets the parameter with its length cut to 16 bits. -/
theorem deserializeParameter_eq :
    deserializeParameter (parameterRequest opHandle parameter) =
      some (opHandle, parameter.take (parameter.length % 2 ^ 16)) := by
  have found := @tlvFindDecode_ofBuffer 1 parameter []
  rw [List.append_nil] at found
  unfold deserializeParameter
  rw [parameterRequest_eq, deserializeWord_append]
  rw [show (4 : Nat) = (wordRequest opHandle).length from length_wordRequest.symm,
    List.drop_left, found]

variable {service : OperationService size Op} {usage : CryptoContextOpId} {clientId : ClientId}
  {response : ResponseBuffer} {good next : Setup → Op → Prop}

/-- The operation of each active context is good for the setup of the context. -/
def OperationService.Holds (service : OperationService size Op) (good : Setup → Op → Prop) : Prop :=
  ∃ free active, service.provider.Pooled free active ∧
    ∀ context ∈ active, ∀ setup, service.provider.live context = some setup →
      good setup (service.operations context)

section

variable {action : ContextAction} {opHandle : BitVec 32}
  {run : Op → ResponseBuffer → Answer × Op} {context : Fin size}

theorem runOperation_ended
    (found : cryptoContextPoolFind service.provider.pool usage clientId opHandle = some context)
    (success : (run (service.operations context) response).1.serviceStatus = psaSuccess) :
    (runOperation usage clientId service response .finish opHandle run).2.ended =
      some (service.operations context) := by
  unfold runOperation
  rw [found]
  exact if_pos ⟨rfl, success⟩

/-- Only the operation of the handle changes, and only its context is freed. -/
theorem OperationService.Holds.run_found (holds : service.Holds good)
    (found : cryptoContextPoolFind service.provider.pool usage clientId opHandle = some context)
    (others : ∀ setup op, setup.opHandle ≠ opHandle → good setup op → next setup op)
    (own : action.frees (run (service.operations context) response).1.serviceStatus = false →
      ∀ setup, setup.opHandle = opHandle → good setup (service.operations context) →
        next setup (run (service.operations context) response).2) :
    (runOperation usage clientId service response action opHandle run).2.Holds next := by
  obtain ⟨free, active, pooled, all⟩ := holds
  obtain ⟨member, number, live⟩ := pooled.find found
  have ownHandle : (service.provider.contexts context).opHandle = opHandle := by
    obtain ⟨_, _, setUp⟩ := pooled.setUp context member
    exact congrArg Setup.opHandle (Option.some.inj (setUp.symm.trans live))
  have elsewhere (other : Fin size) (isActive : other ∈ active) (different : other ≠ context)
      (setup : Setup) (setUp : service.provider.live other = some setup) :
      next setup (service.operations other) := by
    refine others setup _ ?_ (all other isActive setup setUp)
    obtain ⟨_, _, known⟩ := pooled.setUp other isActive
    rw [← Option.some.inj (known.symm.trans setUp), ← ownHandle]
    exact fun same => different (List.inj_on_of_nodup_map pooled.handles isActive member same)
  unfold runOperation
  rw [found]
  dsimp only
  cases freed : action.frees (run (service.operations context) response).1.serviceStatus with
  | false =>
    refine ⟨free, active, pooled, fun other isActive setup setUp => ?_⟩
    by_cases same : other = context
    · subst same
      show next setup (update service.operations other _ other)
      rw [update_self]
      refine own freed setup ?_ (all other isActive setup setUp)
      rw [← Option.some.inj (live.symm.trans setUp)]
    · show next setup (update service.operations context _ other)
      rw [update_of_ne same]
      exact elsewhere other isActive same setup setUp
  | true =>
    obtain ⟨front, back, rfl⟩ := List.append_of_mem member
    refine ⟨_, _, pooled.freed, fun other isActive setup setUp => ?_⟩
    have different : other ≠ context := by
      intro same
      have distinct := pooled.freed.represents.distinct
      rw [List.cons_append, List.nodup_cons, List.mem_append, not_or] at distinct
      exact distinct.1.2 (same ▸ isActive)
    have setUp : update service.provider.live context none other = some setup := setUp
    rw [update_of_ne different] at setUp
    show next setup (update service.operations context _ other)
    rw [update_of_ne different]
    refine elsewhere other ?_ different setup setUp
    rw [List.mem_append] at isActive ⊢
    exact isActive.imp_right (List.mem_cons_of_mem _)

variable {begun : PsaStatus × Op}

/-- A setup that succeeds leaves a new context, with a handle that no other active context has. -/
structure OperationService.Begun (service after : OperationService size Op)
    (usage : CryptoContextOpId) (clientId : ClientId) (good : Setup → Op → Prop) (operation : Op)
    (opHandle : BitVec 32) : Prop where
  ended : after.ended = service.ended
  setups : after.provider.setups = service.provider.setups + 1
  found : ∃ context,
    cryptoContextPoolFind after.provider.pool usage clientId opHandle = some context ∧
      after.operations context = operation
  holds : ∀ next : Setup → Op → Prop,
    (∀ setup op, setup.opHandle ≠ opHandle → good setup op → next setup op) →
    next ⟨usage, clientId, opHandle, service.provider.setups⟩ operation → after.Holds next

theorem Provider.Pooled.find_eq {provider : Provider size} {free active : List (Fin size)}
    (pooled : provider.Pooled free active) (member : context ∈ active)
    (same : provider.contexts context = ⟨usage, clientId, opHandle⟩) :
    cryptoContextPoolFind provider.pool usage clientId opHandle = some context := by
  unfold cryptoContextPoolFind
  rw [pooled.represents.forward.walk_eq pooled.active_length]
  cases found : active.find? _ with
  | none =>
    have unmatched := List.find?_eq_none.mp found context member
    simp only [same, beq_self_eq_true, Bool.and_self, not_true] at unmatched
  | some other =>
    have isActive := List.mem_of_find?_eq_some found
    have matched := List.find?_some found
    rw [Bool.and_eq_true, Bool.and_eq_true, beq_iff_eq] at matched
    rw [List.inj_on_of_nodup_map pooled.handles isActive member (by rw [matched.1.1, same])]

/-- The contexts that an allocation leaves are good as before, whatever the new one is. -/
theorem OperationService.Holds.withRoom (holds : service.Holds good) :
    ∃ free active, service.provider.withRoom.Pooled free active ∧
      ∀ context ∈ active, ∀ setup, service.provider.withRoom.live context = some setup →
        good setup (service.operations context) := by
  obtain ⟨_, _, pooled, all⟩ := holds
  obtain ⟨free, active, roomy, kept, _⟩ := pooled.withRoom
  refine ⟨free, active, roomy, fun context member setup live => ?_⟩
  obtain ⟨wasActive, same⟩ := kept context member
  exact all context wasActive setup (same ▸ live)

/-- A setup that does not succeed leaves no new context. -/
theorem OperationService.Holds.begin_refused (small : size < 2 ^ 32) (holds : service.Holds good)
    (refused : (beginOperation usage clientId service response begun).1.rpcStatus ≠ rpcSuccess ∨
      (beginOperation usage clientId service response begun).1.serviceStatus ≠ psaSuccess) :
    (beginOperation usage clientId service response begun).2.Holds good := by
  obtain ⟨free, active, roomy, all⟩ := holds.withRoom
  unfold beginOperation at refused ⊢
  cases free with
  | nil =>
    rw [roomy.alloc_none]
    exact ⟨_, _, roomy, all⟩
  | cons context rest =>
    rw [roomy.alloc_some] at refused ⊢
    dsimp only at refused ⊢
    rw [if_pos refused.symm]
    have next := @Provider.Pooled.withSetup _ _ _ _ usage clientId _ small roomy
    refine ⟨_, _, @Provider.Pooled.freed _ _ _ _ [] active next, fun other member setup live => ?_⟩
    have different : other ≠ context := by
      have distinct := next.represents.distinct
      exact fun same => (List.nodup_cons.mp (List.nodup_append.mp distinct).2.1).1 (same ▸ member)
    have live : update (service.provider.withRoom.withSetup context usage clientId).live
      context none other = some setup := live
    rw [update_of_ne different, withSetup_live_other different] at live
    show good setup (update service.operations context _ other)
    rw [update_of_ne different]
    exact all other member setup live

theorem OperationService.Holds.begin_accepted (small : size < 2 ^ 32) (holds : service.Holds good)
    (done : (beginOperation usage clientId service response begun).1.rpcStatus = rpcSuccess)
    (success : (beginOperation usage clientId service response begun).1.serviceStatus = psaSuccess) :
    ∃ opHandle,
      (beginOperation usage clientId service response begun).1.response =
        ⟨leBytes 4 opHandle.toNat ++ response.data.drop 4, 4⟩ ∧ 4 ≤ response.data.length ∧
      begun.1 = psaSuccess ∧
      service.Begun (beginOperation usage clientId service response begun).2 usage clientId good
        begun.2 opHandle := by
  obtain ⟨free, active, roomy, all⟩ := holds.withRoom
  unfold beginOperation at done success ⊢
  cases free with
  | nil =>
    rw [roomy.alloc_none] at done
    cases done
  | cons context rest =>
    rw [roomy.alloc_some] at done success ⊢
    dsimp only at done success ⊢
    rw [if_pos success] at done ⊢
    have next := @Provider.Pooled.withSetup _ _ _ _ usage clientId _ small roomy
    have fits : 4 ≤ response.data.length := by
      unfold serializeOpHandle at done
      split at done
      · assumption
      · cases done
    have accepted : ¬(begun.1 ≠ psaSuccess ∨ (serializeOpHandle response (allocOpHandle
        (service.provider.withRoom.pool.activated context usage clientId))).1 ≠ rpcSuccess) :=
      not_or.mpr ⟨not_not_intro success, not_not_intro done⟩
    rw [if_neg accepted]
    refine ⟨allocOpHandle (service.provider.withRoom.pool.activated context usage clientId), ?_,
      fits, success, rfl, ?_, ⟨context, ?_, update_self ..⟩, ?_⟩
    · unfold serializeOpHandle
      rw [if_pos fits]
    · exact congrArg (· + 1) withRoom_setups
    · exact next.find_eq (List.mem_cons_self ..) withSetup_context
    · intro later others own
      refine ⟨_, _, next, List.forall_mem_cons.mpr ⟨fun setup live => ?_,
        fun other member setup live => ?_⟩⟩
      · show later setup (update service.operations context _ context)
        rw [withSetup_live, withRoom_setups] at live
        rw [update_self, ← Option.some.inj live]
        exact own
      · have different : other ≠ context := by
          have distinct := next.represents.distinct
          exact fun same =>
            (List.nodup_cons.mp (List.nodup_append.mp distinct).2.1).1 (same ▸ member)
        rw [withSetup_live_other different] at live
        show later setup (update service.operations context _ other)
        rw [update_of_ne different]
        refine others setup _ ?_ (all other member setup live)
        obtain ⟨_, _, known⟩ := roomy.setUp other member
        rw [← Option.some.inj (known.symm.trans live)]
        exact (@Provider.Pooled.allocOpHandle_fresh _ _ _ _ _ usage clientId small roomy).2 other
          member

end

variable {memory : SessionMemory} {request : Bytes} {responseMaxLength : Nat} {α : Type} {value : α}
  {decode : Bytes → Option α} {handleOf : α → BitVec 32}

section

variable {action : ContextAction} {run : α → Op → ResponseBuffer → Answer × Op}

theorem sendRequest_run (decoded : decode request = some value)
    (handle : handleOf value = opHandle) {sent : Option Received × OperationService size Op}
    (isSent : sendRequest memory service request responseMaxLength (fun request response =>
      onDecoded (decode request) service response fun value =>
        runOperation usage clientId service response action (handleOf value) (run value)) = sent) :
    sent = (none, service) ∨
    (∃ response, cryptoContextPoolFind service.provider.pool usage clientId opHandle = none ∧
      sent = (some (rpcCallerSessionInvoke ⟨rpcSuccess, action.missing, response⟩), service)) ∨
    ∃ room context,
      memory.begin request.length responseMaxLength = some room ∧
      cryptoContextPoolFind service.provider.pool usage clientId opHandle = some context ∧
      sent = (some (rpcCallerSessionInvoke
          (run value (service.operations context) (responseOver room request)).1),
        (runOperation usage clientId service (responseOver room request) action opHandle
          (run value)).2) := by
  subst isSent handle
  unfold sendRequest
  cases begun : memory.begin request.length responseMaxLength with
  | none => exact .inl rfl
  | some room =>
    right
    dsimp only
    rw [decoded]
    unfold onDecoded
    dsimp only
    cases found : cryptoContextPoolFind service.provider.pool usage clientId
      (handleOf value) with
    | none =>
      unfold runOperation
      rw [found]
      exact .inl ⟨_, rfl, rfl⟩
    | some context =>
      refine .inr ⟨room, context, rfl, rfl, ?_⟩
      unfold runOperation
      rw [found]

/-- What the operation of a handle keeps is kept by every call on the handle. -/
theorem OperationService.Holds.sent (holds : service.Holds good)
    (decoded : decode request = some value)
    (own : ∀ setup operation response, good setup operation →
      good setup (run value operation response).2) :
    (sendRequest memory service request responseMaxLength (fun request response =>
      onDecoded (decode request) service response fun value =>
        runOperation usage clientId service response action (handleOf value) (run value))).2.Holds
      good := by
  generalize isSent : sendRequest memory service request responseMaxLength _ = sent
  obtain rfl | ⟨response, _, rfl⟩ | ⟨room, context, _, found, rfl⟩ :=
    sendRequest_run decoded rfl isSent
  · exact holds
  · exact holds
  · exact holds.run_found found (fun _ _ _ good => good) fun _ setup _ => own setup _ _

end

theorem callStatus_success {received : Received}
    (success : callStatus (some received) = psaSuccess) :
    received.rpcStatus = rpcSuccess ∧ received.serviceStatus = psaSuccess := by
  have status : received.status = psaSuccess := success
  unfold Received.status at status
  split_ifs at status ⊢ with done
  · exact ⟨done, status⟩
  · exact absurd status (by decide)

theorem decodeOpHandle_word :
    decodeOpHandle (some ⟨rpcSuccess, psaSuccess, wordRequest opHandle⟩) = (psaSuccess, opHandle) := by
  have word := @deserializeWord_eq opHandle
  unfold decodeOpHandle
  dsimp only
  rw [length_wordRequest, if_pos (Nat.le_refl 4), Option.some.inj word]
  rfl

/-- A setup succeeds for the caller with the handle of a new context, or leaves no new context. -/
theorem sendRequest_begin
    {begun : α → PsaStatus × Op} (small : size < 2 ^ 32) (holds : service.Holds good)
    (decoded : decode request = some value) {sent : Option Received × OperationService size Op}
    (isSent : sendRequest memory service request responseMaxLength (fun request response =>
      onDecoded (decode request) service response fun value =>
        beginOperation usage clientId service response (begun value)) = sent) :
    ((decodeOpHandle sent.1).1 ≠ psaSuccess ∧ sent.2.Holds good) ∨
    ((decodeOpHandle sent.1).1 = psaSuccess ∧ (begun value).1 = psaSuccess ∧
      service.Begun sent.2 usage clientId good (begun value).2 (decodeOpHandle sent.1).2) := by
  subst isSent
  unfold sendRequest
  cases begins : memory.begin request.length responseMaxLength with
  | none =>
    have failed : psaErrorGenericError ≠ psaSuccess := by decide
    exact .inl ⟨failed, holds⟩
  | some room =>
    dsimp only
    rw [decoded]
    unfold onDecoded
    by_cases accepted :
        (beginOperation usage clientId service (responseOver room request)
          (begun value)).1.rpcStatus = rpcSuccess ∧
        (beginOperation usage clientId service (responseOver room request)
          (begun value)).1.serviceStatus = psaSuccess
    · obtain ⟨opHandle, response, fits, success, isBegun⟩ :=
        holds.begin_accepted small accepted.1 accepted.2
      have front : (leBytes 4 opHandle.toNat ++ (responseOver room request).data.drop 4).take 4 =
          wordRequest opHandle := List.take_left' (length_leBytes _ _)
      have received : rpcCallerSessionInvoke (beginOperation usage clientId service
          (responseOver room request) (begun value)).1 =
            ⟨rpcSuccess, psaSuccess, wordRequest opHandle⟩ := by
        unfold rpcCallerSessionInvoke
        rw [accepted.1, accepted.2, response]
        rw [if_neg (by simp), front]
      rw [received, decodeOpHandle_word]
      exact .inr ⟨rfl, success, isBegun⟩
    · left
      refine ⟨fun success => accepted ?_, holds.begin_refused small ?_⟩
      · unfold decodeOpHandle at success
        dsimp only at success
        split at success
        · rename_i refused
          exact absurd success refused
        · rename_i status
          exact callStatus_success (not_not.mp status)
      · by_contra both
        rw [not_or, not_not, not_not] at both
        exact accepted both

end Crypto
