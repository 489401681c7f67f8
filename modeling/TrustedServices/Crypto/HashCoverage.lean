import TrustedServices.Crypto.RemoteHash

/- The calls after which a hash operation has absorbed the input that the client gave. -/
namespace Crypto

open Lib Common Function

section

variable {size : Nat} {backend : HashBackend} {client : HashClient} {system : HashSystem size}
  {opHandle : BitVec 32} {input hash : Bytes} {hashSize : Nat}

/-- The context of a handle has an operation that has absorbed some input. -/
def HashSystem.Absorbed (system : HashSystem size) (clientId : ClientId) (opHandle alg : BitVec 32)
    (absorbed : Bytes) : Prop :=
  ∃ context, cryptoContextPoolFind system.service.provider.pool .hash clientId opHandle =
    some context ∧ system.service.operations context = .active alg absorbed

theorem HashSystem.Absorbed.unique {clientId : ClientId} {alg otherAlg : BitVec 32}
    {absorbed other : Bytes} (first : system.Absorbed clientId opHandle alg absorbed)
    (second : system.Absorbed clientId opHandle otherAlg other) :
    alg = otherAlg ∧ absorbed = other := by
  obtain ⟨context, found, operation⟩ := first
  obtain ⟨_, again, same⟩ := second
  rw [found] at again
  rw [← Option.some.inj again, operation] at same
  exact HashOperation.active.inj same

variable {operation : HashOperation}

theorem HashBackend.absorb_success {data : Bytes}
    (success : (backend.absorb data operation).1 = psaSuccess) :
    ∃ alg absorbed, operation = .active alg absorbed ∧
      (backend.absorb data operation).2 = .active alg (absorbed ++ data) := by
  cases operation with
  | active alg absorbed => exact ⟨alg, absorbed, rfl, if_pos success⟩
  | inactive | failed => cases success

variable {absorbed : Bytes} {alg : BitVec 32}

theorem HashBackend.absorb_failure {data : Bytes}
    (failure : (backend.absorb data operation).1 ≠ psaSuccess) :
    (backend.absorb data operation).2 ≠ .active alg absorbed := by
  cases operation with
  | active alg absorbed =>
    have failed : (backend.absorb data (.active alg absorbed)).2 = .failed := if_neg failure
    rw [failed]
    exact HashOperation.noConfusion
  | inactive | failed => exact HashOperation.noConfusion

theorem HashBackend.digest_inactive : (backend.digest operation).2.2 ≠ .active alg absorbed := by
  cases operation with
  | active alg absorbed =>
    unfold HashBackend.digest
    dsimp only
    split <;> exact HashOperation.noConfusion
  | inactive | failed => exact HashOperation.noConfusion

theorem HashBackend.check_inactive : (backend.check hash operation).2 ≠ .active alg absorbed := by
  cases operation with
  | active alg absorbed =>
    unfold HashBackend.check
    dsimp only
    split <;> exact HashOperation.noConfusion
  | inactive | failed => exact HashOperation.noConfusion

/-- An update that succeeds has absorbed its input with the length cut to 16 bits. -/
theorem psaHashUpdate_absorbed (success : (psaHashUpdate backend client system opHandle input).1 =
      psaSuccess) :
    ∃ alg absorbed, system.Absorbed client.clientId opHandle alg absorbed ∧
      (psaHashUpdate backend client system opHandle input).2.Absorbed client.clientId opHandle alg
        (absorbed ++ input.take (input.length % 2 ^ 16)) := by
  unfold psaHashUpdate at success ⊢
  dsimp only at success ⊢
  generalize isSent : sendRequest client.memory system.service (parameterRequest opHandle input) 0
    (hashUpdateHandler backend client.clientId system.service) = sent at success ⊢
  obtain rfl | ⟨response, _, rfl⟩ | ⟨room, context, _, found, rfl⟩ :=
    sendRequest_run deserializeParameter_eq rfl isSent
  · cases success
  · cases success
  · obtain ⟨_, absorbs⟩ := callStatus_success success
    obtain ⟨alg, absorbed, operation, after⟩ := HashBackend.absorb_success absorbs
    refine ⟨alg, absorbed, ⟨context, found, operation⟩, context, ?_, ?_⟩
    · unfold runOperation
      rw [found]
      exact found
    · unfold runOperation
      rw [found]
      exact (update_self ..).trans after

theorem psaHashFinish_ended
    (success : (psaHashFinish backend client system opHandle hashSize).1 = psaSuccess) :
    ∃ alg absorbed, system.Absorbed client.clientId opHandle alg absorbed ∧
      (psaHashFinish backend client system opHandle hashSize).2.2.service.ended =
        some (.active alg absorbed) := by
  unfold psaHashFinish at success ⊢
  generalize isSent : sendRequest client.memory system.service (wordRequest opHandle)
    (tlvRequiredSpace hashSize) (hashFinishHandler backend client.clientId system.service) = sent
    at success ⊢
  obtain rfl | ⟨response, _, rfl⟩ | ⟨room, context, _, found, rfl⟩ :=
    sendRequest_run deserializeWord_eq rfl isSent
  · cases success
  · obtain ⟨_, service, _⟩ := decodeOutput_success success
    cases service
  · obtain ⟨_, status, _⟩ := decodeOutput_success success
    cases operation : system.service.operations context with
    | active alg absorbed =>
      refine ⟨alg, absorbed, ⟨context, found, operation⟩, ?_⟩
      rw [← operation]
      exact runOperation_ended found status
    | inactive | failed =>
      rw [operation] at status
      cases status

theorem psaHashVerify_ended (success : (psaHashVerify backend client system opHandle hash).1 =
      psaSuccess) :
    ∃ alg absorbed, system.Absorbed client.clientId opHandle alg absorbed ∧
      (psaHashVerify backend client system opHandle hash).2.service.ended =
        some (.active alg absorbed) := by
  unfold psaHashVerify at success ⊢
  dsimp only at success ⊢
  generalize isSent : sendRequest client.memory system.service (parameterRequest opHandle hash) 0
    (hashVerifyHandler backend client.clientId system.service) = sent at success ⊢
  obtain rfl | ⟨response, _, rfl⟩ | ⟨room, context, _, found, rfl⟩ :=
    sendRequest_run deserializeParameter_eq rfl isSent
  · cases success
  · cases success
  · obtain ⟨_, status⟩ := callStatus_success success
    cases operation : system.service.operations context with
    | active alg absorbed =>
      refine ⟨alg, absorbed, ⟨context, found, operation⟩, ?_⟩
      rw [← operation]
      exact runOperation_ended found status
    | inactive | failed =>
      rw [operation] at status
      cases status

theorem psaHashSetup_absorbed {good : Setup → HashOperation → Prop} {alg : BitVec 32}
    (small : size < 2 ^ 32) (holds : system.service.Holds good)
    (success : (psaHashSetup backend client system opHandle alg).1 = psaSuccess) :
    (psaHashSetup backend client system opHandle alg).2.2.Absorbed client.clientId
      (psaHashSetup backend client system opHandle alg).2.1 alg [] := by
  unfold psaHashSetup at success ⊢
  split_ifs at success ⊢ with fresh
  · cases success
  · generalize isSent : sendRequest client.memory system.service (wordRequest alg) 0
      (hashSetupHandler backend client.clientId system.service) = sent at success ⊢
    obtain ⟨refused, _⟩ | ⟨accepted, begins, begun⟩ :=
      sendRequest_begin small holds deserializeWord_eq isSent
    · rw [if_neg refused] at success
      exact absurd success refused
    · rw [if_pos accepted]
      obtain ⟨context, found, operation⟩ := begun.found
      exact ⟨context, found, operation.trans (if_pos begins)⟩

end

variable {size : Nat} {backend : HashBackend} {client : HashClient} {system : HashSystem size}
  {opHandle alg : BitVec 32} {input hash : Bytes} {hashSize : Nat}

/-- An operation has absorbed what has been given to its handle. -/
def Faithful (given : BitVec 32 → Bytes) (setup : Setup) (operation : HashOperation) : Prop :=
  ∀ alg absorbed, operation = .active alg absorbed → absorbed = given setup.opHandle

def HashSystem.Faithful (system : HashSystem size) : Prop :=
  system.service.Holds (Crypto.Faithful system.given)

theorem Faithful.update {given : BitVec 32 → Bytes} {value : Bytes} {setup : Setup}
    {operation : HashOperation} (other : setup.opHandle ≠ opHandle)
    (faithful : Faithful given setup operation) :
    Faithful (Function.update given opHandle value) setup operation := by
  intro alg absorbed active
  rw [update_of_ne other]
  exact faithful alg absorbed active

theorem HashSystem.Faithful.setup (small : size < 2 ^ 32) (faithful : system.Faithful) :
    (psaHashSetup backend client system opHandle alg).2.2.Faithful := by
  unfold psaHashSetup
  split
  · exact faithful
  · generalize isSent : sendRequest client.memory system.service (wordRequest alg) 0
      (hashSetupHandler backend client.clientId system.service) = sent
    obtain ⟨refused, holds⟩ | ⟨accepted, begins, begun⟩ :=
      sendRequest_begin small faithful deserializeWord_eq isSent
    · rw [if_neg refused]
      exact holds
    · rw [if_pos accepted]
      refine begun.holds _ (fun setup operation other => Faithful.update other) ?_
      intro alg absorbed active
      have operation : (backend.begin _).2 = .active _ [] := if_pos begins
      rw [operation] at active
      dsimp only
      rw [update_self, (HashOperation.active.inj active).2]

theorem HashSystem.Faithful.absorb (short : input.length < 2 ^ 16) (faithful : system.Faithful) :
    (psaHashUpdate backend client system opHandle input).2.Faithful := by
  have whole : input.take (input.length % 2 ^ 16) = input := by
    rw [Nat.mod_eq_of_lt short, List.take_length]
  unfold psaHashUpdate
  dsimp only
  generalize isSent : sendRequest client.memory system.service (parameterRequest opHandle input) 0
    (hashUpdateHandler backend client.clientId system.service) = sent
  obtain rfl | ⟨response, _, rfl⟩ | ⟨room, context, _, found, rfl⟩ :=
    sendRequest_run deserializeParameter_eq rfl isSent
  · exact faithful
  · exact faithful
  · rw [whole]
    by_cases absorbs : (backend.absorb input (system.service.operations context)).1 = psaSuccess
    · obtain ⟨alg, absorbed, before, after⟩ := HashBackend.absorb_success absorbs
      have success : callStatus (some (rpcCallerSessionInvoke
        ⟨rpcSuccess, (backend.absorb input (system.service.operations context)).1,
          responseOver room (parameterRequest opHandle input)⟩)) = psaSuccess := absorbs
      rw [if_pos success]
      refine OperationService.Holds.run_found faithful found
        (fun setup operation other => Faithful.update other) ?_
      intro _ setup own good alg' absorbed' active
      have all := (HashOperation.active.inj (after.symm.trans active)).2
      rw [own]
      show absorbed' = Function.update system.given opHandle (system.given opHandle ++ input) opHandle
      rw [update_self, ← all, good alg absorbed before, own]
    · have failure : callStatus (some (rpcCallerSessionInvoke
        ⟨rpcSuccess, (backend.absorb input (system.service.operations context)).1,
          responseOver room (parameterRequest opHandle input)⟩)) ≠ psaSuccess := absorbs
      rw [if_neg failure]
      refine OperationService.Holds.run_found faithful found (fun _ _ _ good => good) ?_
      intro _ setup own good alg absorbed active
      exact absurd active (HashBackend.absorb_failure absorbs)

section

variable (faithful : system.Faithful)

include faithful

theorem HashSystem.Faithful.finish :
    (psaHashFinish backend client system opHandle hashSize).2.2.Faithful := by
  refine OperationService.Holds.sent faithful deserializeWord_eq ?_
  intro setup operation response _ alg absorbed active
  exact absurd active HashBackend.digest_inactive

theorem HashSystem.Faithful.verify :
    (psaHashVerify backend client system opHandle hash).2.Faithful := by
  refine OperationService.Holds.sent faithful deserializeParameter_eq ?_
  intro setup operation response _ alg absorbed active
  exact absurd active HashBackend.check_inactive

theorem HashSystem.Faithful.abort : (psaHashAbort client system opHandle).2.Faithful := by
  refine OperationService.Holds.sent faithful deserializeWord_eq ?_
  intro setup operation response _ alg absorbed active
  cases active

end

/-- The length of the first update of some input. -/
def HashClient.firstUpdate (client : HashClient) (input : Bytes) : Nat :=
  min (client.updateSize input.length) input.length

section

variable (small : size < 2 ^ 32) (short : client.firstUpdate input < 2 ^ 16)
  (faithful : system.Faithful)

include small short faithful

theorem HashSystem.Faithful.multiUpdate :
    (multiHashUpdate backend client system alg input).2.2.Faithful := by
  unfold multiHashUpdate
  dsimp only
  split
  · exact faithful.setup small
  · have looped : (forChunks (fun state chunk => psaHashUpdate backend client state
        (psaHashSetup backend client system 0 alg).2.1 chunk) (client.updateSize input.length)
        input.length input (psaHashSetup backend client system 0 alg).2.2).2.Faithful :=
      forChunks_keeps input.length input
        (@HashSystem.Faithful.setup _ backend client _ 0 alg small faithful)
        (fun state piece bound fits kept => kept.absorb
          (Nat.lt_of_le_of_lt (Nat.le_min.mpr ⟨bound, fits⟩) short))
    split
    · exact looped.abort
    · exact looped

theorem HashSystem.Faithful.compare :
    (psaHashCompare backend client system alg input hash).2.Faithful := by
  have updated := @HashSystem.Faithful.multiUpdate _ backend _ _ alg _ small short faithful
  unfold psaHashCompare
  dsimp only
  split
  · exact updated
  · have verified := @HashSystem.Faithful.verify _ backend client _
      (multiHashUpdate backend client system alg input).2.1 hash updated
    split
    · exact verified.abort
    · exact verified

theorem HashSystem.Faithful.compute :
    (psaHashCompute backend client system alg input hashSize).2.2.Faithful := by
  have updated := @HashSystem.Faithful.multiUpdate _ backend _ _ alg _ small short faithful
  unfold psaHashCompute
  dsimp only
  split
  · exact updated
  · have finished := @HashSystem.Faithful.finish _ backend client _
      (multiHashUpdate backend client system alg input).2.1 hashSize updated
    split
    · exact finished.abort
    · exact finished

end

variable {absorbed : Bytes}

theorem HashSystem.Absorbed.update (before : system.Absorbed client.clientId opHandle alg absorbed)
    (success : (psaHashUpdate backend client system opHandle input).1 = psaSuccess) :
    (psaHashUpdate backend client system opHandle input).2.Absorbed client.clientId opHandle alg
      (absorbed ++ input.take (input.length % 2 ^ 16)) := by
  obtain ⟨otherAlg, other, known, after⟩ := psaHashUpdate_absorbed success
  obtain ⟨rfl, rfl⟩ := before.unique known
  exact after

/-- All chunks of the input are absorbed if the first one can be carried, and otherwise less than
the input is. -/
theorem forChunks_absorbed (start : system.Absorbed client.clientId opHandle alg [])
    (success : (forChunks (fun system chunk => psaHashUpdate backend client system opHandle chunk)
      (client.updateSize input.length) input.length input system).1 = psaSuccess) :
    ∃ absorbed, (forChunks (fun system chunk => psaHashUpdate backend client system opHandle chunk)
        (client.updateSize input.length) input.length input system).2.Absorbed client.clientId
          opHandle alg absorbed ∧
      (absorbed = input ↔ client.firstUpdate input < 2 ^ 16) := by
  by_cases short : client.firstUpdate input < 2 ^ 16
  · refine ⟨input, ?_, iff_of_true rfl short⟩
    refine @forChunks_success _ _ _
      (fun front state => state.Absorbed client.clientId opHandle alg front) input.length input
      (fun more => updateSize_pos (List.length_pos_iff.mpr more)) [] _ (Nat.le_refl _) start ?_ success
    intro front state piece bound fits before updated
    have whole : piece.length < 2 ^ 16 := Nat.lt_of_le_of_lt (Nat.le_min.mpr ⟨bound, fits⟩) short
    have after := before.update updated
    rwa [Nat.mod_eq_of_lt whole, List.take_length] at after
  · have long : 2 ^ 16 ≤ client.firstUpdate input := Nat.le_of_not_lt short
    unfold HashClient.firstUpdate at long
    have positive : 0 < client.updateSize input.length := by omega
    obtain ⟨rounds, length⟩ : ∃ rounds, input.length = rounds + 1 := ⟨input.length - 1, by omega⟩
    have more : input ≠ [] := List.ne_nil_of_length_pos (by omega)
    -- the first update loses input, and no later one makes up for it
    generalize client.updateSize input.length = chunk at success positive long ⊢
    rw [length] at success ⊢
    unfold forChunks at success ⊢
    rw [if_neg more] at success ⊢
    dsimp only at success ⊢
    split_ifs at success ⊢ with updated
    · exact absurd success updated
    · have first := start.update (not_not.mp updated)
      have loses : ([] ++ (input.take chunk).take ((input.take chunk).length % 2 ^ 16)).length <
          (input.take chunk).length := by
        simp only [List.nil_append, List.length_take]
        omega
      obtain ⟨absorbed, after, fewer⟩ := @forChunks_success _ _ _
        (fun front state => ∃ absorbed, state.Absorbed client.clientId opHandle alg absorbed ∧
          absorbed.length < front.length) rounds (input.drop chunk) (fun _ => positive)
        (input.take chunk) _
        (by rw [List.length_drop]; omega) ⟨_, first, loses⟩
        (by
          rintro front state piece - - ⟨absorbed, before, fewer⟩ updated
          refine ⟨_, before.update updated, ?_⟩
          simp only [List.length_append, List.length_take]
          omega) success
      rw [List.take_append_drop] at fewer
      refine ⟨absorbed, after, iff_of_false (fun same => ?_) short⟩
      rw [same] at fewer
      exact Nat.lt_irrefl _ fewer

theorem multiHashUpdate_absorbed (small : size < 2 ^ 32) (faithful : system.Faithful)
    (success : (multiHashUpdate backend client system alg input).1 = psaSuccess) :
    ∃ absorbed, (multiHashUpdate backend client system alg input).2.2.Absorbed client.clientId
        (multiHashUpdate backend client system alg input).2.1 alg absorbed ∧
      (absorbed = input ↔ client.firstUpdate input < 2 ^ 16) := by
  unfold multiHashUpdate at success ⊢
  dsimp only at success ⊢
  split_ifs at success ⊢ with begun looped
  · exact absurd success begun
  · exact absurd success looped
  · have start := @psaHashSetup_absorbed _ backend client _ 0 _ alg small faithful
      (not_not.mp begun)
    exact forChunks_absorbed start (not_not.mp looped)

/-- The input that a call names can be carried by its updates. -/
def HashCall.Fits (client : HashClient) : HashCall → Prop
  | .update _ input => input.length < 2 ^ 16
  | .compare _ input _ => client.firstUpdate input < 2 ^ 16
  | .compute _ input _ => client.firstUpdate input < 2 ^ 16
  | _ => True

/-- After a call, the operation that it updated or ended has absorbed all that the client gave to
it. -/
def HashCall.Covered (client : HashClient) (before after : HashSystem size) : HashCall → Prop
  | .setup _ _ => True
  | .update opHandle _ =>
    ∃ alg, after.Absorbed client.clientId opHandle alg (after.given opHandle)
  | .finish opHandle _ => ∃ alg, after.service.ended = some (.active alg (before.given opHandle))
  | .abort _ => True
  | .verify opHandle _ => ∃ alg, after.service.ended = some (.active alg (before.given opHandle))
  | .compare alg input _ => after.service.ended = some (.active alg input)
  | .compute alg input _ => after.service.ended = some (.active alg input)

theorem HashSystem.Faithful.run (small : size < 2 ^ 32) (faithful : system.Faithful)
    {call : HashCall} (fits : call.Fits client) : (system.run backend client call).2.Faithful := by
  cases call with dsimp only [HashSystem.run]
  | setup opHandle alg => exact faithful.setup small
  | update opHandle input => exact faithful.absorb fits
  | finish opHandle hashSize => exact faithful.finish
  | abort opHandle => exact faithful.abort
  | verify opHandle hash => exact faithful.verify
  | compare alg input hash => exact faithful.compare small fits
  | compute alg input hashSize => exact faithful.compute small fits

/-- An operation has absorbed what was given to its handle. -/
theorem HashSystem.Faithful.given (faithful : system.Faithful)
    (known : system.Absorbed client.clientId opHandle alg absorbed) :
    absorbed = system.given opHandle := by
  obtain ⟨context, found, operation⟩ := known
  obtain ⟨free, active, pooled, all⟩ := faithful
  obtain ⟨member, number, live⟩ := pooled.find found
  exact all context member _ live alg absorbed operation

theorem psaHashUpdate_status {room : Nat}
    (begun : client.memory.begin (parameterRequest opHandle input).length 0 = some room)
    (known : system.Absorbed client.clientId opHandle alg absorbed) :
    (psaHashUpdate backend client system opHandle input).1 =
      backend.update alg absorbed (input.take (input.length % 2 ^ 16)) := by
  obtain ⟨context, found, operation⟩ := known
  unfold psaHashUpdate
  generalize isSent : sendRequest client.memory system.service (parameterRequest opHandle input) 0
    (hashUpdateHandler backend client.clientId system.service) = sent
  obtain none | ⟨response, missing, _⟩ | ⟨_, other, _, again, rfl⟩ :=
    sendRequest_run deserializeParameter_eq rfl isSent
  · unfold sendRequest at isSent
    rw [begun] at isSent
    rw [none] at isSent
    cases isSent
  · rw [found] at missing
    cases missing
  · rw [found] at again
    obtain rfl := Option.some.inj again
    rw [operation]
    rfl

theorem psaHashUpdate_given
    (success : (psaHashUpdate backend client system opHandle input).1 = psaSuccess) :
    (psaHashUpdate backend client system opHandle input).2.given opHandle =
      system.given opHandle ++ input := by
  unfold psaHashUpdate at success ⊢
  dsimp only at success ⊢
  rw [if_pos success, update_self]

theorem psaHashUpdate_covered_iff (faithful : system.Faithful)
    (success : (psaHashUpdate backend client system opHandle input).1 = psaSuccess) :
    (∃ alg, (psaHashUpdate backend client system opHandle input).2.Absorbed client.clientId opHandle
      alg ((psaHashUpdate backend client system opHandle input).2.given opHandle)) ↔
        input.length < 2 ^ 16 := by
  obtain ⟨alg, absorbed, before, after⟩ := psaHashUpdate_absorbed success
  rw [psaHashUpdate_given success, ← faithful.given before]
  constructor
  · rintro ⟨_, whole⟩
    have same := congrArg List.length (after.unique whole).2
    rw [List.length_append, List.length_append, List.length_take] at same
    omega
  · intro short
    rw [Nat.mod_eq_of_lt short, List.take_length] at after
    exact ⟨alg, after⟩

section

variable (small : size < 2 ^ 32) (faithful : system.Faithful)

include small faithful

theorem psaHashCompare_ended_iff
    (success : (psaHashCompare backend client system alg input hash).1 = psaSuccess) :
    (psaHashCompare backend client system alg input hash).2.service.ended =
      some (.active alg input) ↔ client.firstUpdate input < 2 ^ 16 := by
  unfold psaHashCompare at success ⊢
  dsimp only at success ⊢
  split_ifs at success ⊢ with updated verified
  · exact absurd success updated
  · exact absurd success verified
  · obtain ⟨absorbed, known, iff⟩ := multiHashUpdate_absorbed small faithful (not_not.mp updated)
    obtain ⟨_, _, found, ended⟩ := psaHashVerify_ended (not_not.mp verified)
    obtain ⟨rfl, rfl⟩ := known.unique found
    rw [ended, Option.some.injEq, HashOperation.active.injEq, ← iff]
    exact and_iff_right rfl

theorem psaHashCompute_ended_iff
    (success : (psaHashCompute backend client system alg input hashSize).1 = psaSuccess) :
    (psaHashCompute backend client system alg input hashSize).2.2.service.ended =
      some (.active alg input) ↔ client.firstUpdate input < 2 ^ 16 := by
  unfold psaHashCompute at success ⊢
  dsimp only at success ⊢
  split_ifs at success ⊢ with updated finished
  · exact absurd success updated
  · exact absurd success finished
  · obtain ⟨absorbed, known, iff⟩ := multiHashUpdate_absorbed small faithful (not_not.mp updated)
    obtain ⟨_, _, found, ended⟩ := psaHashFinish_ended (not_not.mp finished)
    obtain ⟨rfl, rfl⟩ := known.unique found
    rw [ended, Option.some.injEq, HashOperation.active.injEq, ← iff]
    exact and_iff_right rfl

theorem HashSystem.Faithful.covered_iff
    {call : HashCall} (success : (system.run backend client call).1 = psaSuccess) :
    call.Covered client system (system.run backend client call).2 ↔ call.Fits client := by
  cases call with dsimp only [HashSystem.run, HashCall.Covered, HashCall.Fits] at success ⊢
  | setup opHandle alg => exact Iff.rfl
  | update opHandle input => exact psaHashUpdate_covered_iff faithful success
  | finish opHandle hashSize =>
    obtain ⟨alg, absorbed, known, ended⟩ := psaHashFinish_ended success
    exact iff_of_true ⟨alg, faithful.given known ▸ ended⟩ trivial
  | abort opHandle => exact Iff.rfl
  | verify opHandle hash =>
    obtain ⟨alg, absorbed, known, ended⟩ := psaHashVerify_ended success
    exact iff_of_true ⟨alg, faithful.given known ▸ ended⟩ trivial
  | compare alg input hash => exact psaHashCompare_ended_iff small faithful success
  | compute alg input hashSize => exact psaHashCompute_ended_iff small faithful success

end

/-- After calls whose input could be carried, a call that succeeds has covered its input exactly if
that can be carried. -/
theorem remoteHash_covers_iff (backend : HashBackend) (small : size < 2 ^ 32)
    {contexts : Fin size → CryptoContext} {operations : Fin size → HashOperation}
    {given : BitVec 32 → Bytes} {system : HashSystem size}
    (reached : Reached (HashSystem.step backend) (HashSystem.init contexts operations given)
      (fun _ event => event.2.Fits event.1) system) (client : HashClient) (call : HashCall)
    (success : (system.run backend client call).1 = psaSuccess) :
    call.Covered client system (system.run backend client call).2 ↔ call.Fits client := by
  have faithful : system.Faithful := by
    refine reached.invariant HashSystem.Faithful ?_ ?_
    · exact ⟨_, _, Provider.init_pooled contexts, List.forall_mem_nil _⟩
    · intro system event _ faithful fits
      exact faithful.run small fits
  exact faithful.covered_iff small success

/-- A backend that accepts everything, and a client of it with one operation. -/
def acceptingBackend : HashBackend where
  setup _ := psaSuccess
  update _ _ _ := psaSuccess
  finish _ _ := (psaSuccess, [])
  verify _ _ _ := psaSuccess

def soleClient : HashClient := ⟨.forEachCall (2 ^ 32), 0, 0⟩

def oneOperation : HashSystem 1 :=
  (HashSystem.init (fun _ => ⟨.none, 0, 0⟩) (fun _ => .inactive) fun _ => []).step acceptingBackend
    (soleClient, .setup 0 0)

theorem oneOperation_reached :
    Reached (HashSystem.step acceptingBackend)
      (HashSystem.init (fun _ => ⟨.none, 0, 0⟩) (fun _ => .inactive) fun _ => [])
      (fun _ event => event.2.Fits event.1) oneOperation := by
  have fits : (HashCall.setup 0 0).Fits soleClient := trivial
  exact .step .start fits

theorem oneOperation_faithful : oneOperation.Faithful := by
  refine HashSystem.Faithful.run (by decide) ?_ trivial
  exact ⟨_, _, Provider.init_pooled _, List.forall_mem_nil _⟩

theorem oneOperation_absorbed : oneOperation.Absorbed 0 1 0 [] := ⟨0, by decide, by decide⟩

theorem remoteHash_covers_update :
    (oneOperation.run acceptingBackend soleClient (.update 1 [7, 8, 9])).1 = psaSuccess ∧
      (HashCall.update 1 [7, 8, 9]).Covered soleClient oneOperation
        (oneOperation.run acceptingBackend soleClient (.update 1 [7, 8, 9])).2 :=
  ⟨by decide, (remoteHash_covers_iff acceptingBackend (by decide) oneOperation_reached soleClient
    (.update 1 [7, 8, 9]) (by decide)).mpr (by dsimp only [HashCall.Fits]; decide)⟩

/-- An update with 64 KiB succeeds, and the operation has absorbed nothing of it. -/
theorem longUpdate_uncovered :
    (oneOperation.run acceptingBackend soleClient (.update 1 (List.replicate (2 ^ 16) 0))).1 =
        psaSuccess ∧
      ¬(HashCall.update 1 (List.replicate (2 ^ 16) 0)).Covered soleClient oneOperation
        (oneOperation.run acceptingBackend soleClient (.update 1 (List.replicate (2 ^ 16) 0))).2 := by
  have success : (oneOperation.run acceptingBackend soleClient
      (.update 1 (List.replicate (2 ^ 16) 0))).1 = psaSuccess := by
    refine psaHashUpdate_status (?_ : _ = some 8) oneOperation_absorbed
    rw [length_parameterRequest, List.length_replicate]
    rfl
  refine ⟨success, fun covered => ?_⟩
  have short := (oneOperation_faithful.covered_iff (by decide) success).mp covered
  dsimp only [HashCall.Fits] at short
  rw [List.length_replicate] at short
  exact Nat.lt_irrefl _ short

end Crypto
