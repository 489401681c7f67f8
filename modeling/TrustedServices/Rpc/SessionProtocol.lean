import TrustedServices.Rpc.CallerSession

/- The protocol of a session over whole runs. -/
namespace Rpc

open Lib

inductive SessionCall
  | openSession (sharedMemorySize : Nat)
  | findAndOpen (sharedMemorySize : Nat)
  | close
  | begin (requestLength responseMaxLength : Nat)
  | invoke (handle : Bool) (opcode : Nat)
  | endCall (handle : Bool)
  deriving DecidableEq, Repr

/-- An account of the memory: what is held, and releases of what was not. -/
structure MemoryLedger where
  held : List SharedMemory
  strays : List SharedMemory
  deriving DecidableEq, Repr

def MemoryLedger.note (ledger : MemoryLedger) : MemoryEvent → MemoryLedger
  | .obtained sharedMemory => { ledger with held := sharedMemory :: ledger.held }
  | .released sharedMemory =>
    if sharedMemory ∈ ledger.held then { ledger with held := ledger.held.erase sharedMemory }
    else { ledger with strays := sharedMemory :: ledger.strays }

/-- A session, the account of its memory, and the number of transactions in progress. -/
structure SessionRun extends session : CallerSession where
  ledger : MemoryLedger
  transactions : Nat
  deriving DecidableEq, Repr

def SessionRun.initial : SessionRun := ⟨.zero, ⟨[], []⟩, 0⟩

structure SessionEvent where
  caller : CallerInterface
  call : SessionCall

def SessionRun.step (run : SessionRun) (event : SessionEvent) : SessionRun :=
  match event.call with
  | .openSession sharedMemorySize =>
    let opened := rpcCallerSessionOpen event.caller run.session sharedMemorySize
    { run with session := opened.2.1, ledger := opened.2.2.foldl MemoryLedger.note run.ledger }
  | .findAndOpen sharedMemorySize =>
    let opened := rpcCallerSessionFindAndOpen event.caller run.session sharedMemorySize
    { run with session := opened.2.1, ledger := opened.2.2.foldl MemoryLedger.note run.ledger }
  | .close =>
    let closed := rpcCallerSessionClose event.caller run.session
    { run with ledger := closed.2.foldl MemoryLedger.note run.ledger }
  | .begin requestLength responseMaxLength =>
    let begun := rpcCallerSessionBegin event.caller run.session requestLength responseMaxLength
    { session := begun.2.1
      ledger := begun.2.2.foldl MemoryLedger.note run.ledger
      transactions := run.transactions + begun.1.toNat }
  | .invoke _ _ => run
  | .endCall handle =>
    let ended := rpcCallerSessionEnd event.caller run.session handle
    { session := ended.2.1
      ledger := ended.2.2.foldl MemoryLedger.note run.ledger
      transactions := if ended.1 = .success then run.transactions - 1 else run.transactions }

/-- Memory without a buffer is empty. -/
def SharedMemory.Backed (sharedMemory : SharedMemory) : Prop :=
  sharedMemory.buffer = none → sharedMemory.size = 0

instance (sharedMemory : SharedMemory) : Decidable sharedMemory.Backed :=
  inferInstanceAs (Decidable (_ → _))

/-- The memory that a call obtains has a buffer. -/
def CreatesBacked (caller : CallerInterface) (size : Nat) : Prop :=
  (caller.createSharedMemory size).1 = .success → (caller.createSharedMemory size).2.Backed

instance (caller : CallerInterface) (size : Nat) : Decidable (CreatesBacked caller size) :=
  inferInstanceAs (Decidable (_ → _))

/-- What has to hold of a call: a session is opened only when it has no transaction and no memory
and used only until its memory is released, the caller shares memory that exists, and the endpoint
reports a response that fits. -/
def ActsProperly (run : SessionRun) (event : SessionEvent) : Prop :=
  match event.call with
  | .openSession sharedMemorySize | .findAndOpen sharedMemorySize =>
    run.isCallTransactionInProgress = false ∧ run.ledger.held = [] ∧
      CreatesBacked event.caller sharedMemorySize
  | .close =>
    run.sharedMemoryPolicy = .allocForSession →
      run.sharedMemory ∈ run.ledger.held
  | .begin requestLength responseMaxLength =>
    (run.sharedMemoryPolicy = .allocForSession →
        run.sharedMemory ∈ run.ledger.held) ∧
      CreatesBacked event.caller (max requestLength responseMaxLength)
  | .invoke _ opcode =>
    let reply := rpcCallerCall (run.session.callerOf event.caller) opcode
      run.sharedMemory run.requestLength
    reply.status = .success → reply.responseLength ≤ run.sharedMemory.size
  | .endCall _ => True

instance (run : SessionRun) (event : SessionEvent) : Decidable (ActsProperly run event) := by
  unfold ActsProperly
  split <;> infer_instance

/-- No memory was released that was not held, and at most one transaction is in progress. -/
structure SessionRun.InOrder (run : SessionRun) : Prop where
  strays : run.ledger.strays = []
  transactions : run.transactions ≤ 1

/-- What a call that succeeds guarantees: after a close no memory is held, and a response lies in
memory that is held, with the length that the endpoint reported. -/
def SessionRun.Guarantees (run : SessionRun) (event : SessionEvent) : Prop :=
  match event.call with
  | .close =>
    (rpcCallerSessionClose event.caller run.session).1 = .success →
      (run.step event).ledger.held = []
  | .invoke handle opcode =>
    let reply := rpcCallerCall (run.session.callerOf event.caller) opcode
      run.sharedMemory run.requestLength
    let invoked := rpcCallerSessionInvoke event.caller run.session handle opcode
    invoked.1 = .success →
      invoked.2 = some ⟨run.sharedMemory.buffer, reply.responseLength,
        reply.serviceStatus⟩ ∧
      run.sharedMemory ∈ run.ledger.held ∧
      (run.sharedMemory.buffer ≠ none ∨ run.sharedMemory.size = 0) ∧
      reply.responseLength ≤ run.sharedMemory.size
  | _ => True

section

variable {run : SessionRun} {caller : CallerInterface}

/-- The session holds its own memory or none. It holds it during a transaction, and between
transactions only if it is allocated for the session. -/
structure SessionRun.Consistent (run : SessionRun) : Prop where
  strays : run.ledger.strays = []
  transactions : run.transactions = run.isCallTransactionInProgress.toNat
  backed : run.sharedMemory.Backed
  held : run.ledger.held = [] ∨ run.ledger.held = [run.sharedMemory]
  during : run.isCallTransactionInProgress = true →
    run.ledger.held = [run.sharedMemory]
  between : run.sharedMemoryPolicy = .allocForEachCall →
    run.isCallTransactionInProgress = false → run.ledger.held = []

theorem SessionRun.initial_consistent : SessionRun.initial.Consistent :=
  ⟨rfl, rfl, fun _ => rfl, .inl rfl, nofun, fun _ _ => rfl⟩

theorem MemoryLedger.note_released {ledger : MemoryLedger} {sharedMemory : SharedMemory}
    (held : ledger.held = [sharedMemory]) :
    ledger.note (.released sharedMemory) = { ledger with held := [] } := by
  simp [MemoryLedger.note, held]

theorem SessionRun.Consistent.holdsOwn (consistent : run.Consistent)
    (member : run.sharedMemory ∈ run.ledger.held) :
    run.ledger.held = [run.sharedMemory] := by
  rcases consistent.held with nothing | own
  · rw [nothing] at member
    cases member
  · exact own

theorem createSharedMemory_backed {session : CallerSession} {size : Nat}
    (creates : CreatesBacked caller size)
    (success : (rpcCallerCreateSharedMemory (session.callerOf caller) size).1 = .success) :
    (rpcCallerCreateSharedMemory (session.callerOf caller) size).2.Backed := by
  unfold CallerSession.callerOf at success ⊢
  by_cases connected : session.connected = true
  · rw [if_pos connected] at success ⊢
    exact creates success
  · rw [if_neg connected] at success
    cases success

section

variable (consistent : run.Consistent)

include consistent

theorem SessionRun.Consistent.openWith {opened : RpcStatus} {sharedMemorySize : Nat}
    (idle : run.isCallTransactionInProgress = false)
    (nothing : run.ledger.held = []) (creates : CreatesBacked caller sharedMemorySize) :
    SessionRun.Consistent
      { run with
        session := (Rpc.openWith caller run.session opened sharedMemorySize).2.1
        ledger := (Rpc.openWith caller run.session opened sharedMemorySize).2.2.foldl
          MemoryLedger.note run.ledger } := by
  have idleRun : run.transactions = 0 := by
    rw [consistent.transactions, idle]
    rfl
  unfold Rpc.openWith initalizeSharedMemory rpcCallerCreateSharedMemory
  split
  · exact consistent
  · by_cases empty : sharedMemorySize ≠ 0
    · rw [if_pos empty]
      by_cases failed : (caller.createSharedMemory sharedMemorySize).1 ≠ .success
      · rw [if_pos failed, if_pos failed]
        exact consistent
      · rw [if_neg failed, if_neg (not_not_intro rfl)]
        have owned : run.ledger.note (.obtained (caller.createSharedMemory sharedMemorySize).2) =
            { run.ledger with held := [(caller.createSharedMemory sharedMemorySize).2] } := by
          simp [MemoryLedger.note, nothing]
        refine ⟨?_, idleRun, creates (not_not.mp failed), .inr ?_, nofun, nofun⟩
        · exact consistent.strays
        · rw [List.foldl_cons, owned]
          rfl
    · rw [if_neg empty, if_neg (not_not_intro rfl)]
      exact ⟨consistent.strays, idleRun, fun _ => rfl, .inl nothing, nofun, fun _ _ => nothing⟩

theorem SessionRun.Consistent.begin {requestLength responseMaxLength : Nat}
    (proper : ActsProperly run ⟨caller, .begin requestLength responseMaxLength⟩) :
    (run.step ⟨caller, .begin requestLength responseMaxLength⟩).Consistent := by
  obtain ⟨owned, creates⟩ := proper
  dsimp only [SessionRun.step]
  unfold rpcCallerSessionBegin
  dsimp only
  split
  · exact consistent
  · split
    · exact consistent
    · rename_i idle
      have idle : run.isCallTransactionInProgress = false := by simpa using idle
      have first : run.transactions + 1 = 1 := by
        rw [consistent.transactions, idle]
        rfl
      split
      · rename_i eachCall
        have nothing := consistent.between eachCall idle
        split
        · exact consistent
        · by_cases failed : (rpcCallerCreateSharedMemory (run.session.callerOf caller)
              (max requestLength responseMaxLength)).1 ≠ .success
          · rw [if_pos failed]
            exact consistent
          · rw [if_neg failed]
            have backed := createSharedMemory_backed creates (not_not.mp failed)
            have held : (run.ledger.note (.obtained (rpcCallerCreateSharedMemory
                (run.session.callerOf caller) (max requestLength responseMaxLength)).2)).held =
                [(rpcCallerCreateSharedMemory (run.session.callerOf caller)
                  (max requestLength responseMaxLength)).2] := by
              simp [MemoryLedger.note, nothing]
            exact ⟨consistent.strays, first, backed, .inr held, fun _ => held, nofun⟩
      · rename_i forSession
        split_ifs
        · exact consistent
        · exact consistent
        · have held := consistent.holdsOwn (owned forSession)
          exact ⟨consistent.strays, first, consistent.backed, .inr held, fun _ => held, nofun⟩

theorem SessionRun.Consistent.endCall {handle : Bool} :
    (run.step ⟨caller, .endCall handle⟩).Consistent := by
  dsimp only [SessionRun.step]
  unfold rpcCallerSessionEnd
  split
  · exact consistent
  · split
    · exact consistent
    · rename_i busy
      have busy : run.isCallTransactionInProgress = true := by simpa using busy
      have held := consistent.during busy
      have last : run.transactions - 1 = 0 := by
        rw [consistent.transactions, busy]
        rfl
      split
      · exact consistent
      · split
        · by_cases failed : rpcCallerReleaseSharedMemory (run.session.callerOf caller)
              run.sharedMemory ≠ .success
          · rw [if_pos failed, if_neg failed]
            exact consistent
          · rw [if_neg failed, if_pos rfl]
            have released := MemoryLedger.note_released held
            refine ⟨?_, last, fun _ => rfl, .inl ?_, nofun, fun _ _ => ?_⟩
            · rw [List.foldl_cons, released]
              exact consistent.strays
            · rw [List.foldl_cons, released]
              rfl
            · rw [List.foldl_cons, released]
              rfl
        · rename_i forSession
          refine ⟨consistent.strays, last, consistent.backed, consistent.held, nofun, ?_⟩
          intro eachCall
          cases forSession.symm.trans eachCall

theorem SessionRun.Consistent.close
    (proper : ActsProperly run ⟨caller, .close⟩) : (run.step ⟨caller, .close⟩).Consistent := by
  dsimp only [SessionRun.step]
  unfold rpcCallerSessionClose
  split_ifs with idle
  · exact consistent
  · have idle : run.isCallTransactionInProgress = false := by simpa using idle
    split
    · rename_i forSession
      by_cases failed : rpcCallerReleaseSharedMemory (run.session.callerOf caller)
          run.sharedMemory ≠ .success
      · rw [if_pos failed]
        exact consistent
      · rw [if_neg failed]
        have held := consistent.holdsOwn (proper forSession)
        have released := MemoryLedger.note_released held
        refine ⟨?_, consistent.transactions, consistent.backed, .inl ?_, ?_, ?_⟩
        · rw [List.foldl_cons, released]
          exact consistent.strays
        · rw [List.foldl_cons, released]
          rfl
        · intro busy
          cases idle.symm.trans busy
        · intro eachCall
          cases forSession.symm.trans eachCall
    · exact consistent

end

variable {event : SessionEvent}

section

variable (consistent : run.Consistent)

include consistent

theorem SessionRun.Consistent.step
    (proper : ActsProperly run event) : (run.step event).Consistent := by
  obtain ⟨caller, call⟩ := event
  cases call with
  | openSession sharedMemorySize => exact consistent.openWith proper.1 proper.2.1 proper.2.2
  | findAndOpen sharedMemorySize => exact consistent.openWith proper.1 proper.2.1 proper.2.2
  | close => exact consistent.close proper
  | begin requestLength responseMaxLength => exact consistent.begin proper
  | invoke handle opcode => exact consistent
  | endCall handle => exact consistent.endCall

theorem SessionRun.Consistent.inOrder : run.InOrder := by
  refine ⟨consistent.strays, ?_⟩
  rw [consistent.transactions]
  exact Bool.toNat_le _

/-- After a close that succeeds nothing is held. -/
theorem SessionRun.Consistent.guarantees_close
    (proper : ActsProperly run ⟨caller, .close⟩) : run.Guarantees ⟨caller, .close⟩ := by
  intro success
  dsimp only [SessionRun.step] at success ⊢
  unfold rpcCallerSessionClose at success ⊢
  by_cases busy : run.isCallTransactionInProgress = true
  · rw [if_pos busy] at success
    cases success
  · have idle : run.isCallTransactionInProgress = false := by simpa using busy
    rw [if_neg busy] at success ⊢
    cases policy : run.sharedMemoryPolicy with
    | allocForEachCall => exact consistent.between policy idle
    | allocForSession =>
      rw [policy] at success
      dsimp only at success ⊢
      split_ifs at success ⊢ with released
      · exact absurd success released
      · rw [List.foldl_cons, MemoryLedger.note_released (consistent.holdsOwn (proper policy))]
        rfl

theorem SessionRun.Consistent.guarantees_invoke {handle : Bool} {opcode : Nat}
    (proper : ActsProperly run ⟨caller, .invoke handle opcode⟩) :
    run.Guarantees ⟨caller, .invoke handle opcode⟩ := by
  intro success
  have backed : run.sharedMemory.buffer ≠ none ∨ run.sharedMemory.size = 0 := by
    by_cases absent : run.sharedMemory.buffer = none
    · exact .inr (consistent.backed absent)
    · exact .inl absent
  unfold rpcCallerSessionInvoke at success ⊢
  split at success
  · cases success
  · split at success
    · cases success
    · rename_i handled busy
      rw [if_neg handled, if_neg busy]
      split_ifs at success ⊢ with equipped
      dsimp only at success ⊢
      have held := consistent.during (by simpa using busy)
      have answered : (rpcCallerCall (run.session.callerOf caller) opcode
          run.sharedMemory run.requestLength).status = .success := by
        split at success
        · exact success
        · exact success
      have fits := proper answered
      rw [if_neg]
      · refine ⟨rfl, ?_, backed, fits⟩
        rw [held]
        exact List.mem_singleton_self _
      · rintro (failed | long)
        · exact failed answered
        · exact absurd fits (Nat.not_le_of_gt long)

theorem SessionRun.Consistent.guarantees
    (proper : ActsProperly run event) : run.Guarantees event := by
  obtain ⟨caller, call⟩ := event
  cases call with
  | close => exact consistent.guarantees_close proper
  | invoke handle opcode => exact consistent.guarantees_invoke proper
  | openSession sharedMemorySize => trivial
  | findAndOpen sharedMemorySize => trivial
  | begin requestLength responseMaxLength => trivial
  | endCall handle => trivial

end

end

/-- In a run of proper calls, at most one transaction is in progress, memory is released once,
and all of it before a close succeeds. An invocation that succeeds gives the response that the
endpoint reported, in memory that the session holds. -/
theorem session_keepsProtocol {run : SessionRun}
    (reached : Reached SessionRun.step .initial ActsProperly run) :
    run.InOrder ∧ ∀ event, ActsProperly run event → run.Guarantees event := by
  have consistent : run.Consistent :=
    reached.invariant _ SessionRun.initial_consistent fun _ _ _ consistent proper =>
      consistent.step proper
  exact ⟨consistent.inOrder, fun _ proper => consistent.guarantees proper⟩

/-- A caller that shares memory at an address and whose endpoint reports a length. -/
def workingCaller (responseLength : Nat) : CallerInterface where
  openSession := .success
  findAndOpenSession := .success
  closeSession := .success
  createSharedMemory size := (.success, ⟨5, some 4096, size⟩)
  releaseSharedMemory _ := .success
  call _ _ _ := ⟨.success, responseLength, 0⟩

/-- A session with memory of 64 bytes, in a transaction. -/
def openTransaction : List SessionEvent :=
  [⟨workingCaller 0, .openSession 64⟩, ⟨workingCaller 0, .begin 8 64⟩]

theorem openTransaction_keepsProtocol :
    (openTransaction.foldl SessionRun.step .initial).InOrder ∧
      (openTransaction.foldl SessionRun.step .initial).Guarantees
        ⟨workingCaller 64, .invoke true 1⟩ := by
  have admitted : Admitted SessionRun.step ActsProperly .initial openTransaction := by decide
  have protocol := session_keepsProtocol (Reached.start.run admitted)
  exact ⟨protocol.1, protocol.2 _ (by decide)⟩

/-- An endpoint that reports one byte more than the memory has: the invocation succeeds without
a buffer and without a response. A close that fails after the release: the next one releases the
memory again. A session that is opened again in a transaction: two are in progress. -/
theorem improperCalls_breakProtocol :
    rpcCallerSessionInvoke (workingCaller 65)
        (openTransaction.foldl SessionRun.step .initial).session true 1 =
      (.success, some ⟨none, 0, 0⟩) ∧
    ([⟨workingCaller 0, .openSession 64⟩,
        ⟨{ workingCaller 0 with closeSession := .errorInternal }, .close⟩,
        ⟨workingCaller 0, .close⟩].foldl SessionRun.step .initial).ledger.strays =
      [⟨5, some 4096, 64⟩] ∧
    ((openTransaction ++ openTransaction).foldl SessionRun.step .initial).transactions = 2 := by
  decide

end Rpc
