import TrustedServices.Crypto.OperationCalls

/- Hashing by a client, which cuts long input to chunks that a call can carry. -/
namespace Crypto

open Lib Common

section

variable {State : Type}

/-- The largest update that a payload has room for, or zero if that is not known. -/
def maxUpdateSize (maxPayload overhead : Nat) : Nat :=
  if maxPayload > overhead then maxPayload - overhead else 0

/-- The size of the updates for some input: all of it, if the largest update is not known. -/
def updateSize (maxPayload overhead inputLength : Nat) : Nat :=
  if maxUpdateSize maxPayload overhead = 0 then inputLength
  else maxUpdateSize maxPayload overhead

/-- The loop over the chunks of an input, up to the first update that fails. -/
def forChunks (update : State → Bytes → PsaStatus × State) (chunk : Nat) :
    Nat → Bytes → State → PsaStatus × State
  | 0, _, state => (psaSuccess, state)
  | rounds + 1, rest, state =>
    if rest = [] then (psaSuccess, state)
    else
      let updated := update state (rest.take chunk)
      if updated.1 ≠ psaSuccess then updated
      else forChunks update chunk rounds (rest.drop chunk) updated.2

variable {update : State → Bytes → PsaStatus × State} {chunk : Nat}

/-- What every update keeps is kept by the loop, whether it ends with success or not. -/
theorem forChunks_keeps {holds : State → Prop} (rounds : Nat) (rest : Bytes) {state : State}
    (initially : holds state)
    (kept : ∀ state piece, piece.length ≤ chunk → piece.length ≤ rest.length → holds state →
      holds (update state piece).2) :
    holds (forChunks update chunk rounds rest state).2 := by
  induction rounds generalizing rest state with
  | zero => exact initially
  | succ rounds ih =>
    have first : holds (update state (rest.take chunk)).2 := by
      refine kept state _ ?_ ?_ initially
      · rw [List.length_take]
        exact Nat.min_le_left ..
      · rw [List.length_take]
        exact Nat.min_le_right ..
    unfold forChunks
    split
    · exact initially
    · dsimp only
      split
      · exact first
      · refine ih (rest.drop chunk) first fun state piece small short => kept state piece small ?_
        rw [List.length_drop] at short
        omega

/-- What is told of the pieces so far is told of all of the input when the loop succeeds. -/
theorem forChunks_success {told : Bytes → State → Prop} (rounds : Nat) (rest : Bytes)
    (positive : rest ≠ [] → 0 < chunk) {front : Bytes} {state : State} (enough : rest.length ≤ rounds)
    (initially : told front state)
    (kept : ∀ front state piece, piece.length ≤ chunk → piece.length ≤ rest.length →
      told front state → (update state piece).1 = psaSuccess →
      told (front ++ piece) (update state piece).2)
    (success : (forChunks update chunk rounds rest state).1 = psaSuccess) :
    told (front ++ rest) (forChunks update chunk rounds rest state).2 := by
  induction rounds generalizing rest front state with
  | zero =>
    have empty : rest = [] := List.length_eq_zero_iff.mp (Nat.le_zero.mp enough)
    rw [empty, List.append_nil]
    exact initially
  | succ rounds ih =>
    unfold forChunks at success ⊢
    split_ifs at success ⊢ with more
    · rw [more, List.append_nil]
      exact initially
    · have advances := positive more
      dsimp only at success ⊢
      split_ifs at success ⊢ with updated
      · exact absurd success updated
      · have first : told (front ++ rest.take chunk) (update state (rest.take chunk)).2 := by
          refine kept front state _ ?_ ?_ initially (not_not.mp updated)
          · rw [List.length_take]
            exact Nat.min_le_left ..
          · rw [List.length_take]
            exact Nat.min_le_right ..
        have all := ih (rest.drop chunk) (fun _ => advances) (by rw [List.length_drop]; omega) first
          (fun front state piece small short => kept front state piece small (by
            rw [List.length_drop] at short
            omega)) success
        rwa [List.append_assoc, List.take_append_drop] at all

theorem updateSize_pos {maxPayload overhead inputLength : Nat} (some : 0 < inputLength) :
    0 < updateSize maxPayload overhead inputLength := by
  unfold updateSize
  split
  · exact some
  · omega

end

/-- An operation of the backend, with the input that it has absorbed. -/
inductive HashOperation
  | inactive
  | active (alg : BitVec 32) (absorbed : Bytes)
  | failed
  deriving DecidableEq, Repr

/-- The statuses and digests of the backend, for what an operation has absorbed. -/
structure HashBackend where
  setup : BitVec 32 → PsaStatus
  update : BitVec 32 → Bytes → Bytes → PsaStatus
  finish : BitVec 32 → Bytes → PsaStatus × Bytes
  verify : BitVec 32 → Bytes → Bytes → PsaStatus

section

variable (backend : HashBackend)

/-- The setup of an operation that has just been initialized. -/
def HashBackend.begin (alg : BitVec 32) : PsaStatus × HashOperation :=
  (backend.setup alg, if backend.setup alg = psaSuccess then .active alg [] else .failed)

def HashBackend.absorb (data : Bytes) : HashOperation → PsaStatus × HashOperation
  | .active alg absorbed =>
    (backend.update alg absorbed data,
      if backend.update alg absorbed data = psaSuccess then .active alg (absorbed ++ data)
      else .failed)
  | operation => (psaErrorBadState, operation)

def HashBackend.digest : HashOperation → PsaStatus × Bytes × HashOperation
  | .active alg absorbed =>
    ((backend.finish alg absorbed).1, (backend.finish alg absorbed).2,
      if (backend.finish alg absorbed).1 = psaSuccess then .inactive else .failed)
  | operation => (psaErrorBadState, [], operation)

def HashBackend.check (hash : Bytes) : HashOperation → PsaStatus × HashOperation
  | .active alg absorbed =>
    (backend.verify alg absorbed hash,
      if backend.verify alg absorbed hash = psaSuccess then .inactive else .failed)
  | operation => (psaErrorBadState, operation)

end

abbrev HashService (size : Nat) := OperationService size HashOperation

section

variable {size : Nat} (backend : HashBackend) (clientId : ClientId) (service : HashService size)
  (request : Bytes) (response : ResponseBuffer)

def serializeHashFinishResp (hash : Bytes) : RpcStatus × ResponseBuffer :=
  serializeOutput response hash 1 hash.length

def hashSetupHandler : Answer × HashService size :=
  onDecoded (deserializeWord request) service response fun alg =>
    beginOperation .hash clientId service response (backend.begin alg)

def hashUpdateHandler : Answer × HashService size :=
  onDecoded (deserializeParameter request) service response fun decoded =>
    runOperation .hash clientId service response .use decoded.1 fun operation response =>
      let absorbed := backend.absorb decoded.2 operation
      (⟨rpcSuccess, absorbed.1, response⟩, absorbed.2)

def hashFinishHandler : Answer × HashService size :=
  onDecoded (deserializeWord request) service response fun opHandle =>
    runOperation .hash clientId service response .finish opHandle fun operation response =>
      let digest := backend.digest operation
      let serialized :=
        if digest.1 = psaSuccess then serializeHashFinishResp response digest.2.1
        else (rpcSuccess, response)
      (⟨serialized.1, digest.1, serialized.2⟩, digest.2.2)

def hashAbortHandler : Answer × HashService size :=
  onDecoded (deserializeWord request) service response fun opHandle =>
    runOperation .hash clientId service response .abort opHandle fun _ response =>
      (⟨rpcSuccess, psaSuccess, response⟩, .inactive)

def hashVerifyHandler : Answer × HashService size :=
  onDecoded (deserializeParameter request) service response fun decoded =>
    runOperation .hash clientId service response .finish decoded.1 fun operation response =>
      let checked := backend.check decoded.2 operation
      (⟨rpcSuccess, checked.1, response⟩, checked.2)

end

structure HashClient where
  memory : SessionMemory
  clientId : ClientId
  maxPayload : Nat

/-- The provider, with the input that clients have given to the operation of each handle: what the
updates that succeeded were called with, since the setup that returned the handle. -/
structure HashSystem (size : Nat) where
  service : HashService size
  given : BitVec 32 → Bytes

section

variable {size : Nat} (backend : HashBackend) (client : HashClient) (system : HashSystem size)

/-- The status, and the handle of the operation after the call. -/
def psaHashSetup (opHandle alg : BitVec 32) : PsaStatus × BitVec 32 × HashSystem size :=
  if opHandle ≠ 0 then (psaErrorBadState, opHandle, system)
  else
    let sent := sendRequest client.memory system.service (wordRequest alg) 0
      (hashSetupHandler backend client.clientId system.service)
    let decoded := decodeOpHandle sent.1
    if decoded.1 = psaSuccess then
      (psaSuccess, decoded.2, ⟨sent.2, Function.update system.given decoded.2 []⟩)
    else (decoded.1, opHandle, { system with service := sent.2 })

section

variable (opHandle : BitVec 32)

def psaHashUpdate (input : Bytes) : PsaStatus × HashSystem size :=
  let sent := sendRequest client.memory system.service (parameterRequest opHandle input) 0
    (hashUpdateHandler backend client.clientId system.service)
  (callStatus sent.1,
    ⟨sent.2,
      if callStatus sent.1 = psaSuccess then
        Function.update system.given opHandle (system.given opHandle ++ input)
      else system.given⟩)

/-- The status, the hash and the system. -/
def psaHashFinish (hashSize : Nat) : PsaStatus × Bytes × HashSystem size :=
  let sent := sendRequest client.memory system.service (wordRequest opHandle)
    (tlvRequiredSpace hashSize) (hashFinishHandler backend client.clientId system.service)
  let decoded := decodeOutputOf 1 hashSize sent.1
  (decoded.1, decoded.2, { system with service := sent.2 })

def psaHashAbort : PsaStatus × HashSystem size :=
  let sent := sendRequest client.memory system.service (wordRequest opHandle) 0
    (hashAbortHandler client.clientId system.service)
  (callStatus sent.1, { system with service := sent.2 })

def psaHashVerify (hash : Bytes) : PsaStatus × HashSystem size :=
  let sent := sendRequest client.memory system.service (parameterRequest opHandle hash) 0
    (hashVerifyHandler backend client.clientId system.service)
  (callStatus sent.1, { system with service := sent.2 })

end

/-- The updates carry a handle and the header of a record. -/
def HashClient.updateSize (inputLength : Nat) : Nat :=
  Crypto.updateSize client.maxPayload (4 + tlvHdrLen) inputLength

/-- The status, and the handle of the operation that has been set up. -/
def multiHashUpdate (alg : BitVec 32) (input : Bytes) : PsaStatus × BitVec 32 × HashSystem size :=
  let begun := psaHashSetup backend client system 0 alg
  if begun.1 ≠ psaSuccess then begun
  else
    let looped := forChunks (fun system chunk => psaHashUpdate backend client system begun.2.1 chunk)
      (client.updateSize input.length) input.length input begun.2.2
    if looped.1 ≠ psaSuccess then (looped.1, begun.2.1, (psaHashAbort client looped.2 begun.2.1).2)
    else (looped.1, begun.2.1, looped.2)

def psaHashCompare (alg : BitVec 32) (input hash : Bytes) : PsaStatus × HashSystem size :=
  let updated := multiHashUpdate backend client system alg input
  if updated.1 ≠ psaSuccess then (updated.1, updated.2.2)
  else
    let verified := psaHashVerify backend client updated.2.2 updated.2.1 hash
    if verified.1 ≠ psaSuccess then (verified.1, (psaHashAbort client verified.2 updated.2.1).2)
    else verified

def psaHashCompute (alg : BitVec 32) (input : Bytes) (hashSize : Nat) :
    PsaStatus × Bytes × HashSystem size :=
  let updated := multiHashUpdate backend client system alg input
  if updated.1 ≠ psaSuccess then (updated.1, [], updated.2.2)
  else
    let finished := psaHashFinish backend client updated.2.2 updated.2.1 hashSize
    if finished.1 ≠ psaSuccess then
      (finished.1, finished.2.1, (psaHashAbort client finished.2.2 updated.2.1).2)
    else finished

end

inductive HashCall
  | setup (opHandle alg : BitVec 32)
  | update (opHandle : BitVec 32) (input : Bytes)
  | finish (opHandle : BitVec 32) (hashSize : Nat)
  | abort (opHandle : BitVec 32)
  | verify (opHandle : BitVec 32) (hash : Bytes)
  | compare (alg : BitVec 32) (input hash : Bytes)
  | compute (alg : BitVec 32) (input : Bytes) (hashSize : Nat)
  deriving DecidableEq, Repr

def HashSystem.run {size : Nat} (backend : HashBackend) (client : HashClient)
    (system : HashSystem size) : HashCall → PsaStatus × HashSystem size
  | .setup opHandle alg =>
    let begun := psaHashSetup backend client system opHandle alg
    (begun.1, begun.2.2)
  | .update opHandle input => psaHashUpdate backend client system opHandle input
  | .finish opHandle hashSize =>
    let finished := psaHashFinish backend client system opHandle hashSize
    (finished.1, finished.2.2)
  | .abort opHandle => psaHashAbort client system opHandle
  | .verify opHandle hash => psaHashVerify backend client system opHandle hash
  | .compare alg input hash => psaHashCompare backend client system alg input hash
  | .compute alg input hashSize =>
    let computed := psaHashCompute backend client system alg input hashSize
    (computed.1, computed.2.2)

def HashSystem.init {size : Nat} (contexts : Fin size → CryptoContext)
    (operations : Fin size → HashOperation) (given : BitVec 32 → Bytes) : HashSystem size :=
  ⟨⟨Provider.init contexts, operations, none⟩, given⟩

def HashSystem.step {size : Nat} (backend : HashBackend) (system : HashSystem size)
    (event : HashClient × HashCall) : HashSystem size :=
  (system.run backend event.1 event.2).2

end Crypto
