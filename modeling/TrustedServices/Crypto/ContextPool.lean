import TrustedServices.Lib.LinkedPool
import TrustedServices.Lib.Transition

/- The contexts of multi-part operations: a pool for each crypto provider. -/
namespace Crypto

open Lib Function

abbrev PsaStatus := Int32

def psaSuccess : PsaStatus := 0
def psaErrorBadState : PsaStatus := -137

abbrev RpcStatus := Int32

def rpcSuccess : RpcStatus := 0
def rpcErrorResourceFailure : RpcStatus := -8

abbrev ClientId := BitVec 32

inductive CryptoContextOpId
  | none
  | hash
  | mac
  | cipher
  | aead
  | keyDerivation
  deriving DecidableEq, Repr

structure CryptoContext where
  usage : CryptoContextOpId
  clientId : ClientId
  opHandle : BitVec 32
  deriving DecidableEq, Repr

structure CryptoContextPool (size : Nat) where
  links : Links (Fin size)
  contexts : Fin size → CryptoContext
  mostRecentOpHandle : BitVec 32

variable {size : Nat}

def addToFreeList (pool : CryptoContextPool size) (context : Fin size) : CryptoContextPool size :=
  { pool with
    links := pool.links.addFree context
    contexts := update pool.contexts context
      { pool.contexts context with usage := .none, opHandle := 0 } }

/-- The pool over memory of any contents. -/
def cryptoContextPoolInit (contexts : Fin size → CryptoContext) : CryptoContextPool size :=
  (List.finRange size).foldl addToFreeList ⟨Links.empty, contexts, 0⟩

def cryptoContextPoolFree (pool : CryptoContextPool size) (context : Fin size) :
    CryptoContextPool size :=
  addToFreeList { pool with links := pool.links.unlink context } context

def opHandleInUse (pool : CryptoContextPool size) (candidate : BitVec 32) : Bool :=
  (walk pool.links.next (fun context => candidate == (pool.contexts context).opHandle) size
    pool.links.head).isSome

def skipUsed (inUse : BitVec 32 → Bool) : Nat → BitVec 32 → BitVec 32
  | 0, candidate => candidate
  | rounds + 1, candidate =>
    if inUse candidate then skipUsed inUse rounds (candidate + 1) else candidate

section

variable (pool : CryptoContextPool size)

def allocOpHandle : BitVec 32 :=
  skipUsed (opHandleInUse pool) (size + 1) (pool.mostRecentOpHandle + 1)

def CryptoContextPool.recycles : Option (Fin size) :=
  match pool.links.free with
  | none => pool.links.tail
  | some _ => none

def CryptoContextPool.withRoom : CryptoContextPool size :=
  match pool.recycles with
  | none => pool
  | some context => cryptoContextPoolFree pool context

/-- A free context with its usage and client, as the first one of the active list. -/
def CryptoContextPool.activated (context : Fin size)
    (usage : CryptoContextOpId) (clientId : ClientId) : CryptoContextPool size :=
  { pool with
    links := pool.links.activate context
    contexts := update pool.contexts context
      { pool.contexts context with usage, clientId } }

/-- The context is on the active list already when its handle is looked for. -/
def cryptoContextPoolAlloc (usage : CryptoContextOpId)
    (clientId : ClientId) : Option (Fin size × BitVec 32) × CryptoContextPool size :=
  match pool.withRoom.links.free with
  | none => (none, pool.withRoom)
  | some context =>
    let pool := pool.withRoom.activated context usage clientId
    let opHandle := allocOpHandle pool
    (some (context, opHandle),
      { pool with
        contexts := update pool.contexts context { pool.contexts context with opHandle }
        mostRecentOpHandle := opHandle })

def cryptoContextPoolFind (usage : CryptoContextOpId)
    (clientId : ClientId) (opHandle : BitVec 32) : Option (Fin size) :=
  walk pool.links.next (fun context =>
    (pool.contexts context).opHandle == opHandle && (pool.contexts context).usage == usage &&
      (pool.contexts context).clientId == clientId) size pool.links.head

end

inductive ContextAction
  | setup
  | use
  | finish
  | abort
  | clone
  deriving DecidableEq, Repr

inductive Opcode
  | hashSetup
  | hashUpdate
  | hashFinish
  | hashAbort
  | hashVerify
  | hashClone
  | cipherEncryptSetup
  | cipherDecryptSetup
  | cipherGenerateIv
  | cipherSetIv
  | cipherUpdate
  | cipherFinish
  | cipherAbort
  | macSignSetup
  | macVerifySetup
  | macUpdate
  | macSignFinish
  | macVerifyFinish
  | macAbort
  | aeadEncryptSetup
  | aeadDecryptSetup
  | aeadGenerateNonce
  | aeadSetNonce
  | aeadSetLengths
  | aeadUpdateAd
  | aeadUpdate
  | aeadFinish
  | aeadVerify
  | aeadAbort
  | keyDerivationSetup
  | keyDerivationGetCapacity
  | keyDerivationSetCapacity
  | keyDerivationInputBytes
  | keyDerivationInputKey
  | keyDerivationOutputBytes
  | keyDerivationOutputKey
  | keyDerivationAbort
  | keyDerivationKeyAgreement
  deriving DecidableEq, Repr

/-- The provider that handles a request, which is also what its contexts are used for. -/
def Opcode.usage : Opcode → CryptoContextOpId
  | .hashSetup | .hashUpdate | .hashFinish | .hashAbort | .hashVerify | .hashClone => .hash
  | .cipherEncryptSetup | .cipherDecryptSetup | .cipherGenerateIv | .cipherSetIv | .cipherUpdate
  | .cipherFinish | .cipherAbort => .cipher
  | .macSignSetup | .macVerifySetup | .macUpdate | .macSignFinish | .macVerifyFinish
  | .macAbort => .mac
  | .aeadEncryptSetup | .aeadDecryptSetup | .aeadGenerateNonce | .aeadSetNonce | .aeadSetLengths
  | .aeadUpdateAd | .aeadUpdate | .aeadFinish | .aeadVerify | .aeadAbort => .aead
  | .keyDerivationSetup | .keyDerivationGetCapacity | .keyDerivationSetCapacity
  | .keyDerivationInputBytes | .keyDerivationInputKey | .keyDerivationOutputBytes
  | .keyDerivationOutputKey | .keyDerivationAbort | .keyDerivationKeyAgreement => .keyDerivation

def Opcode.action : Opcode → ContextAction
  | .hashSetup | .cipherEncryptSetup | .cipherDecryptSetup | .macSignSetup | .macVerifySetup
  | .aeadEncryptSetup | .aeadDecryptSetup | .keyDerivationSetup => .setup
  | .hashUpdate | .cipherGenerateIv | .cipherSetIv | .cipherUpdate | .macUpdate
  | .aeadGenerateNonce | .aeadSetNonce | .aeadSetLengths | .aeadUpdateAd | .aeadUpdate
  | .keyDerivationGetCapacity | .keyDerivationSetCapacity | .keyDerivationInputBytes
  | .keyDerivationInputKey | .keyDerivationOutputBytes | .keyDerivationOutputKey
  | .keyDerivationKeyAgreement => .use
  | .hashFinish | .hashVerify | .cipherFinish | .macSignFinish | .macVerifyFinish | .aeadFinish
  | .aeadVerify => .finish
  | .hashAbort | .cipherAbort | .macAbort | .aeadAbort | .keyDerivationAbort => .abort
  | .hashClone => .clone

/-- A request with the results of the backend and of the serializer. A request may end before the
backend is called, with a key id of zero or for want of memory. -/
structure MultipartRequest where
  opcode : Opcode
  sourceId : ClientId
  opHandle : BitVec 32
  reachesBackend : Bool
  psaStatus : PsaStatus
  serialized : RpcStatus
  deriving DecidableEq, Repr

/-- The setup that a context comes from. `number` counts the setups of the provider. -/
structure Setup where
  usage : CryptoContextOpId
  clientId : ClientId
  opHandle : BitVec 32
  number : Nat
  deriving DecidableEq, Repr

/-- A provider, with a record of the setup of each context that has not been freed since. -/
structure Provider (size : Nat) extends pool : CryptoContextPool size where
  live : Fin size → Option Setup
  setups : Nat

/-- A call of the backend on a context that the request knows by a handle, with the record of the
context from when the request came to it, and the one at the time of the call. -/
structure Operation where
  usage : CryptoContextOpId
  clientId : ClientId
  opHandle : BitVec 32
  known : Option Setup
  live : Option Setup
  deriving DecidableEq, Repr

/-- The context is one that the client has set up for the same kind of operation, and it has not
been freed or recycled since. -/
structure Operation.Proper (operation : Operation) : Prop where
  setUp : ∃ number, operation.known =
    some ⟨operation.usage, operation.clientId, operation.opHandle, number⟩
  since : operation.live = operation.known

structure Reply where
  rpcStatus : RpcStatus
  serviceStatus : Option PsaStatus
  opHandle : Option (BitVec 32)
  deriving DecidableEq, Repr

/-- What a request does: its reply, its calls of the backend and the provider that it leaves. -/
structure Handled (size : Nat) where
  reply : Reply
  operations : List Operation
  provider : Provider size

def Provider.init (contexts : Fin size → CryptoContext) : Provider size :=
  ⟨cryptoContextPoolInit contexts, fun _ => none, 0⟩

section

variable (provider : Provider size)

def Provider.free (context : Fin size) : Provider size :=
  { provider with
    pool := cryptoContextPoolFree provider.pool context
    live := update provider.live context none }

def Provider.withRoom : Provider size :=
  match provider.pool.recycles with
  | none => provider
  | some context => provider.free context

def Provider.alloc (usage : CryptoContextOpId) (clientId : ClientId) :
    Option (Fin size × BitVec 32) × Provider size :=
  let allocated := cryptoContextPoolAlloc provider.pool usage clientId
  match allocated.1 with
  | none => (none, { provider with pool := allocated.2, live := provider.withRoom.live })
  | some (context, opHandle) =>
    (some (context, opHandle),
      ⟨allocated.2, update provider.withRoom.live context
        (some ⟨usage, clientId, opHandle, provider.setups⟩), provider.setups + 1⟩)

end

section

variable (provider : Provider size) (request : MultipartRequest)

def MultipartRequest.operation (opHandle : BitVec 32) (known live : Option Setup) : Operation :=
  ⟨request.opcode.usage, request.sourceId, opHandle, known, live⟩

def setupHandler : Handled size :=
  let allocated := provider.alloc request.opcode.usage request.sourceId
  match allocated.1 with
  | none => ⟨⟨rpcErrorResourceFailure, none, none⟩, [], allocated.2⟩
  | some (context, opHandle) =>
    let rpcStatus := if request.psaStatus = psaSuccess then request.serialized else rpcSuccess
    ⟨⟨rpcStatus, some request.psaStatus,
        if request.psaStatus = psaSuccess ∧ rpcStatus = rpcSuccess then some opHandle else none⟩,
      [request.operation opHandle (allocated.2.live context) (allocated.2.live context)],
      if request.psaStatus ≠ psaSuccess ∨ rpcStatus ≠ rpcSuccess then allocated.2.free context
      else allocated.2⟩

/-- A request for the context of a handle. `frees` says whether the context is freed, for the status
of the backend. -/
def findHandler (missing : PsaStatus) (frees : PsaStatus → Bool) : Handled size :=
  match cryptoContextPoolFind provider.pool request.opcode.usage request.sourceId
    request.opHandle with
  | none => ⟨⟨rpcSuccess, some missing, none⟩, [], provider⟩
  | some context =>
    if request.reachesBackend then
      ⟨⟨if request.psaStatus = psaSuccess then request.serialized else rpcSuccess,
          some request.psaStatus, none⟩,
        [request.operation request.opHandle (provider.live context) (provider.live context)],
        if frees request.psaStatus then provider.free context else provider⟩
    else ⟨⟨rpcSuccess, some request.psaStatus, none⟩, [], provider⟩

def useHandler : Handled size := findHandler provider request psaErrorBadState fun _ => false

def finishHandler : Handled size :=
  findHandler provider request psaErrorBadState fun status => status == psaSuccess

def abortHandler : Handled size := findHandler provider request psaSuccess fun _ => true

/-- The source is used after the target has been allocated. A target whose clone fails is not
freed. -/
def hashCloneHandler : Handled size :=
  match cryptoContextPoolFind provider.pool .hash request.sourceId request.opHandle with
  | none => ⟨⟨rpcSuccess, some psaErrorBadState, none⟩, [], provider⟩
  | some source =>
    let allocated := provider.alloc .hash request.sourceId
    match allocated.1 with
    | none => ⟨⟨rpcSuccess, some psaErrorBadState, none⟩, [], allocated.2⟩
    | some (target, targetOpHandle) =>
      let rpcStatus := if request.psaStatus = psaSuccess then request.serialized else rpcSuccess
      ⟨⟨rpcStatus, some request.psaStatus,
          if request.psaStatus = psaSuccess ∧ rpcStatus = rpcSuccess then some targetOpHandle
          else none⟩,
        [request.operation targetOpHandle (allocated.2.live target) (allocated.2.live target),
          request.operation request.opHandle (provider.live source) (allocated.2.live source)],
        allocated.2⟩

def Provider.handle : Handled size :=
  match request.opcode.action with
  | .setup => setupHandler provider request
  | .use => useHandler provider request
  | .finish => finishHandler provider request
  | .abort => abortHandler provider request
  | .clone => hashCloneHandler provider request

end

/-- The providers of the crypto service, each with its own pool. -/
abbrev Providers (size : Nat) := CryptoContextOpId → Provider size

def Providers.init (contexts : CryptoContextOpId → Fin size → CryptoContext) : Providers size :=
  fun usage => Provider.init (contexts usage)

section

variable (providers : Providers size) (request : MultipartRequest)

def Providers.handle : Handled size :=
  (providers request.opcode.usage).handle request

def Providers.step : Providers size :=
  update providers request.opcode.usage (providers.handle request).provider

end

end Crypto
