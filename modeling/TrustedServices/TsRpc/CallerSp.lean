import TrustedServices.Rpc.CallerSession

/- The TS-RPC caller, which shares buffers by FF-A memory transactions. -/
namespace TsRpc

open Lib Rpc

def maxShmNum : Nat := 16

def ffaMemHandleInvalid : Nat := 2 ^ 64 - 1

def ffaMemTransactionPageSize : Nat := 4096

def tsRpcProtocolVersion : Nat := 1

/-- The version of FF-A that is built for by default. -/
def ffaVersionMajor : Nat := 1
def ffaVersionMinor : Nat := 1

abbrev Slot := Fin maxShmNum

structure CallerContext where
  ownId : Nat
  endpointId : Nat
  interfaceId : Nat
  sharedMemories : Slot → SharedMemory
  hasOpenedSession : Bool

/-- The caller: its context if it is initialized, and the number of the next buffer. Buffers are
numbered in the order in which they are allocated. -/
structure CallerSp where
  context : Option CallerContext
  nextBuffer : Nat

inductive BufferEvent
  | shared (buffer handle : Nat)
  | reclaimed (handle : Nat)
  | freed (buffer : Nat)
  deriving DecidableEq, Repr

def emptyDescriptor : SharedMemory := ⟨ffaMemHandleInvalid, none, 0⟩

section

variable (context : CallerContext)

def findSharedMemoryDescriptor (id : Nat) : Option Slot :=
  (List.finRange maxShmNum).find? fun slot => (context.sharedMemories slot).id == id

def CallerContext.setSlot (slot : Slot) (descriptor : SharedMemory) : CallerContext :=
  { context with sharedMemories := Function.update context.sharedMemories slot descriptor }

@[simp] theorem CallerContext.setSlot_same (slot : Slot) (descriptor : SharedMemory) :
    (context.setSlot slot descriptor).sharedMemories slot = descriptor :=
  Function.update_self _ _ _

theorem CallerContext.setSlot_other {slot other : Slot}
    (descriptor : SharedMemory) (apart : other ≠ slot) :
    (context.setSlot slot descriptor).sharedMemories other = context.sharedMemories other :=
  Function.update_of_ne apart _ _

end

/-- The answers to the two requests that open a session, if they are delivered: the protocol
version, and the status of the query with the interface. -/
structure OpenAnswers where
  version : Option Nat
  query : Option (RpcStatus × Nat)
  deriving DecidableEq, Repr

def openSession (answers : OpenAnswers) (context : CallerContext) (endpointId : Nat) :
    RpcStatus × CallerContext :=
  if context.hasOpenedSession then (.errorInvalidState, context)
  else if endpointId = context.ownId then (.errorInvalidValue, context)
  else
    match answers.version with
    | none => (.errorInternal, context)
    | some version =>
      if version ≠ tsRpcProtocolVersion then (.errorInternal, context)
      else
        match answers.query with
        | none => (.errorInternal, context)
        | some (status, interfaceId) =>
          if status = .success then
            (.success,
              { context with
                endpointId := endpointId
                interfaceId := interfaceId
                hasOpenedSession := true })
          else (status, context)

def openFirst (answers : Nat → OpenAnswers) : List Nat → CallerContext → RpcStatus × CallerContext
  | [], context => (.errorInternal, context)
  | endpoint :: rest, context =>
    if endpoint = context.ownId then openFirst answers rest context
    else
      let opened := openSession (answers endpoint) context endpoint
      if opened.1 = .success then opened else openFirst answers rest opened.2

/-- The endpoints are those that the discovery reports. If the RX buffer cannot be released, the
status is 0, which is a success. -/
def findAndOpenSession (discovered : Option (List Nat)) (rxReleased : Bool)
    (answers : Nat → OpenAnswers) (context : CallerContext) : RpcStatus × CallerContext :=
  if context.hasOpenedSession then (.errorInvalidState, context)
  else
    match discovered with
    | none => (.errorInternal, context)
    | some endpoints =>
      if rxReleased = false then (.success, context) else openFirst answers endpoints context

/-- What happens while memory is shared: whether it is allocated, the handle if the share
succeeds, the status of the retrieval if the request is delivered, and whether the reclaim
succeeds. -/
structure CreateAnswers where
  allocated : Bool
  share : Option Nat
  retrieve : Option RpcStatus
  reclaim : Bool
  deriving DecidableEq, Repr

def roundup (size : Nat) : Nat :=
  (size + (ffaMemTransactionPageSize - 1)) % 2 ^ 64 / ffaMemTransactionPageSize *
    ffaMemTransactionPageSize

/-- `create_shared_memory` for a context, with the buffer that the allocation gives. The error
path frees the buffer. -/
def createSharedMemory (answers : CreateAnswers) (context : CallerContext) (buffer size : Nat) :
    RpcStatus × SharedMemory × CallerContext × List BufferEvent :=
  if context.hasOpenedSession = false then (.errorInvalidState, emptyDescriptor, context, [])
  else if size = 0 then (.success, emptyDescriptor, context, [])
  else
    match findSharedMemoryDescriptor context ffaMemHandleInvalid with
    | none => (.errorInternal, emptyDescriptor, context, [])
    | some slot =>
      if answers.allocated = false then (.errorInternal, emptyDescriptor, context, [])
      else
        match answers.share with
        | none => (.errorInternal, emptyDescriptor, context, [.freed buffer])
        | some handle =>
          match answers.retrieve with
          | none =>
            (.errorInternal, emptyDescriptor, context, [.shared buffer handle, .freed buffer])
          | some status =>
            if status ≠ .success then
              (.errorInternal, emptyDescriptor, context,
                .shared buffer handle ::
                  (if answers.reclaim then [.reclaimed handle, .freed buffer]
                    else [.freed buffer]))
            else
              let sharedMemory : SharedMemory := ⟨handle, some buffer, roundup size⟩
              (.success, sharedMemory, context.setSlot slot sharedMemory, [.shared buffer handle])

/-- The status of the relinquishment if the request is delivered, and whether the reclaim
succeeds. -/
structure ReleaseAnswers where
  relinquish : Option RpcStatus
  reclaim : Bool
  deriving DecidableEq, Repr

def releaseSharedMemory (answers : ReleaseAnswers) (context : CallerContext) (id : Nat) :
    RpcStatus × CallerContext × List BufferEvent :=
  if id = ffaMemHandleInvalid then (.success, context, [])
  else
    match findSharedMemoryDescriptor context id with
    | none => (.errorInternal, context, [])
    | some slot =>
      match answers.relinquish with
      | none => (.errorInternal, context, [])
      | some status =>
        if answers.reclaim = false then (.errorInternal, context, [])
        else if status = .success then
          (.success, context.setSlot slot emptyDescriptor,
            .reclaimed id :: (context.sharedMemories slot).buffer.toList.map .freed)
        else (status, context, [.reclaimed id])

/-- Release the memory of the slots in use, until that fails. -/
def releaseSlots (answers : Slot → ReleaseAnswers) :
    List Slot → CallerContext → RpcStatus × CallerContext × List BufferEvent
  | [], context => (.success, context, [])
  | slot :: rest, context =>
    if (context.sharedMemories slot).id ≠ ffaMemHandleInvalid then
      let released := releaseSharedMemory (answers slot) context (context.sharedMemories slot).id
      if released.1 ≠ .success then released
      else
        let others := releaseSlots answers rest released.2.1
        (others.1, others.2.1, released.2.2 ++ others.2.2)
    else releaseSlots answers rest context

def closeSession (answers : Slot → ReleaseAnswers) (context : CallerContext) :
    RpcStatus × CallerContext × List BufferEvent :=
  if context.hasOpenedSession = false then (.errorInvalidState, context, [])
  else
    let released := releaseSlots answers (List.finRange maxShmNum) context
    if released.1 ≠ .success then released
    else
      (.success,
        { released.2.1 with endpointId := 0, interfaceId := 0, hasOpenedSession := false },
        released.2.2)

def initialContext (ownId : Nat) : CallerContext :=
  ⟨ownId, 0, 0, fun _ => emptyDescriptor, false⟩

/-- What the discovery answers, the version of FF-A and the partition's own identifier, and whether
the context is allocated. -/
structure InitAnswers where
  version : Option (Nat × Nat)
  ownId : Option Nat
  allocated : Bool
  deriving DecidableEq, Repr

def tsRpcCallerSpInit (answers : InitAnswers) (caller : CallerSp) : RpcStatus × CallerSp :=
  match caller.context, answers.version with
  | some _, _ => (.errorInvalidValue, caller)
  | none, none => (.errorTransportLayer, caller)
  | none, some (major, minor) =>
    if major ≠ ffaVersionMajor ∨ minor < ffaVersionMinor then (.errorTransportLayer, caller)
    else
      match answers.ownId, answers.allocated with
      | some ownId, true => (.success, { caller with context := some (initialContext ownId) })
      | _, _ => (.errorInternal, caller)

/-- The session is closed if it is not open. -/
def tsRpcCallerSpDeinit (answers : Slot → ReleaseAnswers) (caller : CallerSp) :
    RpcStatus × CallerSp × List BufferEvent :=
  match caller.context with
  | none => (.errorInvalidValue, caller, [])
  | some context =>
    if context.hasOpenedSession = false then
      let closed := closeSession answers context
      if closed.1 ≠ .success then
        (.errorInternal, { caller with context := some closed.2.1 }, closed.2.2)
      else (.success, { caller with context := none }, closed.2.2)
    else (.success, { caller with context := none }, [])

end TsRpc
