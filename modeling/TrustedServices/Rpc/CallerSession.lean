import TrustedServices.Lib.Transition
import TrustedServices.Rpc.Request

/- Sessions of an RPC caller over memory that is shared with the endpoint. -/
namespace Rpc

open Lib

/-- Memory that a caller shares with its endpoint. A buffer is an address, or NULL. -/
structure SharedMemory where
  id : Nat
  buffer : Option Nat
  size : Nat
  deriving DecidableEq, Repr

def SharedMemory.zero : SharedMemory := ⟨0, none, 0⟩

structure CallReply where
  status : RpcStatus
  responseLength : Nat
  serviceStatus : Int
  deriving DecidableEq, Repr

/-- The answers of a caller to the operations that one function of the session makes. If memory
cannot be shared, the descriptor is not written. -/
structure CallerInterface where
  openSession : RpcStatus
  findAndOpenSession : RpcStatus
  closeSession : RpcStatus
  createSharedMemory : Nat → RpcStatus × SharedMemory
  releaseSharedMemory : SharedMemory → RpcStatus
  call : Nat → SharedMemory → Nat → CallReply

def rpcCallerCloseSession : Option CallerInterface → RpcStatus
  | none => .errorInvalidValue
  | some caller => caller.closeSession

def rpcCallerCreateSharedMemory :
    Option CallerInterface → Nat → RpcStatus × SharedMemory
  | none, _ => (.errorInvalidValue, .zero)
  | some caller, size => caller.createSharedMemory size

def rpcCallerReleaseSharedMemory : Option CallerInterface → SharedMemory → RpcStatus
  | none, _ => .errorInvalidValue
  | some caller, sharedMemory => caller.releaseSharedMemory sharedMemory

/-- The opcode is cut to 16 bits. -/
def rpcCallerCall :
    Option CallerInterface → Nat → SharedMemory → Nat → CallReply
  | none, _, _, _ => ⟨.errorInvalidValue, 0, 0⟩
  | some caller, opcode, sharedMemory, requestLength =>
    caller.call (opcode % 2 ^ 16) sharedMemory requestLength

inductive MemoryPolicy
  | allocForEachCall
  | allocForSession
  deriving DecidableEq, Repr

/-- A session. It is `connected` when it has a caller. -/
structure CallerSession where
  connected : Bool
  sharedMemory : SharedMemory
  sharedMemoryPolicy : MemoryPolicy
  isCallTransactionInProgress : Bool
  requestLength : Nat
  deriving DecidableEq, Repr

def CallerSession.zero : CallerSession := ⟨false, .zero, .allocForEachCall, false, 0⟩

inductive MemoryEvent
  | obtained (sharedMemory : SharedMemory)
  | released (sharedMemory : SharedMemory)
  deriving DecidableEq, Repr

variable (caller : CallerInterface) (session : CallerSession)

def CallerSession.callerOf : Option CallerInterface := if session.connected then some caller else none

def initalizeSharedMemory (sharedMemorySize : Nat) :
    RpcStatus × CallerSession × List MemoryEvent :=
  if sharedMemorySize ≠ 0 then
    let created := rpcCallerCreateSharedMemory (some caller) sharedMemorySize
    if created.1 ≠ .success then (created.1, session, [])
    else
      (.success,
        { session with sharedMemory := created.2, sharedMemoryPolicy := .allocForSession },
        [.obtained created.2])
  else
    (.success,
      { session with sharedMemory := .zero, sharedMemoryPolicy := .allocForEachCall }, [])

/-- The common part of the two functions that open a session, after the caller's answer. -/
def openWith (opened : RpcStatus) (sharedMemorySize : Nat) :
    RpcStatus × CallerSession × List MemoryEvent :=
  if opened ≠ .success then (opened, session, [])
  else
    let initialized := initalizeSharedMemory caller session sharedMemorySize
    if initialized.1 ≠ .success then initialized
    else
      (.success,
        { initialized.2.1 with
          connected := true
          isCallTransactionInProgress := false
          requestLength := 0 },
        initialized.2.2)

def rpcCallerSessionOpen (sharedMemorySize : Nat) :
    RpcStatus × CallerSession × List MemoryEvent :=
  openWith caller session caller.openSession sharedMemorySize

def rpcCallerSessionFindAndOpen (sharedMemorySize : Nat) :
    RpcStatus × CallerSession × List MemoryEvent :=
  openWith caller session caller.findAndOpenSession sharedMemorySize

def rpcCallerSessionClose : RpcStatus × List MemoryEvent :=
  if session.isCallTransactionInProgress then (.errorInvalidState, [])
  else
    match session.sharedMemoryPolicy with
    | .allocForSession =>
      let released := rpcCallerReleaseSharedMemory (session.callerOf caller) session.sharedMemory
      if released ≠ .success then (released, [])
      else
        (rpcCallerCloseSession (session.callerOf caller), [.released session.sharedMemory])
    | .allocForEachCall => (rpcCallerCloseSession (session.callerOf caller), [])

/-- Whether a transaction begins. The request goes to the session's buffer. -/
def rpcCallerSessionBegin (requestLength responseMaxLength : Nat) :
    Bool × CallerSession × List MemoryEvent :=
  let requiredBufferLength := max requestLength responseMaxLength
  if requiredBufferLength > 2 ^ 32 - 1 then (false, session, [])
  else if session.isCallTransactionInProgress then (false, session, [])
  else
    match session.sharedMemoryPolicy with
    | .allocForEachCall =>
      if session.sharedMemory.buffer.isSome ∨ session.sharedMemory.size ≠ 0 then
        (false, session, [])
      else
        let created := rpcCallerCreateSharedMemory (session.callerOf caller)
          requiredBufferLength
        if created.1 ≠ .success then (false, session, [])
        else
          (true,
            { session with
              sharedMemory := created.2
              isCallTransactionInProgress := true
              requestLength := requestLength },
            [.obtained created.2])
    | .allocForSession =>
      if session.sharedMemory.buffer.isNone ∨ session.sharedMemory.size = 0 then
        (false, session, [])
      else if session.sharedMemory.size < requiredBufferLength then (false, session, [])
      else
        (true,
          { session with isCallTransactionInProgress := true, requestLength := requestLength },
          [])

structure InvokeOutput where
  responseBuffer : Option Nat
  responseLength : Nat
  serviceStatus : Int
  deriving DecidableEq, Repr

/-- A request without data may be made without memory. -/
def CallerSession.lacksMemory : Bool :=
  session.requestLength ≠ 0 ∧
    (session.sharedMemory.buffer.isNone ∨ session.sharedMemory.size = 0)

/-- An invocation through a handle, which is the session or NULL. -/
def rpcCallerSessionInvoke (handle : Bool) (opcode : Nat) : RpcStatus × Option InvokeOutput :=
  if handle = false then (.errorInvalidValue, none)
  else if session.isCallTransactionInProgress = false then (.errorInvalidState, none)
  else if session.lacksMemory then (.errorInvalidState, none)
  else
    let reply := rpcCallerCall (session.callerOf caller) opcode session.sharedMemory
      session.requestLength
    if reply.status ≠ .success ∨ reply.responseLength > session.sharedMemory.size then
      (reply.status, some ⟨none, 0, reply.serviceStatus⟩)
    else
      (reply.status, some ⟨session.sharedMemory.buffer, reply.responseLength, reply.serviceStatus⟩)

def rpcCallerSessionEnd (handle : Bool) : RpcStatus × CallerSession × List MemoryEvent :=
  if handle = false then (.errorInvalidValue, session, [])
  else if session.isCallTransactionInProgress = false then (.errorInvalidState, session, [])
  else if session.lacksMemory then (.errorInvalidState, session, [])
  else
    match session.sharedMemoryPolicy with
    | .allocForEachCall =>
      let released := rpcCallerReleaseSharedMemory (session.callerOf caller) session.sharedMemory
      if released ≠ .success then (released, session, [])
      else
        (.success,
          { session with
            sharedMemory := .zero
            isCallTransactionInProgress := false
            requestLength := 0 },
          [.released session.sharedMemory])
    | .allocForSession =>
      (.success, { session with isCallTransactionInProgress := false, requestLength := 0 }, [])

end Rpc
