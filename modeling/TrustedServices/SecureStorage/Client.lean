import TrustedServices.Rpc.CallerSession

/- The handlers of the secure storage service, and its client, each step of whose calls may fail. -/
namespace SecureStorage

open Lib Rpc

abbrev PsaStatus := Int32

def psaSuccess : PsaStatus := 0
def psaErrorGenericError : PsaStatus := -132
def psaErrorInvalidArgument : PsaStatus := -135

structure StorageInfo where
  capacity : BitVec 32
  size : BitVec 32
  flags : BitVec 32
  deriving DecidableEq, Repr

inductive StorageRequest
  | set (uid : BitVec 64) (data : Bytes) (createFlags : BitVec 32)
  | get (uid dataOffset : BitVec 64) (dataSize : Nat)
  | getInfo (uid : BitVec 64)
  | remove (uid : BitVec 64)
  | create (uid capacity : BitVec 64) (createFlags : BitVec 32)
  | setExtended (uid dataOffset : BitVec 64) (data : Bytes)
  deriving DecidableEq, Repr

/-- What a backend returns. The data are those of a `get`, the information that of a
`getInfo`. -/
structure StorageReply where
  status : PsaStatus
  data : Bytes
  info : StorageInfo
  deriving DecidableEq, Repr

/-- A storage backend. It writes no more than the `dataSize` bytes it is asked for. -/
structure StorageBackend (State : Type) where
  serve : State → Nat → StorageRequest → StorageReply × State
  get_fits : ∀ state clientId uid dataOffset dataSize,
    (serve state clientId (.get uid dataOffset dataSize)).1.data.length ≤ dataSize

section

variable {State : Type} (backend : StorageBackend State) (state : State) (sourceId : Nat)

/-- What a handler leaves: the response in the shared memory, and the request that it made to the
backend with the reply. -/
structure Handled (State : Type) where
  status : RpcStatus
  serviceStatus : Int
  response : Bytes
  served : Option (StorageRequest × StorageReply)
  state : State

def Handled.refused (status : RpcStatus) : Handled State := ⟨status, 0, [], none, state⟩

def Handled.serve (request : StorageRequest) (response : StorageReply → Bytes) : Handled State :=
  let served := backend.serve state sourceId request
  ⟨.success, served.1.status.toInt, response served.1, some (request, served.1), served.2⟩

def word64 (bytes : Bytes) (offset : Nat) : BitVec 64 :=
  BitVec.ofNat 64 (leNat (slice bytes offset 8))

def word32 (bytes : Bytes) (offset : Nat) : BitVec 32 :=
  BitVec.ofNat 32 (leNat (slice bytes offset 4))

/-- The handlers of requests with data behind a descriptor that has their length at
`lengthOffset`. -/
def dataHandler (descriptorSize lengthOffset : Nat) (request : Bytes)
    (decode : Bytes → StorageRequest) : Handled State :=
  if request.length < descriptorSize then .refused state .errorInvalidRequestBody
  else
    match addOverflow descriptorSize (word64 request lengthOffset).toNat with
    | none => .refused state .errorInvalidRequestBody
    | some requestLength =>
      if request.length < requestLength then .refused state .errorInvalidRequestBody
      else
        .serve backend state sourceId
          (decode (slice request descriptorSize (word64 request lengthOffset).toNat)) fun _ => []

def setHandler (request : Bytes) : Handled State :=
  dataHandler backend state sourceId 20 8 request fun data =>
    .set (word64 request 0) data (word32 request 16)

def getHandler (request : Bytes) (responseSize : Nat) : Handled State :=
  if request.length < 24 then .refused state .errorInvalidRequestBody
  else
    let dataSize := min responseSize (word64 request 16).toNat
    .serve backend state sourceId (.get (word64 request 0) (word64 request 8) dataSize)
      StorageReply.data

/-- The response has words of 64 bits for the capacity and the size. -/
def StorageInfo.bytes (info : StorageInfo) : Bytes :=
  leBytes 8 (info.capacity.setWidth 64).toNat ++
    (leBytes 8 (info.size.setWidth 64).toNat ++ leBytes 4 info.flags.toNat)

section

variable (request : Bytes)

def getInfoHandler (responseSize : Nat) : Handled State :=
  if request.length < 8 then .refused state .errorInvalidRequestBody
  else if responseSize < 20 then .refused state .errorInvalidResponseBody
  else
    .serve backend state sourceId (.getInfo (word64 request 0)) fun reply =>
      if reply.status = psaSuccess then reply.info.bytes else []

def removeHandler : Handled State :=
  if request.length < 8 then .refused state .errorInvalidRequestBody
  else .serve backend state sourceId (.remove (word64 request 0)) fun _ => []

def createHandler : Handled State :=
  if request.length < 20 then .refused state .errorInvalidRequestBody
  else
    .serve backend state sourceId
      (.create (word64 request 0) (word64 request 8) (word32 request 16)) fun _ => []

def setExtendedHandler : Handled State :=
  dataHandler backend state sourceId 24 16 request fun data =>
    .setExtended (word64 request 0) (word64 request 8) data

end

inductive Opcode
  | set
  | get
  | getInfo
  | remove
  | create
  | setExtended
  deriving DecidableEq, Repr

def Opcode.code : Opcode → Nat
  | .set => 0x100
  | .get => 0x101
  | .getInfo => 0x102
  | .remove => 0x103
  | .create => 0x104
  | .setExtended => 0x105

def receive (opcode : Opcode) (request : Bytes) (responseSize : Nat) : Handled State :=
  match opcode with
  | .set => setHandler backend state sourceId request
  | .get => getHandler backend state sourceId request responseSize
  | .getInfo => getInfoHandler backend state sourceId request responseSize
  | .remove => removeHandler backend state sourceId request
  | .create => createHandler backend state sourceId request
  | .setExtended => setExtendedHandler backend state sourceId request

end

/-- The request that a client writes: words of 64 bits, then the rest. -/
def setRequest (uid : BitVec 64) (data : Bytes) (createFlags : BitVec 32) : Bytes :=
  leBytes 8 uid.toNat ++ (leBytes 8 data.length ++ (leBytes 4 createFlags.toNat ++ data))

def getRequest (uid dataOffset : BitVec 64) (dataSize : Nat) : Bytes :=
  leBytes 8 uid.toNat ++ (leBytes 8 dataOffset.toNat ++ leBytes 8 dataSize)

def uidRequest (uid : BitVec 64) : Bytes := leBytes 8 uid.toNat

def createRequest (uid capacity : BitVec 64) (createFlags : BitVec 32) : Bytes :=
  leBytes 8 uid.toNat ++ (leBytes 8 capacity.toNat ++ leBytes 4 createFlags.toNat)

def setExtendedRequest (uid dataOffset : BitVec 64) (data : Bytes) : Bytes :=
  leBytes 8 uid.toNat ++ (leBytes 8 dataOffset.toNat ++ (leBytes 8 data.length ++ data))

/-- What becomes of a request: it is answered, or it is lost with an error before or after the
handler ran. -/
inductive Delivery
  | answered
  | lost (status : RpcStatus) (failed : status ≠ .success) (ran : Bool)

def Delivery.ran : Delivery → Bool
  | .answered => true
  | .lost _ _ ran => ran

/-- The connection to the provider during one call of the client. -/
structure Link where
  createSharedMemory : Nat → RpcStatus × SharedMemory
  releaseSharedMemory : SharedMemory → RpcStatus
  delivery : Delivery

variable {State : Type} (link : Link)

/-- The caller whose call gives what the handler left, if it is answered. -/
def Link.caller (handled : Handled State) : CallerInterface where
  openSession := .success
  findAndOpenSession := .success
  closeSession := .success
  createSharedMemory := link.createSharedMemory
  releaseSharedMemory := link.releaseSharedMemory
  call _ _ _ :=
    match link.delivery with
    | .answered => ⟨handled.status, handled.response.length, handled.serviceStatus⟩
    | .lost status _ _ => ⟨status, 0, 0⟩

def sessionCalls (session : CallerSession) : Bool :=
  session.connected && session.isCallTransactionInProgress && !session.lacksMemory

/-- The steps of a call after a transaction has begun, the size of the memory, and what the
provider did. -/
structure Exchange where
  invoked : RpcStatus
  output : Option InvokeOutput
  ended : RpcStatus
  memorySize : Nat
  served : Option (StorageRequest × StorageReply)

/-- A call of the client: its status, what it wrote for the application, its exchange with the
provider if a transaction began, and the session and the provider's state after it. -/
structure ClientOutcome (State : Type) where
  status : PsaStatus
  data : Option Bytes
  info : Option StorageInfo
  exchange : Option Exchange
  session : CallerSession
  state : State

variable (backend : StorageBackend State) (state : State) (sourceId : Nat) (session : CallerSession)

def ClientOutcome.refused (status : PsaStatus) : ClientOutcome State :=
  ⟨status, none, none, none, session, state⟩

/-- The status of an ended call: a failure to end hides a success. -/
def endStatus (psaStatus : PsaStatus) (ended : RpcStatus) : PsaStatus :=
  if psaStatus = psaSuccess ∧ ended ≠ .success then psaErrorGenericError else psaStatus

/-- What a client does with the result of its invocation. -/
structure Reading where
  status : PsaStatus
  data : Option Bytes
  info : Option StorageInfo

/-- A call over the session: `begin`, `invoke`, reading the result and `end`. If no transaction
begins, the status is `noHandle`. -/
def transact (opcode : Opcode) (request : Bytes) (responseMaxLength : Nat) (noHandle : PsaStatus)
    (read : RpcStatus → Option InvokeOutput → Bytes → Reading) : ClientOutcome State :=
  let begun := rpcCallerSessionBegin (link.caller (Handled.refused () .success)) session
    request.length responseMaxLength
  if begun.1 = false then ⟨noHandle, none, none, none, begun.2.1, state⟩
  else
    let handled := receive backend state sourceId opcode request begun.2.1.sharedMemory.size
    let runs := sessionCalls begun.2.1 && link.delivery.ran
    let invoked := rpcCallerSessionInvoke (link.caller handled) begun.2.1 true opcode.code
    let ended := rpcCallerSessionEnd (link.caller handled) begun.2.1 true
    let reading := read invoked.1 invoked.2 handled.response
    { status := endStatus reading.status ended.1
      data := reading.data
      info := reading.info
      exchange := some
        { invoked := invoked.1
          output := invoked.2
          ended := ended.1
          memorySize := begun.2.1.sharedMemory.size
          served := if runs then handled.served else none }
      session := ended.2.1
      state := if runs then handled.state else state }

/-- Take the status of the service if the invocation succeeded, and else the initial one. -/
def readStatus (initial : PsaStatus) (invoked : RpcStatus) (output : Option InvokeOutput)
    (_ : Bytes) : Reading :=
  match invoked, output with
  | .success, some output => ⟨Int32.ofInt output.serviceStatus, none, none⟩
  | _, _ => ⟨initial, none, none⟩

/-- The bytes behind the response buffer. -/
def responseBytes (output : InvokeOutput) (response : Bytes) : Bytes :=
  response.take output.responseLength

def readData (dataSize : Nat) (invoked : RpcStatus) (output : Option InvokeOutput)
    (response : Bytes) : Reading :=
  match invoked, output with
  | .success, some output =>
    if output.responseLength > dataSize then ⟨psaErrorGenericError, none, none⟩
    else if Int32.ofInt output.serviceStatus ≠ psaSuccess then
      ⟨Int32.ofInt output.serviceStatus, none, none⟩
    else ⟨psaSuccess, some (responseBytes output response), none⟩
  | _, _ => ⟨psaErrorGenericError, none, none⟩

/-- The information in a response. -/
def infoOf (bytes : Bytes) : StorageInfo :=
  ⟨(word64 bytes 0).setWidth 32, (word64 bytes 8).setWidth 32, word32 bytes 16⟩

def readInfo (invoked : RpcStatus) (output : Option InvokeOutput) (response : Bytes) : Reading :=
  match invoked, output with
  | .success, some output =>
    if output.serviceStatus = psaSuccess.toInt ∧ output.responseLength ≠ 20 then
      ⟨psaErrorGenericError, none, none⟩
    else if Int32.ofInt output.serviceStatus = psaSuccess then
      ⟨psaSuccess, none, some (infoOf (responseBytes output response))⟩
    else ⟨Int32.ofInt output.serviceStatus, none, some ⟨0, 0, 0⟩⟩
  | _, _ => ⟨psaErrorGenericError, none, none⟩

/-- The data that an application passes: NULL with a length, or bytes. -/
inductive InputBuffer
  | null (length : Nat)
  | bytes (data : Bytes)
  deriving DecidableEq, Repr

def InputBuffer.length : InputBuffer → Nat
  | .null length => length
  | .bytes data => data.length

def InputBuffer.data : InputBuffer → Bytes
  | .null _ => []
  | .bytes data => data

def InputBuffer.isNull : InputBuffer → Bool
  | .null _ => true
  | .bytes _ => false

def secureStorageClientSet (uid : BitVec 64) (input : InputBuffer) (createFlags : BitVec 32) :
    ClientOutcome State :=
  if input.isNull ∧ input.length ≠ 0 then .refused state session psaErrorInvalidArgument
  else if addOverflow 20 input.length = none then .refused state session psaErrorInvalidArgument
  else
    transact link backend state sourceId session .set (setRequest uid input.data createFlags) 0
      psaErrorGenericError (readStatus psaErrorGenericError)

/-- `destination` is whether the application gives a buffer. -/
def secureStorageClientGet (uid dataOffset : BitVec 64) (dataSize : Nat) (destination : Bool) :
    ClientOutcome State :=
  if destination = false ∧ dataSize ≠ 0 then .refused state session psaErrorInvalidArgument
  else
    transact link backend state sourceId session .get (getRequest uid dataOffset dataSize) dataSize
      psaErrorGenericError (readData dataSize)

def secureStorageClientGetInfo (uid : BitVec 64) (destination : Bool) : ClientOutcome State :=
  if destination = false then .refused state session psaErrorInvalidArgument
  else
    transact link backend state sourceId session .getInfo (uidRequest uid) 20
      psaErrorGenericError readInfo

def secureStorageClientRemove (uid : BitVec 64) : ClientOutcome State :=
  transact link backend state sourceId session .remove (uidRequest uid) 0 psaErrorGenericError
    (readStatus psaErrorGenericError)

/-- The status starts as success. -/
def secureStorageClientCreate (uid capacity : BitVec 64) (createFlags : BitVec 32) :
    ClientOutcome State :=
  transact link backend state sourceId session .create (createRequest uid capacity createFlags) 0
    psaSuccess (readStatus psaSuccess)

def secureStorageSetExtended (uid dataOffset : BitVec 64) (input : InputBuffer) :
    ClientOutcome State :=
  if input.isNull then .refused state session psaErrorInvalidArgument
  else if addOverflow 24 input.length = none then .refused state session psaErrorInvalidArgument
  else
    transact link backend state sourceId session .setExtended
      (setExtendedRequest uid dataOffset input.data) 0 psaErrorInvalidArgument
      (readStatus psaSuccess)

end SecureStorage
