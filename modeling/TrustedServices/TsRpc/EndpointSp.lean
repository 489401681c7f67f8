import TrustedServices.Lib.Registers
import TrustedServices.Rpc.Request

/- The TS-RPC endpoint: its messages, its table of retrieved memory and its services. -/
namespace TsRpc

open Lib Rpc Function

abbrev Regs := Registers 32

section

variable (regs : Regs)

def tsRpcAbiGetInterfaceId : BitVec 8 := (regs 0 >>> 16).setWidth 8

def tsRpcAbiIsManagementInterfaceId : Bool := tsRpcAbiGetInterfaceId regs = 0xff

def tsRpcAbiGetOpcode : BitVec 16 := (regs 0).setWidth 16

def tsRpcAbiGetMemoryHandle : BitVec 64 := regs 2 ++ regs 1

def tsRpcAbiGetUuid : BitVec 128 := regs 4 ++ regs 3 ++ regs 2 ++ regs 1

def tsRpcAbiGetRequestLength : BitVec 32 := regs 3

def tsRpcAbiGetClientId : BitVec 32 := regs 4

def tsRpcAbiSetVersion (version : BitVec 32) : Regs :=
  update regs 1 version

end

def rpcStatusCode : RpcStatus → BitVec 32
  | .success => 0
  | .errorInternal => -1
  | .errorInvalidValue => -2
  | .errorNotFound => -3
  | .errorInvalidState => -4
  | .errorTransportLayer => -5
  | .errorInvalidRequestBody => -6
  | .errorInvalidResponseBody => -7
  | .errorResourceFailure => -8
  | .other code => BitVec.ofInt 32 code

def tsRpcAbiSetRpcStatus (regs : Regs) (status : RpcStatus) : Regs :=
  update regs 1 (rpcStatusCode status)

def tsRpcAbiSetServiceStatus (regs : Regs) (status : BitVec 32) : Regs :=
  update regs 2 status

def tsRpcAbiSetQueriedInterfaceId (regs : Regs) (interfaceId : BitVec 8) : Regs :=
  update regs 2 (regs 2 &&& 0xffffff00 ||| interfaceId.setWidth 32)

def tsRpcAbiSetResponseLength (regs : Regs) (length : BitVec 32) : Regs :=
  update regs 3 length

def memHandleInvalid : BitVec 64 := BitVec.allOnes 64

/-- A request as a service receives it. Its buffer, for the request and the response, is an
address, or NULL. -/
structure ServiceRequest where
  sourceId : BitVec 16
  interfaceId : BitVec 8
  opcode : BitVec 16
  clientId : BitVec 32
  data : Option Nat
  dataLength : Nat
  size : Nat
  deriving DecidableEq, Repr

structure ServiceResponse where
  status : RpcStatus
  dataLength : Nat
  serviceStatus : BitVec 32

structure Service where
  uuid : BitVec 128
  receive : ServiceRequest → ServiceResponse

structure MemorySlot where
  ownerId : BitVec 16
  handle : BitVec 64
  data : Option Nat
  size : Nat
  used : Bool
  deriving DecidableEq, Repr

structure EndpointSp (count : Nat) where
  services : List (Option Service)
  sharedMemories : Fin count → MemorySlot

structure Region where
  address : Option Nat
  pageCount : BitVec 32
  deriving DecidableEq, Repr

variable {count : Nat}

def zeroSlot : MemorySlot := ⟨0, 0, none, 0, false⟩

def nullSharedMemory : MemorySlot := ⟨0xffff, memHandleInvalid, none, 0, true⟩

section

variable (endpoint : EndpointSp count)

def findFreeSharedMemory : Option (Fin count) :=
  (List.finRange count).find? fun slot => !(endpoint.sharedMemories slot).used

def findSharedMemory (ownerId : BitVec 16) (handle : BitVec 64) : Option (Fin count) :=
  (List.finRange count).find? fun slot =>
    (endpoint.sharedMemories slot).used && (endpoint.sharedMemories slot).ownerId == ownerId &&
      (endpoint.sharedMemories slot).handle == handle

def EndpointSp.setSlot (slot : Fin count) (memory : MemorySlot) : EndpointSp count :=
  { endpoint with sharedMemories := update endpoint.sharedMemories slot memory }

end

/-- The slot of retrieved memory. The size is computed in 32 bits. -/
def retrievedSlot (sourceId : BitVec 16) (handle : BitVec 64) (region : Region) : MemorySlot where
  ownerId := sourceId
  handle := handle
  data := region.address
  size := (region.pageCount * 4096).toNat
  used := true

/-- The outcome of `sp_memory_retrieve`. After a failure the memory may be retrieved all the same. -/
inductive Retrieval
  | failed (stillRetrieved : Bool)
  | retrieved (region : Region)
  deriving DecidableEq, Repr

/-- The calls out of the endpoint: `sp_memory_retrieve` and `sp_memory_relinquish` with their
outcomes, and `rpc_service_receive`. -/
inductive EndpointCall
  | retrieve (senderId : BitVec 16) (handle : BitVec 64) (outcome : Retrieval)
  | relinquish (handle : BitVec 64) (succeeded : Bool)
  | service (request : ServiceRequest)
  deriving DecidableEq, Repr

def handleMemoryRetrieve (retrieve : BitVec 16 → BitVec 64 → Retrieval)
    (endpoint : EndpointSp count) (sourceId : BitVec 16) (handle : BitVec 64) :
    RpcStatus × EndpointSp count × List EndpointCall :=
  match findFreeSharedMemory endpoint with
  | none => (.errorNotFound, endpoint, [])
  | some slot =>
    let outcome := retrieve sourceId handle
    let made := [.retrieve sourceId handle outcome]
    match outcome with
    | .failed _ => (.errorTransportLayer, endpoint, made)
    | .retrieved region =>
      (.success, endpoint.setSlot slot (retrievedSlot sourceId handle region), made)

def handleMemoryRelinquish (relinquish : BitVec 64 → Bool) (endpoint : EndpointSp count)
    (sourceId : BitVec 16) (handle : BitVec 64) :
    RpcStatus × EndpointSp count × List EndpointCall :=
  match findSharedMemory endpoint sourceId handle with
  | none => (.errorNotFound, endpoint, [])
  | some slot =>
    let memory := endpoint.sharedMemories slot
    let succeeded := relinquish memory.handle
    let made := [.relinquish memory.handle succeeded]
    if succeeded then (.success, endpoint.setSlot slot zeroSlot, made)
    else (.errorTransportLayer, endpoint, made)

/-- The services with their interface numbers. -/
def handleInterfaceIdQuery (services : List (Option Service)) (uuid : BitVec 128) : Option Nat :=
  services.findIdx? fun service => service.any fun service => service.uuid = uuid

/-- What the calls of `sp_memory_retrieve` and `sp_memory_relinquish` during a message give. -/
structure MemoryCalls where
  retrieve : BitVec 16 → BitVec 64 → Retrieval
  relinquish : BitVec 64 → Bool

def handleManagementInterface (calls : MemoryCalls) (endpoint : EndpointSp count)
    (sourceId : BitVec 16) (request response : Regs) :
    Regs × EndpointSp count × List EndpointCall :=
  match (tsRpcAbiGetOpcode request).toNat with
  | 0 => (tsRpcAbiSetVersion response 1, endpoint, [])
  | 1 =>
    let result := handleMemoryRetrieve calls.retrieve endpoint sourceId
      (tsRpcAbiGetMemoryHandle request)
    (tsRpcAbiSetRpcStatus response result.1, result.2)
  | 2 =>
    let result := handleMemoryRelinquish calls.relinquish endpoint sourceId
      (tsRpcAbiGetMemoryHandle request)
    (tsRpcAbiSetRpcStatus response result.1, result.2)
  | 3 =>
    match handleInterfaceIdQuery endpoint.services (tsRpcAbiGetUuid request) with
    | some interfaceId =>
      (tsRpcAbiSetRpcStatus
        (tsRpcAbiSetQueriedInterfaceId response (BitVec.ofNat 8 interfaceId)) .success,
        endpoint, [])
    | none => (tsRpcAbiSetRpcStatus response .errorNotFound, endpoint, [])
  | _ => (tsRpcAbiSetRpcStatus response .errorInvalidValue, endpoint, [])

section

variable (endpoint : EndpointSp count) (sourceId : BitVec 16)

/-- The memory that a request names: that of a slot, or none. -/
def requestMemory (handle : BitVec 64) : Option MemorySlot :=
  if handle ≠ memHandleInvalid then
    (findSharedMemory endpoint sourceId handle).map endpoint.sharedMemories
  else some nullSharedMemory

/-- The request that goes to a service, or the status if none does. -/
def serviceRequest (request : Regs) : Except RpcStatus (Service × ServiceRequest) :=
  match endpoint.services[(tsRpcAbiGetInterfaceId request).toNat]? with
  | none => .error .errorInvalidValue
  | some none => .error .errorInternal
  | some (some service) =>
    match requestMemory endpoint sourceId (tsRpcAbiGetMemoryHandle request) with
    | none => .error .errorNotFound
    | some memory =>
      if (tsRpcAbiGetRequestLength request).toNat > memory.size then
        .error .errorInvalidValue
      else
        .ok (service,
          { sourceId := sourceId
            interfaceId := tsRpcAbiGetInterfaceId request
            opcode := tsRpcAbiGetOpcode request
            clientId := tsRpcAbiGetClientId request
            data := memory.data
            dataLength := (tsRpcAbiGetRequestLength request).toNat
            size := memory.size })

def handleServiceInterfaces (request response : Regs) : Regs × List EndpointCall :=
  match serviceRequest endpoint sourceId request with
  | .error status => (tsRpcAbiSetRpcStatus response status, [])
  | .ok (service, serviceRequest) =>
    let reply := service.receive serviceRequest
    (if reply.status = .success then
      tsRpcAbiSetRpcStatus
        (tsRpcAbiSetServiceStatus
          (tsRpcAbiSetResponseLength response (BitVec.ofNat 32 reply.dataLength))
          reply.serviceStatus)
        .success
    else tsRpcAbiSetRpcStatus response reply.status, [.service serviceRequest])

end

structure Message where
  sourceId : BitVec 16
  destinationId : BitVec 16
  is64bitMessage : Bool
  args : Regs

def tsRpcEndpointSpReceive (calls : MemoryCalls) (endpoint : EndpointSp count)
    (request : Message) : Message × EndpointSp count × List EndpointCall :=
  let response : Regs := update (fun _ => 0) 0 (request.args 0)
  let result :=
    if request.is64bitMessage = false then
      if tsRpcAbiIsManagementInterfaceId request.args then
        handleManagementInterface calls endpoint request.sourceId request.args response
      else
        let handled :=
          handleServiceInterfaces endpoint request.sourceId request.args response
        (handled.1, endpoint, handled.2)
    else (tsRpcAbiSetRpcStatus response .errorInvalidValue, endpoint, [])
  (⟨request.destinationId, request.sourceId, request.is64bitMessage, result.1⟩, result.2)

end TsRpc
