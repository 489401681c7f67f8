import TrustedServices.Lib.Confinement
import TrustedServices.Lib.Registers
import TrustedServices.Rpc.Request

/- TPM services over command-response buffers, with a record of the memory accessed. -/
namespace Tpm

open Lib Rpc

/-- The two regions of memory: localities 0 to 3 share the non-secure one. -/
inductive CrbRegion
  | nonSecure
  | secure
  deriving DecidableEq, Repr

abbrev Locality := Fin 5

def Locality.region (locality : Locality) : CrbRegion :=
  if locality.val < 4 then .nonSecure else .secure

/-- Where the registers of a locality start in their region: `loc_ptr`. -/
def Locality.base (locality : Locality) : Nat :=
  if locality.val < 4 then locality.val * 0x1000 else 0

def crbDataBufSize : Nat := 0x800

/-- The offsets of the fields of `loc_and_crb_ctrl`. -/
def locStateOffset : Nat := 0x00
def locCtrlOffset : Nat := 0x08
def locStatusOffset : Nat := 0x0c
def ctrlStartOffset : Nat := 0x4c
def dataBufferOffset : Nat := 0x80

/-- The size of `loc_and_crb_ctrl`. -/
def locAndCrbCtrlSize : Nat := dataBufferOffset + crbDataBufSize

abbrev CrbProgram := Accessing CrbRegion

def loadField (locality : Locality) (offset : Nat) : CrbProgram (BitVec 32) := do
  let word ← Accessing.loadWord locality.region (locality.base + offset) 4
  return BitVec.ofNat 32 word

def storeField (locality : Locality) (offset : Nat) (value : BitVec 32) : CrbProgram Unit :=
  Accessing.store locality.region (locality.base + offset) (leBytes 4 value.toNat)

def tpmStatusOk : BitVec 32 := 0x05000001
def tpmErrorNotsup : BitVec 32 := 0x8e000002
def tpmErrorInvarg : BitVec 32 := 0x8e000005
def tpmErrorInvCrbCtrlData : BitVec 32 := 0x8e000006

def crbCtrlStartCommand : BitVec 32 := 1
def locCtrlRequestAccess : BitVec 32 := 1
def locCtrlRelinquish : BitVec 32 := 2
def locStatusGranted : BitVec 32 := 1
def locStateLocAssigned : BitVec 32 := 2
def locStateActiveLocality : BitVec 32 := 7 <<< 2
def locStateTpmRegValidStatus : BitVec 32 := 0x80

/-- The TPM behind the provider. It reads the request it is given and writes a response of at most
the size it is given. -/
structure TpmBackend (State : Type) where
  execute : State → Bytes → Nat → Bytes × State
  bounded : ∀ state request respMaxSize,
    (execute state request respMaxSize).1.length ≤ respMaxSize

variable {State : Type} (backend : TpmBackend State)

/-- The RPC status, the service status and the state of the TPM after a request. -/
abbrev CrbOutcome (State : Type) := RpcStatus × BitVec 32 × State

/-- Stores a locality state in the register of each locality. -/
def setLocState (locState : BitVec 32) : List Locality → CrbProgram Unit
  | [] => pure ()
  | locality :: rest => do
      storeField locality locStateOffset locState
      setLocState locState rest

def setLocStateAll (locState : BitVec 32) : CrbProgram Unit :=
  setLocState locState (List.finRange 5)

def tpmGetRequestLength (locality : Locality) : CrbProgram Nat := do
  let length ← Accessing.load locality.region (locality.base + dataBufferOffset + 2) 4
  return beNat length

/-- The size of a page, which the handler takes for the size of the data buffer. -/
def crbSize : Nat := 4096

def commandHandler (tpm : State) (locality : Locality) : CrbProgram (CrbOutcome State) := do
  let ctrlStart ← loadField locality ctrlStartOffset
  if ctrlStart &&& crbCtrlStartCommand = 0 then
    return (.errorInternal, tpmErrorInvCrbCtrlData, tpm)
  else
    let reqLen ← tpmGetRequestLength locality
    if reqLen = 0 ∨ crbSize < reqLen then
      return (.errorInternal, tpmErrorInvCrbCtrlData, tpm)
    else
      let request ←
        Accessing.load locality.region (locality.base + dataBufferOffset) reqLen
      let (response, tpm) := backend.execute tpm request crbSize
      Accessing.store locality.region (locality.base + dataBufferOffset) response
      let ctrlStart ← loadField locality ctrlStartOffset
      storeField locality ctrlStartOffset (ctrlStart &&& ~~~ crbCtrlStartCommand)
      return (.success, tpmStatusOk, tpm)

section

variable (locality : Locality)

/-- The three rounds in which the locality state is changed: invalid, changed, valid again. -/
def updateLocState (change : BitVec 32 → BitVec 32) : CrbProgram Unit := do
  let locState ← loadField locality locStateOffset
  let locState := locState &&& ~~~ locStateTpmRegValidStatus
  setLocStateAll locState
  let locState := change locState
  setLocStateAll locState
  setLocStateAll (locState ||| locStateTpmRegValidStatus)

/-- Changes a register of the locality in place. -/
def updateField (offset : Nat) (change : BitVec 32 → BitVec 32) : CrbProgram Unit := do
  let value ← loadField locality offset
  storeField locality offset (change value)

def requestAccess : CrbProgram Unit := do
  updateLocState locality fun locState =>
    (locState &&& ~~~ locStateActiveLocality ||| BitVec.ofNat 32 locality.val <<< 2) |||
      locStateLocAssigned
  updateField locality locStatusOffset (· ||| locStatusGranted)
  updateField locality locCtrlOffset (· &&& ~~~ locCtrlRequestAccess)

def relinquish : CrbProgram Unit := do
  updateLocState locality fun locState =>
    locState &&& ~~~ locStateActiveLocality &&& ~~~ locStateLocAssigned
  updateField locality locStatusOffset (· &&& ~~~ locStatusGranted)
  updateField locality locCtrlOffset (· &&& ~~~ locCtrlRelinquish)

/-- Runs the program if the control register of the locality has one of the bits. -/
def whenRequested (bits : BitVec 32) (program : CrbProgram Unit) : CrbProgram Unit := do
  let locCtrl ← loadField locality locCtrlOffset
  if locCtrl &&& bits = 0 then pure () else program

end

def localityReqHandler (tpm : State) (locality : Locality) : CrbProgram (CrbOutcome State) :=
  if locality = 4 then return (.errorInternal, tpmErrorNotsup, tpm)
  else do
    whenRequested locality locCtrlRequestAccess (requestAccess locality)
    whenRequested locality locCtrlRelinquish (relinquish locality)
    return (.success, tpmStatusOk, tpm)

def tpmFuncStart : BitVec 64 := 0x0f000201

inductive StartQualifier
  | command
  | localityReq
  deriving DecidableEq, Repr

/-- The registers of a message, the first of which has to be zero. -/
abbrev CrbRequest := Registers 64

/-- The qualifiers of a START request: their lowest bytes are read. -/
def decodeStart (request : CrbRequest) : Option (StartQualifier × Locality) :=
  if request 0 = 0 ∧ request 1 = tpmFuncStart then
    let commandType := (request 2).setWidth 8
    let locality := ((request 3).setWidth 8).toNat
    if commandType = 0 ∨ commandType = 1 then
      if inside : locality < 5 then
        some (if commandType = 0 then .command else .localityReq, ⟨locality, inside⟩)
      else none
    else none
  else none

/-- The status that is returned, and the TPM. It is overwritten after a failure, too. -/
def handleStartCommand (tpm : State) (request : CrbRequest) : CrbProgram (BitVec 32 × State) :=
  match decodeStart request with
  | none => return (tpmErrorInvarg, tpm)
  | some (.command, locality) => do
      let outcome ← commandHandler backend tpm locality
      return (tpmStatusOk, outcome.2.2)
  | some (.localityReq, locality) => do
      let outcome ← localityReqHandler tpm locality
      return (tpmStatusOk, outcome.2.2)

end Tpm
