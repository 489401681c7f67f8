import TrustedServices.LibSp.Messaging
import TrustedServices.Tpm.LocalityIsolation

/- The status of a START request on its way from the provider to the response. -/
namespace Tpm

open Lib LibSp

/-- The arguments of a message in 64-bit registers, those of a 32-bit message zero extended. -/
def msgRegisters (msg : SpMsg) : CrbRequest :=
  if msg.is64bitMessage then ArgWords.args64 msg.args
  else fun register => (ArgWords.args32 msg.args register).setWidth 64

/-- The registers as arguments, truncated to 32 bits in a 32-bit message. -/
def registerArgs (is64bitMessage : Bool) (registers : CrbRequest) : ArgWords :=
  if is64bitMessage then fun word =>
    (registers ⟨word.val / 2, by omega⟩).extractLsb' (word.val % 2 * 32) 32
  else Args32.words fun register => (registers register).setWidth 32

/-- Cleared registers but for the status. -/
def tpmCrbFfaSetStatus (status : BitVec 32) : CrbRequest := fun register =>
  if register = 1 then status.setWidth 64 else 0

def handleManagementCommand (request : CrbRequest) : CrbRequest :=
  if request 1 = 0x0f000001 then
    Function.update (tpmCrbFfaSetStatus 0x05000002) 2 0x00010000
  else if request 1 ∈ [0x0f000101, 0x0f000301, 0x0f000401, 0x0f000501] then
    tpmCrbFfaSetStatus tpmErrorNotsup
  else tpmCrbFfaSetStatus 0x8e000001

section

variable {State : Type} (backend : TpmBackend State) (tpm : State) (memory : Memory CrbRegion)

/-- The registers of the response. They stay cleared if the first of the request is not zero. -/
def respCopy (reqCopy : CrbRequest) : CrbProgram (CrbRequest × State) :=
  if reqCopy 0 ≠ 0 then return (0, tpm)
  else if reqCopy 1 = tpmFuncStart then do
    let (status, tpm) ← handleStartCommand backend tpm reqCopy
    return (tpmCrbFfaSetStatus status, tpm)
  else return (handleManagementCommand reqCopy, tpm)

def tpmCrbFfaEndpointReceive (request : SpMsg) : CrbProgram (SpMsg × State) := do
  let (registers, tpm) ← respCopy backend tpm (msgRegisters request)
  return (⟨request.destinationId, request.sourceId, request.is64bitMessage,
    registerArgs request.is64bitMessage registers⟩, tpm)

def startHandler : StartQualifier × Locality → CrbProgram (CrbOutcome State)
  | (.command, locality) => commandHandler backend tpm locality
  | (.localityReq, locality) => localityReqHandler tpm locality

/-- The handler carries out what it is asked for. -/
def CarriedOut (handler : CrbProgram (CrbOutcome State)) : Prop :=
  (handler memory).value.1 = .success

def responseStatus (request : SpMsg) : BitVec 32 :=
  (msgRegisters (tpmCrbFfaEndpointReceive backend tpm request memory).value.1 1).setWidth 32

/-- The client can tell from the status what became of its request. -/
structure Truthful (request : SpMsg) : Prop where
  ok : responseStatus backend tpm memory request = tpmStatusOk →
    ∃ start, decodeStart (msgRegisters request) = some start ∧
      CarriedOut memory (startHandler backend tpm start)
  failed : ∀ start, decodeStart (msgRegisters request) = some start →
    ¬ CarriedOut memory (startHandler backend tpm start) →
    responseStatus backend tpm memory request = (startHandler backend tpm start memory).value.2.1
  unchanged : responseStatus backend tpm memory request ≠ tpmStatusOk →
    (tpmCrbFfaEndpointReceive backend tpm request memory).memory = memory

variable {request : SpMsg}

end

end Tpm
