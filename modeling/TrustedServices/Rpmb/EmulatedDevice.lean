import TrustedServices.Lib.Fields

/- The emulated RPMB device, over a memory that holds request and response frames. -/
namespace Rpmb

open Lib

/-- The fields of a frame, in their order. -/
structure DataFrame where
  stuffBytes : Field 196
  keyMac : Field 32
  data : Field 256
  nonce : Field 16
  writeCounter : Field 4
  address : Field 2
  blockCount : Field 2
  opResult : Field 2
  msgType : Field 2

def frameSize : Nat := 512

def rpmbDataSize : Nat := 256

def DataFrame.zero : DataFrame :=
  ⟨fun _ => 0, fun _ => 0, fun _ => 0, fun _ => 0, fun _ => 0, fun _ => 0, fun _ => 0,
    fun _ => 0, fun _ => 0⟩

def DataFrame.byte (frame : DataFrame) (offset : Nat) : UInt8 :=
  if offset < 196 then frame.stuffBytes.byte offset
  else if offset < 228 then frame.keyMac.byte (offset - 196)
  else if offset < 484 then frame.data.byte (offset - 228)
  else if offset < 500 then frame.nonce.byte (offset - 484)
  else if offset < 504 then frame.writeCounter.byte (offset - 500)
  else if offset < 506 then frame.address.byte (offset - 504)
  else if offset < 508 then frame.blockCount.byte (offset - 506)
  else if offset < 510 then frame.opResult.byte (offset - 508)
  else frame.msgType.byte (offset - 510)

abbrev Memory := Nat → UInt8

def DataFrame.load (memory : Memory) (start : Nat) : DataFrame where
  stuffBytes := Field.load memory start 196
  keyMac := Field.load memory (start + 196) 32
  data := Field.load memory (start + 228) 256
  nonce := Field.load memory (start + 484) 16
  writeCounter := Field.load memory (start + 500) 4
  address := Field.load memory (start + 504) 2
  blockCount := Field.load memory (start + 506) 2
  opResult := Field.load memory (start + 508) 2
  msgType := Field.load memory (start + 510) 2

def DataFrame.store (memory : Memory) (start : Nat) (frame : DataFrame) : Memory :=
  fun address =>
    if start ≤ address ∧ address < start + frameSize then frame.byte (address - start)
    else memory address

/-- The part of a frame that is hashed: the data and all that follows it. -/
def DataFrame.hashed (frame : DataFrame) : Bytes :=
  List.ofFn frame.data ++ List.ofFn frame.nonce ++ List.ofFn frame.writeCounter ++
    List.ofFn frame.address ++ List.ofFn frame.blockCount ++ List.ofFn frame.opResult ++
    List.ofFn frame.msgType

def u16ToRpmbField (word : Nat) : Field 2 := Field.ofBeWord 2 word

def u16FromRpmbField (field : Field 2) : Nat := field.beWord

def u32ToRpmbField (word : BitVec 32) : Field 4 := Field.ofBeWord 4 word.toNat

def u32FromRpmbField (field : Field 4) : BitVec 32 := BitVec.ofNat 32 field.beWord

inductive RequestType
  | authenticationKeyWrite
  | readWriteCounter
  | authenticatedDataWrite
  | authenticatedDataRead
  | resultRead
  deriving DecidableEq, Repr

def RequestType.code : RequestType → Nat
  | .authenticationKeyWrite => 0x0001
  | .readWriteCounter => 0x0002
  | .authenticatedDataWrite => 0x0003
  | .authenticatedDataRead => 0x0004
  | .resultRead => 0x0005

/-- The requests the device handles. -/
def requestTypeOf : Nat → Option RequestType
  | 0x0001 => some .authenticationKeyWrite
  | 0x0002 => some .readWriteCounter
  | 0x0003 => some .authenticatedDataWrite
  | 0x0004 => some .authenticatedDataRead
  | 0x0005 => some .resultRead
  | _ => none

def respAuthenticationKeyWrite : Nat := 0x0100
def respReadWriteCounter : Nat := 0x0200
def respAuthenticatedDataWrite : Nat := 0x0300
def respAuthenticatedDataRead : Nat := 0x0400

def resOk : Nat := 0x0000
def resGeneralFailure : Nat := 0x0001
def resAuthenticationFailure : Nat := 0x0002
def resCounterFailure : Nat := 0x0003
def resAddressFailure : Nat := 0x0004
def resWriteFailure : Nat := 0x0005
def resKeyNotProgrammed : Nat := 0x0007
def resCounterExpired : Nat := 0x0080

abbrev PsaStatus := Int32

def psaSuccess : PsaStatus := 0
def psaErrorGenericError : PsaStatus := -132
def psaErrorInvalidArgument : PsaStatus := -135
def psaErrorBufferTooSmall : PsaStatus := -138

structure EmulatedDevice where
  buffer : Nat → UInt8
  bufferSize : Nat
  key : Field 32
  keyProgrammed : Bool
  writeCounter : BitVec 32
  /-- The frame a result read returns. -/
  result : DataFrame

variable (digest : Bytes → Field 32) (device : EmulatedDevice)

def calculateMac (key : Field 32) (frames : List DataFrame) : Field 32 :=
  digest (List.ofFn key ++ frames.flatMap DataFrame.hashed)

section

variable (request : DataFrame)

def authenticationKeyWrite : EmulatedDevice :=
  let response (result : Nat) : DataFrame :=
    { DataFrame.zero with
      opResult := u16ToRpmbField result
      msgType := u16ToRpmbField respAuthenticationKeyWrite }
  if device.keyProgrammed then { device with result := response resGeneralFailure }
  else { device with
    key := request.keyMac, keyProgrammed := true, result := response resOk }

/-- The nonce is copied before the response is cleared. -/
def readWriteCounter : DataFrame :=
  let response : DataFrame :=
    { DataFrame.zero with msgType := u16ToRpmbField respReadWriteCounter }
  if device.keyProgrammed then
    let counted : DataFrame :=
      { response with
        nonce := request.nonce
        writeCounter := u32ToRpmbField device.writeCounter
        opResult := u16ToRpmbField resOk }
    { counted with keyMac := calculateMac digest device.key [counted] }
  else { response with opResult := u16ToRpmbField resKeyNotProgrammed }

def checkWriteRequest : Nat :=
  if device.writeCounter = 0xffffffff then resCounterExpired ||| resWriteFailure
  else if u16FromRpmbField request.address * rpmbDataSize ≥ device.bufferSize then
    resAddressFailure
  else if u16FromRpmbField request.blockCount ≠ 1 then resGeneralFailure
  else if calculateMac digest device.key [request] ≠ request.keyMac then
    resAuthenticationFailure
  else if device.writeCounter ≠ u32FromRpmbField request.writeCounter then resCounterFailure
  else resOk

def EmulatedDevice.written : EmulatedDevice :=
  { device with
    buffer := Field.store device.buffer (u16FromRpmbField request.address * rpmbDataSize)
      request.data
    writeCounter := device.writeCounter + 1 }

/-- The MAC of the result is calculated before its code is filled in. -/
def authenticatedDataWrite : EmulatedDevice :=
  let response : DataFrame :=
    { DataFrame.zero with msgType := u16ToRpmbField respAuthenticatedDataWrite }
  if device.keyProgrammed then
    let result := checkWriteRequest digest device request
    let device := if result = resOk then device.written request else device
    let answered : DataFrame :=
      { response with
        address := request.address
        writeCounter := u32ToRpmbField device.writeCounter }
    { device with
      result :=
        { answered with
          keyMac := calculateMac digest device.key [answered]
          opResult := u16ToRpmbField result } }
  else
    { device with result := { response with opResult := u16ToRpmbField resKeyNotProgrammed } }

/-- The checks of a read. The products and the sum fit their types. -/
def checkReadRequest : Nat :=
  let address := u16FromRpmbField request.address * rpmbDataSize
  let blockCount := u16FromRpmbField request.blockCount
  if address ≥ device.bufferSize then resAddressFailure
  else if blockCount = 0 then resGeneralFailure
  else if address + blockCount * rpmbDataSize > device.bufferSize then resAddressFailure
  else resOk

end

def dataReadBlock (address : Nat) (request : DataFrame) (i : Nat) : DataFrame :=
  { DataFrame.zero with
    data := Field.load device.buffer (address + i * rpmbDataSize) rpmbDataSize
    nonce := request.nonce
    address := request.address
    blockCount := request.blockCount
    opResult := u16ToRpmbField resOk
    msgType := u16ToRpmbField respAuthenticatedDataRead }

def dataReadUnprogrammed : DataFrame :=
  { DataFrame.zero with
    opResult := u16ToRpmbField resKeyNotProgrammed
    msgType := u16ToRpmbField respAuthenticatedDataRead }

/-- The response frames of the first blocks of a read. The fields of the request are read anew for
every block. -/
def dataReadLoop (address request response count : Nat) (memory : Memory) : Memory :=
  (List.range count).foldl (fun memory i =>
    DataFrame.store memory (response + frameSize * i)
      (dataReadBlock device address (DataFrame.load memory request) i)) memory

/-- The MAC covers all the frames of the response and is stored in the last one. -/
def storeReadMac (response count : Nat) (memory : Memory) : Memory :=
  Field.store memory (response + frameSize * (count - 1) + 196)
    (calculateMac digest device.key
      ((List.range count).map fun i => DataFrame.load memory (response + frameSize * i)))

/-- The memory and the number of response frames, from the addresses of the request and of the
response frames that are left. -/
def authenticatedDataRead (memory : Memory) (request response room : Nat) :
    Except PsaStatus (Memory × Nat) :=
  let frame := DataFrame.load memory request
  if device.keyProgrammed then
    if checkReadRequest device frame = resOk then
      let blockCount := u16FromRpmbField frame.blockCount
      if blockCount > room then .error psaErrorBufferTooSmall
      else
        let read := dataReadLoop device (u16FromRpmbField frame.address * rpmbDataSize)
          request response blockCount memory
        .ok (storeReadMac digest device response blockCount read, blockCount)
    else .ok (memory, 0)
  else .ok (DataFrame.store memory response dataReadUnprogrammed, 1)

structure Serving where
  device : EmulatedDevice
  memory : Memory
  respIndex : Nat

def Serving.respond (serving : Serving) (responses room : Nat) (frame : DataFrame) :
    Except PsaStatus Serving :=
  if serving.respIndex < room then
    .ok { serving with
      memory := DataFrame.store serving.memory (responses + frameSize * serving.respIndex) frame
      respIndex := serving.respIndex + 1 }
  else .error psaErrorBufferTooSmall

def serveFrame (responses room request : Nat) (serving : Serving) : Except PsaStatus Serving :=
  let frame := DataFrame.load serving.memory request
  match requestTypeOf (u16FromRpmbField frame.msgType) with
  | some .authenticationKeyWrite =>
    .ok { serving with device := authenticationKeyWrite serving.device frame }
  | some .readWriteCounter =>
    serving.respond responses room (readWriteCounter digest serving.device frame)
  | some .authenticatedDataWrite =>
    .ok { serving with device := authenticatedDataWrite digest serving.device frame }
  | some .authenticatedDataRead =>
    if serving.respIndex < room then
      match authenticatedDataRead digest serving.device serving.memory request
          (responses + frameSize * serving.respIndex) (room - serving.respIndex) with
      | .error status => .error status
      | .ok (memory, count) =>
        .ok { serving with memory := memory, respIndex := serving.respIndex + count }
    else .error psaErrorBufferTooSmall
  | some .resultRead => serving.respond responses room serving.device.result
  | none => .error psaErrorInvalidArgument

/-- The service of the request frames from an address on. An error ends it, with the state of the
frames before. -/
def serveFrames (responses room : Nat) : Nat → Nat → Serving → PsaStatus × Serving
  | 0, _, serving => (psaSuccess, serving)
  | count + 1, request, serving =>
    match serveFrame digest responses room request serving with
    | .error status => (status, serving)
    | .ok serving => serveFrames responses room count (request + frameSize) serving

/-- A list of request frames at one address, and room for response frames at another. -/
def rpmbBackendEmulatedDataRequest (devId : BitVec 32) (memory : Memory)
    (requests requestCount responses room : Nat) : PsaStatus × Serving :=
  if devId ≠ 0 then (psaErrorInvalidArgument, ⟨device, memory, 0⟩)
  else serveFrames digest responses room requestCount requests ⟨device, memory, 0⟩

end Rpmb
