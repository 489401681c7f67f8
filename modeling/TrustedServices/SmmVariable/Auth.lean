import TrustedServices.SmmVariable.Store

/- Authentication descriptors, signature lists, and the checks made against them. -/
namespace SmmVariable

open Lib

def efiGlobalVariable : EfiGuid := ⟨0x8BE4DF61, 0x93CA, 0x11D2, 0x8C2B0398E0000DAA⟩
def efiImageSecurityDatabaseGuid : EfiGuid := ⟨0xD719B2CB, 0x3D3A, 0x4596, 0x6F65670ED0DABCA3⟩
def efiCertX509Guid : EfiGuid := ⟨0xA5C059A1, 0x94E4, 0x4AA7, 0x72F02B5C15ABB587⟩
def efiCertTypePkcs7Guid : EfiGuid := ⟨0x4AAFD29D, 0x68DF, 0x49EE, 0xA76556377D34A98A⟩

/-- The names are UTF-16 strings with their terminator. -/
def efiPlatformKeyName : Bytes := [0x50, 0, 0x4B, 0, 0, 0]
def efiKeyExchangeKeyName : Bytes := [0x4B, 0, 0x45, 0, 0x4B, 0, 0, 0]
def efiImageSecurityDatabase : Bytes := [0x64, 0, 0x62, 0, 0, 0]
def efiImageSecurityDatabase1 : Bytes := [0x64, 0, 0x62, 0, 0x78, 0, 0, 0]
def efiImageSecurityDatabase2 : Bytes := [0x64, 0, 0x62, 0, 0x74, 0, 0, 0]
def efiImageSecurityDatabase3 : Bytes := [0x64, 0, 0x62, 0, 0x72, 0, 0, 0]

def winCertCurrentVersion : Nat := 0x0200
def winCertTypeEfiGuid : Nat := 0x0EF1
def efiVariableAuthentication2SizeWithoutCertdata : Nat := 40

/-- The fields of a variable with an authentication descriptor. -/
structure EfiDataMap where
  timeStamp : EfiTime
  wCertificateType : Nat
  certType : EfiGuid
  certData : Bytes
  efiAuthDescriptorLen : Nat
  payload : Bytes
  deriving DecidableEq, Repr

/-- The map of a variable that carries an authentication descriptor. -/
def initEfiDataMap (data : Bytes) : Option EfiDataMap :=
  if data.length < efiVariableAuthentication2SizeWithoutCertdata then none
  else
    let dwLength := leNat (slice data 16 4)
    let wRevision := leNat (slice data 20 2)
    let wCertificateType := leNat (slice data 22 2)
    let certType := EfiGuid.ofBytes (slice data 24 16)
    let efiAuthDescriptorLen := 16 + dwLength
    if data.length < efiAuthDescriptorLen then none
    else if dwLength < 8 then none
    else if dwLength - 8 < 16 then none
    else if data.length < dwLength - 24 then none
    else if wRevision = winCertCurrentVersion ∧ wCertificateType = winCertTypeEfiGuid ∧
        compareGuid efiCertTypePkcs7Guid certType ∧
        efiVariableAuthentication2SizeWithoutCertdata ≤ efiAuthDescriptorLen then
      some
        { timeStamp := EfiTime.ofBytes (slice data 0 16)
          wCertificateType := wCertificateType
          certType := certType
          certData := slice data 40 (dwLength - 24)
          efiAuthDescriptorLen := efiAuthDescriptorLen
          payload := data.drop efiAuthDescriptorLen }
    else none

/-- The bytes that a request's signature covers; the name loses its terminator. -/
def variableHashInput (variable_ : AccessVariable) (map : EfiDataMap) : Bytes :=
  variable_.name.take (variable_.name.length - 2) ++ (variable_.guid.toBytes ++
    (leBytes 4 variable_.attributes.toNat ++ (map.timeStamp.toBytes ++ map.payload)))

def calcVariableHash (env : Env) (variable_ : AccessVariable) (map : EfiDataMap) : Option Bytes :=
  env.hash (variableHashInput variable_ map)

def isPrivateAuthVar (name : Bytes) : Bool :=
  !(name == efiPlatformKeyName || name == efiKeyExchangeKeyName ||
    name == efiImageSecurityDatabase || name == efiImageSecurityDatabase1 ||
    name == efiImageSecurityDatabase2 || name == efiImageSecurityDatabase3)

/-- The key variables, all of the global GUID, that may sign the variable. -/
def selectVerificationKeys (guid : EfiGuid) (name : Bytes) : Except EfiStatus (List Bytes) :=
  if name == efiPlatformKeyName then
    if compareGuid guid efiGlobalVariable then .ok [efiPlatformKeyName]
    else .error .securityViolation
  else if name == efiKeyExchangeKeyName then
    if compareGuid guid efiGlobalVariable then .ok [efiPlatformKeyName]
    else .error .securityViolation
  else if name == efiImageSecurityDatabase || name == efiImageSecurityDatabase1 ||
      name == efiImageSecurityDatabase2 || name == efiImageSecurityDatabase3 then
    if compareGuid guid efiImageSecurityDatabaseGuid then
      .ok [efiPlatformKeyName, efiKeyExchangeKeyName]
    else .error .securityViolation
  else .ok []

/-- What `verify_var_by_key_var` does with a payload. The header of a list is read as a whole. -/
inductive WalkStep
  | header (offset : Nat)
  | divide (divisor : Nat)
  | certificate (offset size : Nat)
  deriving DecidableEq, Repr

section

variable (env : Env) (map : EfiDataMap) (hash : Bytes)

/-- The bytes of a key variable from its payload on: behind the payload follows
whatever the heap holds. -/
def keyMemory (payload : Bytes) (offset : Nat) : UInt8 :=
  payload.getD offset (env.heap offset)

def readMemory (memory : Nat → UInt8) (offset size : Nat) : Bytes :=
  (List.range size).map fun index => memory (offset + index)

/-- The inner loop of `verify_var_by_key_var` over `count` certificates, with its steps. -/
def verifyByCertificates (memory : Nat → UInt8) (signatureSize : Nat) :
    Nat → Nat → Bool × List WalkStep
  | 0, _ => (false, [])
  | count + 1, currentSignature =>
    let nextCertificateSize := (2 ^ 64 + signatureSize - 16) % 2 ^ 64
    let later :=
      if env.verifyPkcs7Signature map.certData hash
          (readMemory memory (currentSignature + 16) nextCertificateSize) then (true, [])
      else verifyByCertificates memory signatureSize count (currentSignature + signatureSize)
    (later.1, .certificate (currentSignature + 16) nextCertificateSize :: later.2)

/-- The outer loop of `verify_var_by_key_var`, with its steps. A list of size zero is visited
for ever, and a zero signature size divides by zero. -/
def verifyBySignatureLists (memory : Nat → UInt8) :
    Nat → Nat → Nat → EfiStatus × List WalkStep
  | 0, _, _ => (.noReturn, [])
  | fuel + 1, currentSignatureList, remainingData =>
    let signatureListSize := leNat (readMemory memory (currentSignatureList + 16) 4)
    let signatureHeaderSize := leNat (readMemory memory (currentSignatureList + 20) 4)
    let signatureSize := leNat (readMemory memory (currentSignatureList + 24) 4)
    if remainingData = 0 then (.securityViolation, [])
    else if signatureListSize ≤ remainingData then
      if compareGuid (EfiGuid.ofBytes (readMemory memory currentSignatureList 16))
          efiCertX509Guid then
        if signatureSize = 0 then (.noReturn, [.header currentSignatureList, .divide 0])
        else
          let numberOfSignatures :=
            ((2 ^ 64 + signatureListSize - 28 - signatureHeaderSize) % 2 ^ 64) / signatureSize
          let certificates := verifyByCertificates env map hash memory signatureSize
            numberOfSignatures (currentSignatureList + 28 + signatureHeaderSize)
          let later :=
            if certificates.1 then (.success, [])
            else verifyBySignatureLists memory fuel (currentSignatureList + signatureListSize)
              (remainingData - signatureListSize)
          (later.1, .header currentSignatureList :: .divide signatureSize ::
            (certificates.2 ++ later.2))
      else (.invalidParameter, [.header currentSignatureList])
    else (.securityViolation, [.header currentSignatureList])

/-- The walk through the payload of a key variable. -/
def walkKeyVar (payload : Bytes) : EfiStatus × List WalkStep :=
  verifyBySignatureLists env map hash (keyMemory env payload) (payload.length + 1) 0 payload.length

def verifyVarByKeyVar (payload : Bytes) : EfiStatus := (walkKeyVar env map hash payload).1

end

/-- The loop over the allowed key variables. A variable that could not be
allocated is skipped, and the last status stands. -/
def verifyByKeyVariables (env : Env) (map : EfiDataMap) (hash : Bytes) (maxVariableSize : Nat) :
    EfiStatus → List (Nat × Bytes) → UefiVariableStore → EfiStatus × UefiVariableStore
  | status, [], store => (status, store)
  | status, (index, name) :: rest, store =>
    if !env.malloc (.allowedKeyStoreVariable index) then
      verifyByKeyVariables env map hash maxVariableSize status rest store
    else
      let key := uefiVariableStoreGetVariable env store efiGlobalVariable name maxVariableSize
        maxVariableSize
      if key.1.status ≠ .success then
        (if key.1.status = .notFound then .securityViolation else key.1.status, key.2)
      else
        let verified := verifyVarByKeyVar env map hash key.1.data
        if verified = .success ∨ verified = .noReturn then (verified, key.2)
        else verifyByKeyVariables env map hash maxVariableSize verified rest key.2

def authenticateSecureBootVariable (env : Env) (store : UefiVariableStore)
    (variable_ : AccessVariable) (map : EfiDataMap) (hash : Bytes) (maxVariableSize : Nat) :
    EfiStatus × UefiVariableStore :=
  if !env.malloc .pkVariable then (.outOfResources, store)
  else
    let pk := uefiVariableStoreGetVariable env store efiGlobalVariable efiPlatformKeyName
      maxVariableSize maxVariableSize
    if pk.1.status = .notFound then (.success, pk.2)
    else if pk.1.status ≠ .success then (.securityViolation, pk.2)
    else if pk.1.dataSize = 0 then (.success, pk.2)
    else
      match selectVerificationKeys variable_.guid variable_.name with
      | .error status => (status, pk.2)
      | .ok names =>
        verifyByKeyVariables env map hash maxVariableSize .success
          ((List.range names.length).zip names) pk.2

def authenticatePrivateVariable (env : Env) (map : EfiDataMap) (hash : Bytes) (newVariable : Bool)
    (fingerprint : BitVec 256) : Except EfiStatus (BitVec 256) :=
  if !env.verifyPkcs7Signature map.certData hash [] then .error .securityViolation
  else
    match env.fingerprint map.certData with
    | none => .error .securityViolation
    | some newFingerprint =>
      if !newVariable then
        if newFingerprint = fingerprint then .ok fingerprint else .error .securityViolation
      else .ok newFingerprint

/-- The timestamp and fingerprint to record, and the data without its
descriptor, of a request that authenticates. -/
structure Authenticated where
  timestamp : EfiTime
  fingerprint : BitVec 256
  data : Bytes
  deriving DecidableEq, Repr

def authenticateVariable (env : Env) (store : UefiVariableStore) (storedTimestamp : EfiTime)
    (fingerprint : BitVec 256) (newVariable : Bool) (variable_ : AccessVariable) :
    Except EfiStatus Authenticated × UefiVariableStore :=
  match initEfiDataMap variable_.data with
  | none => (.error .securityViolation, store)
  | some map =>
    let variableInfo := uefiVariableStoreQueryVariableInfo env store 0
    let store := variableInfo.2
    let timeStamp := map.timeStamp
    if map.wCertificateType ≠ winCertTypeEfiGuid then (.error .invalidParameter, store)
    else if !compareGuid map.certType efiCertTypePkcs7Guid then (.error .securityViolation, store)
    else if timeStamp.pad1 ≠ 0 ∨ timeStamp.pad2 ≠ 0 ∨ timeStamp.nanosecond ≠ 0 ∨
        timeStamp.timeZone ≠ 0 ∨ timeStamp.daylight ≠ 0 then (.error .securityViolation, store)
    else
      let isLater := memcmp timeStamp.toBytes storedTimestamp.toBytes == .gt
      if !isLater && !hasAny variable_.attributes efiVariableAppendWrite then
        (.error .securityViolation, store)
      else
        match calcVariableHash env variable_ map with
        | none => (.error .securityViolation, store)
        | some hash =>
          let timestamp := if isLater then timeStamp else storedTimestamp
          if isPrivateAuthVar variable_.name then
            match authenticatePrivateVariable env map hash newVariable fingerprint with
            | .error status => (.error status, store)
            | .ok fingerprint => (.ok ⟨timestamp, fingerprint, map.payload⟩, store)
          else
            let verified := authenticateSecureBootVariable env store variable_ map hash
              variableInfo.1.maximumVariableSize
            if verified.1 = .success then
              (.ok ⟨timestamp, fingerprint, map.payload⟩, verified.2)
            else (.error verified.1, verified.2)

end SmmVariable
