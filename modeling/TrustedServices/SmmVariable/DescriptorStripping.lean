import TrustedServices.Lib.Fields
import TrustedServices.SmmVariable.Chronology

/- How the descriptor is taken out of a request in place. -/
namespace SmmVariable

open Lib

/-- A request in memory at the address `var`. The object with its name and its data ends below
the end of the address space. -/
structure VariableBuffer where
  memory : Nat → UInt8
  var : Nat
  fits : var + smmVariableCommunicateAccessVariableNameOffset +
    (Field.load memory (var + 24) 8).leWord + (Field.load memory (var + 16) 8).leWord < 2 ^ 64

/-- The pointers and lengths of `efi_data_map`. -/
structure EfiDataPointers where
  smmVariableData : Nat
  efiAuthDescriptor : Nat
  efiAuthDescriptorLen : Nat
  efiAuthDescriptorCertdataLen : Nat
  payload : Nat
  payloadLen : Nat
  efiSignatureList : Nat
  deriving DecidableEq, Repr

namespace VariableBuffer

section

variable (buffer : VariableBuffer)

def dataSize : Nat := (Field.load buffer.memory (buffer.var + 16) 8).leWord

def nameSize : Nat := (Field.load buffer.memory (buffer.var + 24) 8).leWord

def dataOffset : Nat :=
  smmVariableCommunicateAccessVariableNameOffset + buffer.nameSize

def bytes (address size : Nat) : Bytes :=
  List.ofFn (Field.load buffer.memory address size)

/-- The request that the buffer holds. -/
def accessVariable : AccessVariable where
  guid := EfiGuid.ofBytes (buffer.bytes buffer.var 16)
  attributes := BitVec.ofNat 32 (Field.load buffer.memory (buffer.var + 32) 4).leWord
  name := buffer.bytes (buffer.var + smmVariableCommunicateAccessVariableNameOffset) buffer.nameSize
  data := buffer.bytes (buffer.var + buffer.dataOffset) buffer.dataSize

/-- Only the variables of the key store have their payload as a signature list. -/
def signatureListAt (payload : Nat) : Nat :=
  let name := buffer.accessVariable.name
  if name == efiPlatformKeyName || name == efiKeyExchangeKeyName ||
      name == efiImageSecurityDatabase || name == efiImageSecurityDatabase1 then payload
  else 0

/-- `init_efi_data_map` on a map whose pointers are all NULL. Additions and
subtractions are checked against the range of a 64-bit word. -/
def initEfiDataMap (withAuthHdr : Bool) : Option EfiDataPointers :=
  let smmVariableData := buffer.var + buffer.dataOffset
  if withAuthHdr then
    let efiAuthDescriptor := smmVariableData
    if buffer.dataSize < efiVariableAuthentication2SizeWithoutCertdata then none
    else
      let dwLength := (Field.load buffer.memory (efiAuthDescriptor + 16) 4).leWord
      let wRevision := (Field.load buffer.memory (efiAuthDescriptor + 20) 2).leWord
      let wCertificateType := (Field.load buffer.memory (efiAuthDescriptor + 22) 2).leWord
      let certType := EfiGuid.ofBytes (buffer.bytes (efiAuthDescriptor + 24) 16)
      let efiAuthDescriptorLen := 16 + dwLength
      if 2 ^ 64 ≤ efiAuthDescriptorLen then none
      else if buffer.dataSize < efiAuthDescriptorLen then none
      else if dwLength < 8 then none
      else if dwLength - 8 < 16 then none
      else
        let efiAuthDescriptorCertdataLen := dwLength - 8 - 16
        if buffer.dataSize < efiAuthDescriptorCertdataLen then none
        else if 2 ^ 64 ≤ efiAuthDescriptor + efiAuthDescriptorLen then none
        else
          let payload := efiAuthDescriptor + efiAuthDescriptorLen
          let payloadLen := buffer.dataSize - efiAuthDescriptorLen
          if buffer.dataSize < payloadLen then none
          else if wRevision = winCertCurrentVersion ∧ wCertificateType = winCertTypeEfiGuid ∧
              compareGuid efiCertTypePkcs7Guid certType ∧
              efiVariableAuthentication2SizeWithoutCertdata ≤ efiAuthDescriptorLen then
            some
              { smmVariableData, efiAuthDescriptor, efiAuthDescriptorLen,
                efiAuthDescriptorCertdataLen, payload, payloadLen
                efiSignatureList := buffer.signatureListAt payload }
          else none
  else
    some
      { smmVariableData
        efiAuthDescriptor := 0
        efiAuthDescriptorLen := 0
        efiAuthDescriptorCertdataLen := 0
        payload := smmVariableData
        payloadLen := buffer.dataSize
        efiSignatureList := buffer.signatureListAt smmVariableData }

end

/-- Where the descriptor, its certificate and the payload are: one behind the other, from the
first byte of the data to its last. -/
structure Parsed (buffer : VariableBuffer) (map : EfiDataPointers) : Prop where
  starts : map.efiAuthDescriptor = buffer.var + buffer.dataOffset
  certificate : map.efiAuthDescriptorCertdataLen + 24 =
    (Field.load buffer.memory (map.efiAuthDescriptor + 16) 4).leWord
  descriptor : efiVariableAuthentication2SizeWithoutCertdata + map.efiAuthDescriptorCertdataLen =
    map.efiAuthDescriptorLen
  payload : map.payload = map.efiAuthDescriptor + map.efiAuthDescriptorLen
  whole : map.efiAuthDescriptorLen + map.payloadLen = buffer.dataSize

variable {buffer : VariableBuffer} {map : EfiDataPointers}

theorem parsed_of_initEfiDataMap (mapped : buffer.initEfiDataMap true = some map) :
    buffer.Parsed map := by
  unfold initEfiDataMap at mapped
  simp only [↓reduceIte] at mapped
  iterate 8 (split at mapped; · cases mapped)
  split_ifs at mapped ⊢
  obtain rfl := Option.some.inj mapped
  constructor
  · rfl
  · simp only
    omega
  · simp only [efiVariableAuthentication2SizeWithoutCertdata]
    omega
  · rfl
  · simp only
    omega

section

variable (buffer : VariableBuffer)

theorem bytes_slice (address size offset width : Nat) (inside : offset + width ≤ size) :
    slice (buffer.bytes address size) offset width = buffer.bytes (address + offset) width := by
  apply List.ext_getElem
  · rw [length_slice _ _ _ (by rwa [bytes, List.length_ofFn])]
    simp only [bytes, List.length_ofFn]
  · intro i _ _
    simp only [slice, bytes, List.getElem_take, List.getElem_drop, List.getElem_ofFn, Field.load]
    rw [Nat.add_assoc]

theorem drop_bytes (address size offset : Nat) :
    (buffer.bytes address size).drop offset = buffer.bytes (address + offset) (size - offset) := by
  apply List.ext_getElem
  · simp only [bytes, List.length_drop, List.length_ofFn]
  · intro i _ _
    simp only [bytes, List.getElem_drop, List.getElem_ofFn, Field.load]
    rw [Nat.add_assoc]

/-- The pointers describe the map of the request's data: a request is mapped in memory if and
only if its data is. -/
theorem initEfiDataMap_data :
    (SmmVariable.initEfiDataMap buffer.accessVariable.data).map (fun fields =>
        (fields.efiAuthDescriptorLen, fields.payload)) =
      (buffer.initEfiDataMap true).map fun map =>
        (map.efiAuthDescriptorLen, buffer.bytes map.payload map.payloadLen) := by
  have room : buffer.var + buffer.dataOffset + buffer.dataSize < 2 ^ 64 := by
    have := buffer.fits
    unfold dataOffset nameSize dataSize
    omega
  have data : buffer.accessVariable.data =
      buffer.bytes (buffer.var + buffer.dataOffset) buffer.dataSize := rfl
  rw [data]
  unfold initEfiDataMap SmmVariable.initEfiDataMap
  generalize buffer.var + buffer.dataOffset = start at room ⊢
  generalize buffer.dataSize = dataSize at room ⊢
  have long : (buffer.bytes start dataSize).length = dataSize := List.length_ofFn
  rw [long, if_pos rfl]
  by_cases short : dataSize < efiVariableAuthentication2SizeWithoutCertdata
  · rw [if_pos short, if_pos short]
    rfl
  · rw [if_neg short, if_neg short]
    unfold efiVariableAuthentication2SizeWithoutCertdata at short
    have word : ∀ offset width, offset + width ≤ 40 →
        leNat (slice (buffer.bytes start dataSize) offset width) =
          (Field.load buffer.memory (start + offset) width).leWord := by
      intro offset width inside
      rw [bytes_slice buffer start dataSize offset width (by omega)]
      rfl
    rw [word 16 4 (by omega), word 20 2 (by omega), word 22 2 (by omega),
      bytes_slice buffer start dataSize 24 16 (by omega)]
    simp only [drop_bytes]
    generalize (Field.load buffer.memory (start + 16) 4).leWord = dwLength
    by_cases outside : dataSize < 16 + dwLength
    · rw [if_pos outside, if_pos outside]
      split <;> rfl
    · rw [if_neg outside, if_neg (by omega : ¬ 2 ^ 64 ≤ 16 + dwLength), if_neg outside]
      by_cases header : dwLength < 24
      · by_cases certificate : dwLength < 8
        · rw [if_pos certificate, if_pos certificate]
          rfl
        · rw [if_neg certificate, if_neg certificate, if_pos (by omega : dwLength - 8 < 16),
            if_pos (by omega : dwLength - 8 < 16)]
          rfl
      · rw [if_neg (by omega : ¬ dwLength < 8), if_neg (by omega : ¬ dwLength < 8),
          if_neg (by omega : ¬ dwLength - 8 < 16), if_neg (by omega : ¬ dwLength - 8 < 16),
          if_neg (by omega : ¬ dataSize < dwLength - 24),
          if_neg (by omega : ¬ dataSize < dwLength - 8 - 16),
          if_neg (by omega : ¬ 2 ^ 64 ≤ start + (16 + dwLength)),
          if_neg (by omega : ¬ dataSize < dataSize - (16 + dwLength))]
        split <;> rfl

/-- The memory without the descriptor: the payload moves to the front of the data, zeros follow
it, and the size of the data is that of the payload. -/
def strippedMemory (map : EfiDataPointers) : Nat → UInt8 :=
  let smmPayload := buffer.var + buffer.dataOffset
  let moved := Field.store buffer.memory smmPayload
    (Field.load buffer.memory map.payload map.payloadLen)
  let cleared := Field.store moved (smmPayload + map.payloadLen)
    (fun _ => 0 : Field map.efiAuthDescriptorLen)
  Field.store cleared (buffer.var + 16)
    (Field.ofLeWord 8 (buffer.dataSize - map.efiAuthDescriptorLen))

theorem dataOffset_ge : 36 ≤ buffer.dataOffset := Nat.le_add_right _ _

end

section

variable (parsed : buffer.Parsed map)

include parsed

theorem strippedMemory_outside {address : Nat}
    (field : address < buffer.var + 16 ∨ buffer.var + 24 ≤ address)
    (outside : address < buffer.var + buffer.dataOffset ∨
      buffer.var + buffer.dataOffset + buffer.dataSize ≤ address) :
    buffer.strippedMemory map address = buffer.memory address := by
  have whole := parsed.whole
  unfold strippedMemory
  rw [Field.store_outside _ (by omega), Field.store_outside _ (by omega),
    Field.store_outside _ (by omega)]

theorem load_strippedMemory_header {offset width : Nat}
    (apart : offset + width ≤ 16 ∨ 24 ≤ offset) (inside : offset + width ≤ buffer.dataOffset) :
    Field.load (buffer.strippedMemory map) (buffer.var + offset) width =
      Field.load buffer.memory (buffer.var + offset) width := by
  apply Field.load_congr
  intro address above below
  exact strippedMemory_outside parsed (by omega) (by omega)

theorem load_strippedMemory_dataSize :
    (Field.load (buffer.strippedMemory map) (buffer.var + 16) 8).leWord = map.payloadLen := by
  have whole := parsed.whole
  have small : buffer.dataSize < 2 ^ 64 := by
    have := buffer.fits
    unfold dataSize
    omega
  unfold strippedMemory
  rw [Field.load_store, Field.leWord_ofLeWord (by omega)]
  omega

end

theorem load_strippedMemory_data (buffer : VariableBuffer) (map : EfiDataPointers) :
    Field.load (buffer.strippedMemory map) (buffer.var + buffer.dataOffset) map.payloadLen =
      Field.load buffer.memory map.payload map.payloadLen := by
  have behind := buffer.dataOffset_ge
  unfold strippedMemory
  rw [Field.load_store_apart _ (by omega), Field.load_store_apart _ (by omega), Field.load_store]

def stripped (buffer : VariableBuffer) (map : EfiDataPointers) (parsed : buffer.Parsed map) :
    VariableBuffer where
  memory := buffer.strippedMemory map
  var := buffer.var
  fits := by
    have whole := parsed.whole
    have room := buffer.fits
    have offset := buffer.dataOffset_ge
    rw [load_strippedMemory_header parsed (by omega) (by omega), load_strippedMemory_dataSize parsed]
    unfold dataSize at whole
    omega

section

variable (parsed : buffer.Parsed map)

include parsed

theorem nameSize_stripped : (buffer.stripped map parsed).nameSize = buffer.nameSize := by
  have offset := buffer.dataOffset_ge
  unfold nameSize stripped
  rw [load_strippedMemory_header parsed (by omega) (by omega)]

theorem dataOffset_stripped : (buffer.stripped map parsed).dataOffset = buffer.dataOffset := by
  unfold dataOffset
  rw [nameSize_stripped]

theorem dataSize_stripped :
    (buffer.stripped map parsed).dataSize = map.payloadLen :=
  load_strippedMemory_dataSize parsed

theorem data_stripped :
    (buffer.stripped map parsed).accessVariable.data = buffer.bytes map.payload map.payloadLen := by
  unfold accessVariable
  rw [dataSize_stripped, dataOffset_stripped]
  exact congrArg List.ofFn (buffer.load_strippedMemory_data map)

end

/-- `authenticate_variable` on a request in memory. The checks are those made on the request that
the buffer holds; only an authenticated request loses its descriptor. -/
def authenticateVariable (env : Env) (store : UefiVariableStore) (storedTimestamp : EfiTime)
    (fingerprint : BitVec 256) (newVariable : Bool) (buffer : VariableBuffer) :
    Except EfiStatus Authenticated × VariableBuffer × UefiVariableStore :=
  match mapped : buffer.initEfiDataMap true with
  | none => (.error .securityViolation, buffer, store)
  | some map =>
    let result := SmmVariable.authenticateVariable env store storedTimestamp fingerprint newVariable
      buffer.accessVariable
    match result.1 with
    | .error status => (.error status, buffer, result.2)
    | .ok authenticated =>
      (.ok authenticated, buffer.stripped map (parsed_of_initEfiDataMap mapped), result.2)

/-- What a request is after its authentication: the payload alone, in the place of the data. -/
structure StrippedTo (buffer after : VariableBuffer) (map : EfiDataPointers) : Prop where
  var : after.var = buffer.var
  data : after.accessVariable.data = buffer.bytes map.payload map.payloadLen
  dataSize : after.dataSize = map.payloadLen
  outside : ∀ address, (address < buffer.var + 16 ∨ buffer.var + 24 ≤ address) →
    (address < buffer.var + buffer.dataOffset ∨
      buffer.var + buffer.dataOffset + buffer.dataSize ≤ address) →
    after.memory address = buffer.memory address

theorem strippedTo_stripped (parsed : buffer.Parsed map) :
    buffer.StrippedTo (buffer.stripped map parsed) map where
  var := rfl
  data := data_stripped parsed
  dataSize := dataSize_stripped parsed
  outside _ := strippedMemory_outside parsed

/-- A request is authenticated in memory as its contents are, and the data that stays is the
data that the checks passed. -/
theorem authenticateVariable_contents (env : Env) (store : UefiVariableStore)
    (storedTimestamp : EfiTime) (fingerprint : BitVec 256) (newVariable : Bool)
    (buffer : VariableBuffer) :
    let result := buffer.authenticateVariable env store storedTimestamp fingerprint newVariable
    (result.1, result.2.2) = SmmVariable.authenticateVariable env store storedTimestamp fingerprint
        newVariable buffer.accessVariable ∧
      ∀ authenticated, result.1 = .ok authenticated →
        result.2.1.accessVariable.data = authenticated.data := by
  have agree := buffer.initEfiDataMap_data
  unfold authenticateVariable
  split
  · rename_i unmapped
    rw [unmapped, Option.map_none, Option.map_eq_none_iff] at agree
    refine ⟨?_, nofun⟩
    unfold SmmVariable.authenticateVariable
    rw [agree]
  · rename_i map mapped
    rw [mapped] at agree
    dsimp only
    split
    · rename_i status failed
      exact ⟨by rw [← failed], nofun⟩
    · rename_i authenticated passed
      refine ⟨by rw [← passed], ?_⟩
      rintro _ ⟨⟩
      obtain ⟨fields, hash, passed⟩ := authenticateVariable_ok passed
      rw [passed.mapped, Option.map_some, Option.map_some, Option.some.injEq, Prod.mk.injEq] at agree
      rw [data_stripped, passed.data, agree.2]

/-- The descriptor, its certificate and the payload of an accepted request lie inside its data
and fill it; a request that is authenticated keeps exactly its payload, and beside the size of
the data no byte outside of the data changes. -/
theorem authDescriptor_parsed_and_stripped (env : Env) (store : UefiVariableStore)
    (storedTimestamp : EfiTime) (fingerprint : BitVec 256) (newVariable : Bool)
    (buffer : VariableBuffer) :
    (∀ map, buffer.initEfiDataMap true = some map → buffer.Parsed map) ∧
    ∀ authenticated after later,
      buffer.authenticateVariable env store storedTimestamp fingerprint newVariable =
        (.ok authenticated, after, later) →
      ∃ map, buffer.initEfiDataMap true = some map ∧ buffer.StrippedTo after map := by
  refine ⟨fun map => parsed_of_initEfiDataMap, ?_⟩
  intro authenticated after later passed
  unfold authenticateVariable at passed
  split at passed
  · cases passed
  · rename_i map mapped
    dsimp only at passed
    split at passed
    · cases passed
    · obtain ⟨_, rfl, _⟩ := Prod.mk.inj passed
      exact ⟨map, mapped, strippedTo_stripped (parsed_of_initEfiDataMap mapped)⟩

/-- A request for the variable `A` with a descriptor without certificate and one byte behind it. -/
def signedByte : VariableBuffer where
  memory address := (EfiGuid.zero.toBytes ++ (leBytes 8 41 ++ (leBytes 8 4 ++ (leBytes 4 0x27 ++
    ((datedRequest (.newYear 2025)).name ++ (datedRequest (.newYear 2025)).data))))).getD address 0
  var := 0
  fits := by decide +kernel

theorem signedByte_stripped : ∃ map authenticated after later,
    signedByte.authenticateVariable .accepting emptyVariableStore (.newYear 2024) 0 false =
      (.ok authenticated, after, later) ∧
    signedByte.initEfiDataMap true = some map ∧ map.efiAuthDescriptorLen = 40 ∧
    after.accessVariable.data = [7] := by
  have mapped : signedByte.initEfiDataMap true = some ⟨40, 40, 40, 0, 80, 1, 0⟩ := by
    decide +kernel
  have payload : signedByte.bytes 80 1 = [7] := by decide +kernel
  have passed : (signedByte.authenticateVariable .accepting emptyVariableStore (.newYear 2024) 0
      false).1 = .ok ⟨.newYear 2025, 0, [7]⟩ := by
    decide +kernel
  obtain ⟨map, again, stripped⟩ := (authDescriptor_parsed_and_stripped .accepting emptyVariableStore
    (.newYear 2024) 0 false signedByte).2 _ _ _ (Prod.ext passed rfl)
  obtain rfl := Option.some.inj (mapped.symm.trans again)
  exact ⟨_, _, _, _, Prod.ext passed rfl, mapped, rfl, stripped.data.trans payload⟩

end VariableBuffer

end SmmVariable
