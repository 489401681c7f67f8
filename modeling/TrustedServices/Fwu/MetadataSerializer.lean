import TrustedServices.Fwu.MetadataManager

/- The first format of FWU metadata. Reserved fields stay as the buffer had them. -/
namespace Fwu

open Lib

section

variable (storageIds : StorageIds)

def imgUuid (locationId bankIndex : Nat) : Uuid :=
  ((storageIds (bankVolume locationId bankIndex)).map Prod.fst).getD 0

/-- The parent location is that of the second bank's volume, if it is known, or of the first's. -/
def locationUuidV1 (locationId : Nat) : Uuid :=
  let parent (bankIndex : Nat) := (storageIds (bankVolume locationId bankIndex)).map Prod.snd
  (parent 1).getD ((parent 0).getD 0)

def sizeofFwuImageEntry : Nat := 80

def sizeofFwuImgBankInfo : Nat := 24

def bankInfo (bankTracker : BankTracker) (imageInfo : ImageInfo) (bankIndex : Nat) : Bytes :=
  uuidOctets (imgUuid storageIds imageInfo.locationId bankIndex) ++
    (leBytes 4 (if bankTracker.isAccepted bankIndex imageInfo.imageIndex then 1 else 0) ++
      leBytes 4 0)

def imageEntry (locationUuid : Uuid) (bankTracker : BankTracker) (imageInfo : ImageInfo) : Bytes :=
  uuidOctets imageInfo.imgTypeUuid ++ (uuidOctets locationUuid ++
    (bankInfo storageIds bankTracker imageInfo 0 ++ bankInfo storageIds bankTracker imageInfo 1))

end

def sizeofHeaderV1 : Nat := 16

def metadataSizeV1 (fwDir : FwDirectory) : Nat :=
  sizeofHeaderV1 + fwDirectoryNumImages fwDir * sizeofFwuImageEntry

section

variable (storageIds : StorageIds) (activeIndex previousActiveIndex : Nat) (fwDir : FwDirectory)
  (bankTracker : BankTracker)

def metadataV1 : Bytes :=
  leBytes 4 0 ++ (leBytes 4 1 ++ (leBytes 4 activeIndex ++ (leBytes 4 previousActiveIndex ++
    fwDir.entries.flatMap fun imageInfo =>
      imageEntry storageIds (locationUuidV1 storageIds imageInfo.locationId) bankTracker imageInfo)))

def serializeV1 (buf : Bytes) : Bytes × Nat :=
  if metadataSizeV1 fwDir ≤ buf.length then
    (overwriteFront buf (metadataV1 storageIds activeIndex previousActiveIndex fwDir bankTracker),
      metadataSizeV1 fwDir)
  else (buf, 0)

end

/-- The accepted word of an image entry in a bank, for entries of a given size. -/
def acceptedWord (metadata : Bytes) (imgEntryOffset imgEntrySize bankInfoEntrySize imageIndex
    bankIndex : Nat) : Nat :=
  leNat (slice metadata (imgEntryOffset + imageIndex * imgEntrySize + 32 +
    bankIndex * bankInfoEntrySize + 16) 4)

/-- The loops over images and banks that take over the accepted flags. -/
def acceptEntries (metadata : Bytes) (imgEntryOffset imgEntrySize bankInfoEntrySize numImages
    numBanks : Nat) (bankTracker : BankTracker) : BankTracker :=
  (List.range numImages).foldl
    (fun bankTracker imageIndex =>
      (List.range numBanks).foldl
        (fun bankTracker bankIndex =>
          if acceptedWord metadata imgEntryOffset imgEntrySize bankInfoEntrySize imageIndex
              bankIndex ≠ 0 then
            bankTrackerAccept bankTracker bankIndex imageIndex
          else bankTracker)
        bankTracker)
    bankTracker

def deserializeActiveIndices (metadata : Bytes) : Nat × Nat :=
  (leNat (slice metadata 8 4), leNat (slice metadata 12 4))

/-- A referenced bank is assumed to hold content. -/
def holdsReferenced (bankTracker : BankTracker) (bankIndex : Nat) : BankTracker :=
  if bankIndex < bankSchemeNumBanks then bankTrackerSetHoldsContent bankTracker bankIndex
  else bankTracker

def deserializeBankInfoV1 (bankTracker : BankTracker) (metadata : Bytes) : BankTracker :=
  let indices := deserializeActiveIndices metadata
  let bankTracker := holdsReferenced (holdsReferenced bankTracker indices.1) indices.2
  if sizeofHeaderV1 ≤ metadata.length then
    acceptEntries metadata sizeofHeaderV1 sizeofFwuImageEntry sizeofFwuImgBankInfo
      ((metadata.length - sizeofHeaderV1) / sizeofFwuImageEntry) bankSchemeNumBanks bankTracker
  else bankTracker

def metadataSerializerV1 : MetadataSerializer where
  serialize := serializeV1
  size := metadataSizeV1
  maxSize := sizeofHeaderV1 + fwuMaxFwDirectoryEntries * sizeofFwuImageEntry
  deserializeBankInfo := deserializeBankInfoV1
  deserializeActiveIndices := deserializeActiveIndices
  holdsCrc fwDir := by
    rw [metadataSizeV1, sizeofHeaderV1]
    omega
  sizeBound fwDir := by
    have bounded := fwDir.bounded
    rw [metadataSizeV1]
    exact Nat.add_le_add_left (Nat.mul_le_mul_right _ bounded) _
  fills storageIds activeIndex previousActiveIndex fwDir bankTracker buf room := by
    have bounded : metadataSizeV1 fwDir ≤ buf.length :=
      Nat.le_trans (Nat.add_le_add_left (Nat.mul_le_mul_right _ fwDir.bounded) _) room
    rw [serializeV1, if_pos bounded]
    exact ⟨length_overwriteFront _ _, rfl⟩

end Fwu
