import TrustedServices.Fwu.Types

/- FWU metadata in memory and in two volumes, each protected by a CRC. -/
namespace Fwu

open Lib Volumes

/-- The image and location UUIDs a volume reports, if it reports any. -/
abbrev StorageIds := Nat → Option (Uuid × Uuid)

/-- A metadata format. `serialize` fills in the fields of a buffer and gives the length. -/
structure MetadataSerializer where
  serialize : StorageIds → Nat → Nat → FwDirectory → BankTracker → Bytes → Bytes × Nat
  size : FwDirectory → Nat
  maxSize : Nat
  deserializeBankInfo : BankTracker → Bytes → BankTracker
  deserializeActiveIndices : Bytes → Nat × Nat
  holdsCrc : ∀ fwDir, 4 ≤ size fwDir
  sizeBound : ∀ fwDir, size fwDir ≤ maxSize
  fills : ∀ storageIds activeIndex previousActiveIndex fwDir bankTracker buf,
    maxSize ≤ buf.length →
      (serialize storageIds activeIndex previousActiveIndex fwDir bankTracker buf).1.length =
          buf.length ∧
        (serialize storageIds activeIndex previousActiveIndex fwDir bankTracker buf).2 = size fwDir

/-- The surroundings of one call: failing volume calls, exhausted memory, and the volumes'
identifiers. -/
structure Env where
  fault : VolumeFault
  malloc : Bool
  storageIds : StorageIds
  heap : Nat → UInt8

/-- Nothing fails. -/
def Env.calm : Env where
  fault _ _ := none
  malloc := true
  storageIds _ := none
  heap _ := 0

def overwriteFront (buf data : Bytes) : Bytes := data.take buf.length ++ buf.drop data.length

@[simp] theorem length_overwriteFront (buf data : Bytes) :
    (overwriteFront buf data).length = buf.length := by
  simp only [overwriteFront, List.length_append, List.length_take, List.length_drop]
  omega

def crcField (metadata : Bytes) : BitVec 32 := BitVec.ofNat 32 (leNat (metadata.take 4))

/-- The check on loaded metadata: the CRC of what follows the CRC field is in the field. -/
def crcMatches (crc32 : Bytes → BitVec 32) (metadata : Bytes) : Bool :=
  crc32 (metadata.drop 4) == crcField metadata

structure MetadataManager (serializer : MetadataSerializer) where
  primaryMetadataVolume : Option Nat
  backupMetadataVolume : Option Nat
  isDirty : Bool
  isValid : Bool
  storedCrc : BitVec 32
  metadataLen : Nat
  metadataCache : Bytes
  cacheSize : metadataCache.length = serializer.maxSize

section

variable {serializer : MetadataSerializer} (subject : MetadataManager serializer)

def MetadataManager.metadata : Bytes :=
  subject.metadataCache.take subject.metadataLen

def MetadataManager.sized (metadataLen : Nat) : MetadataManager serializer :=
  { subject with metadataLen := metadataLen }

end

section

variable (crc32 : Bytes → BitVec 32) (env : Env)

section

variable (media : Media) (volumeId : Nat) (buf : Bytes) (expectedLen : Nat)

/-- Load one copy into `buf`. A read that fails leaves the buffer to its later user. -/
def loadAndCheckMetadata : FwuStatus × Bytes × Media :=
  let opened := volumeOpen env.fault media volumeId
  match opened.1 with
  | .error error => (.ioError error, buf, opened.2)
  | .ok () =>
    let got := volumeRead env.fault opened.2 volumeId expectedLen
    let closed := volumeClose env.fault got.2 volumeId
    match got.1 with
    | .error error => (.ioError error, buf, closed.2)
    | .ok data =>
      let buf := overwriteFront buf data
      (if crcMatches crc32 (buf.take expectedLen) then .success else .unknown, buf, closed.2)

theorem length_loadAndCheckMetadata :
    (loadAndCheckMetadata crc32 env media volumeId buf expectedLen).2.1.length = buf.length := by
  unfold loadAndCheckMetadata
  dsimp only
  split
  · rfl
  · split
    · rfl
    · exact length_overwriteFront _ _

end

/-- Erase a metadata volume and write a copy to it. The length written is not looked at. -/
def storeMetadata (media : Media) (volumeId : Nat) (data : Bytes) : FwuStatus × Media :=
  let opened := volumeOpen env.fault media volumeId
  match opened.1 with
  | .error error => (.ioError error, opened.2)
  | .ok () =>
    let erased := volumeErase env.fault opened.2 volumeId
    match erased.1 with
    | .error error => (.ioError error, (volumeClose env.fault erased.2 volumeId).2)
    | .ok () =>
      let written := volumeWrite env.fault erased.2 volumeId data
      (FwuStatus.ofVolume written.1, (volumeClose env.fault written.2 volumeId).2)

def storeCopy (media : Media) (volume : Option Nat) (data : Bytes) : FwuStatus × Media :=
  match volume with
  | some volumeId => storeMetadata env media volumeId data
  | none => (.success, media)

end

def metadataManagerInit (serializer : MetadataSerializer) (env : Env) (media : Media) :
    MetadataManager serializer where
  primaryMetadataVolume := volumeIndexFind media bankedVolumeIdPrimaryMetadata
  backupMetadataVolume := volumeIndexFind media bankedVolumeIdBackupMetadata
  isDirty := false
  isValid := false
  storedCrc := 0
  metadataLen := 0
  metadataCache := (List.range serializer.maxSize).map env.heap
  cacheSize := by simp

variable {serializer : MetadataSerializer} (crc32 : Bytes → BitVec 32) (env : Env)

section

variable (subject : MetadataManager serializer) (media : Media)

def MetadataManager.load (volumeId : Nat) : FwuStatus × MetadataManager serializer × Media :=
  let loaded := loadAndCheckMetadata crc32 env media volumeId subject.metadataCache
    subject.metadataLen
  (loaded.1,
    { subject with
      isValid := loaded.1 == .success
      metadataCache := loaded.2.1
      cacheSize := by
        rw [length_loadAndCheckMetadata]
        exact subject.cacheSize },
    loaded.2.2)

def checkPrimary : FwuStatus × MetadataManager serializer × Media :=
  match subject.primaryMetadataVolume with
  | some volumeId => subject.load crc32 env media volumeId
  | none => (.unknown, subject, media)

/-- The backup copy's turn: compare it with a valid cache, or load it in place of an invalid
primary. -/
def checkBackup : FwuStatus × MetadataManager serializer × Media :=
  match subject.backupMetadataVolume with
  | some volumeId =>
    if subject.isValid then
      if env.malloc then
        let loaded := loadAndCheckMetadata crc32 env media volumeId
          ((List.range subject.metadataLen).map env.heap) subject.metadataLen
        (if loaded.1 = .success ∧ crcField loaded.2.1 ≠ crcField subject.metadataCache then
            .unknown
          else loaded.1,
          subject, loaded.2.2)
      else (.unknown, subject, media)
    else subject.load crc32 env media volumeId
  | none => (.unknown, subject, media)

end

def repairCopy (media : Media) (status : FwuStatus) (volume : Option Nat) (metadata : Bytes) :
    Media :=
  if status = .success then media else (storeCopy env media volume metadata).2

section

variable (subject : MetadataManager serializer)

def metadataManagerCheckAndRepair (media : Media)
    (fwDir : FwDirectory) : FwuStatus × MetadataManager serializer × Media :=
  if subject.isValid then (.success, subject, media)
  else if subject.primaryMetadataVolume = none ∧ subject.backupMetadataVolume = none then
    (.unknown, subject, media)
  else
    let subject := subject.sized (serializer.size fwDir)
    let primary := checkPrimary crc32 env subject media
    let backup := checkBackup crc32 env primary.2.1 primary.2.2
    let subject := backup.2.1
    if subject.isValid then
      let media := repairCopy env backup.2.2 primary.1 subject.primaryMetadataVolume
        subject.metadata
      let media := repairCopy env media backup.1 subject.backupMetadataVolume subject.metadata
      (.success, { subject with storedCrc := crcField subject.metadataCache }, media)
    else (.unknown, subject, backup.2.2)

section

variable (activeIndex previousActiveIndex : Nat) (fwDir : FwDirectory) (bankTracker : BankTracker)

def serializedCache : Bytes × Nat :=
  let filled := serializer.serialize env.storageIds activeIndex previousActiveIndex fwDir
    bankTracker subject.metadataCache
  (overwriteFront filled.1 (leBytes 4 (crc32 ((filled.1.take filled.2).drop 4)).toNat), filled.2)

theorem length_serializedCache :
    (serializedCache crc32 env subject activeIndex previousActiveIndex fwDir bankTracker).1.length =
      serializer.maxSize := by
  unfold serializedCache
  rw [length_overwriteFront, (serializer.fills _ _ _ _ _ _ (Nat.le_of_eq subject.cacheSize.symm)).1]
  exact subject.cacheSize

def MetadataManager.serialized : MetadataManager serializer :=
  { subject with
    isDirty := true
    isValid := true
    metadataLen :=
      (serializedCache crc32 env subject activeIndex previousActiveIndex fwDir bankTracker).2
    metadataCache :=
      (serializedCache crc32 env subject activeIndex previousActiveIndex fwDir bankTracker).1
    cacheSize := length_serializedCache crc32 env _ _ _ _ _ }

end

end

/-- The test that skips the stores: the manager's view of the stored CRC is already that of
the new metadata. -/
def storeUnneeded (before after : MetadataManager serializer) : Bool :=
  before.isValid && before.storedCrc == crcField after.metadataCache

def metadataManagerUpdate (subject : MetadataManager serializer) (media : Media)
    (activeIndex previousActiveIndex : Nat) (fwDir : FwDirectory) (bankTracker : BankTracker) :
    FwuStatus × MetadataManager serializer × Media :=
  let updated := subject.serialized crc32 env activeIndex previousActiveIndex fwDir bankTracker
  if storeUnneeded subject updated then (.success, updated, media)
  else
    let primary := storeCopy env media updated.primaryMetadataVolume updated.metadata
    let backup := storeCopy env primary.2 updated.backupMetadataVolume updated.metadata
    (if primary.1 ≠ .success then primary.1
      else if backup.1 ≠ .success then backup.1
      else .success,
      { updated with
        storedCrc :=
          if primary.1 = .success ∧ backup.1 = .success then crcField updated.metadataCache
          else updated.storedCrc },
      backup.2)

end Fwu
