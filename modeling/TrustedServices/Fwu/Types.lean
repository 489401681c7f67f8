import TrustedServices.Media.Volume

/- The firmware directory, the two banks and their volumes, and the states of the banks. -/
namespace Fwu

open Lib Volumes

/-- Service status codes, and the errors of volume calls that the service hands on.
`noReturn` stands for a call that never returns and `assertFailed` for one that an
assertion stops. -/
inductive FwuStatus
  | success
  | unknown
  | busy
  | outOfBounds
  | authFail
  | noPermission
  | denied
  | resume
  | notAvailable
  | ioError (error : IoError)
  | noReturn
  | assertFailed
  deriving DecidableEq, Repr

def FwuStatus.ofVolume {α : Type} : Except IoError α → FwuStatus
  | .ok _ => .success
  | .error error => .ioError error

abbrev Uuid := BitVec 128

def fwuDirectoryUuid : Uuid := 0xa541236e667790a24ad35147deee58d9

def uuidOctets (uuid : Uuid) : Bytes := leBytes 16 uuid.toNat

inductive InstallType
  | wholeVolume
  | subVolume
  | wholeVolumeCopy
  deriving DecidableEq, Repr

structure BootInfo where
  bootIndex : Nat
  activeIndex : Nat
  previousActiveIndex : Nat
  deriving DecidableEq, Repr

structure ImageInfo where
  imgTypeUuid : Uuid
  maxSize : Nat
  lowestAcceptedVersion : Nat
  activeVersion : Nat
  permissions : Nat
  imageIndex : Nat
  locationId : Nat
  installType : InstallType
  deriving DecidableEq, Repr

def fwuMaxFwDirectoryEntries : Nat := 20

/-- Entries stand at their own image index, and there are no more than the limit. -/
structure FwDirectory where
  bootInfo : BootInfo
  entries : List ImageInfo
  bounded : entries.length ≤ fwuMaxFwDirectoryEntries
  indexed : ∀ position (inside : position < entries.length),
    (entries.get ⟨position, inside⟩).imageIndex = position

def fwDirectoryInit : FwDirectory where
  bootInfo := ⟨0, 0, 0⟩
  entries := []
  bounded := by decide
  indexed position inside := by cases inside

def fwDirectoryNumImages (fwDirectory : FwDirectory) : Nat := fwDirectory.entries.length

def bankSchemeNumBanks : Nat := 2

def bankedVolumeIdPrimaryMetadata : Nat := 0xffff0000

def bankedVolumeIdBackupMetadata : Nat := 0xffff0001

def bankedUsageId (bankIndex : Nat) : Nat := if bankIndex = 0 then 0 else 1

def bankedVolumeId (locationId usageId : Nat) : Nat :=
  locationId * 2 ^ 16 % 2 ^ 32 ||| usageId % 2 ^ 16

def bankVolume (locationId bankIndex : Nat) : Nat :=
  bankedVolumeId locationId (bankedUsageId bankIndex)

/-- The state of the banks: whether a bank holds content, and which of its images are
accepted. -/
structure BankTracker where
  isContent : Nat → Bool
  isAccepted : Nat → Nat → Bool

def bankTrackerInit : BankTracker where
  isContent _ := false
  isAccepted _ _ := false

def bankTrackerAccept (subject : BankTracker) (bankIndex imageIndex : Nat) : BankTracker :=
  { subject with
    isAccepted := fun bank image =>
      if bank = bankIndex ∧ image = imageIndex then true else subject.isAccepted bank image }

def BankTracker.withContent (subject : BankTracker) (bankIndex : Nat) (content : Bool) :
    BankTracker :=
  { subject with
    isContent := fun bank => if bank = bankIndex then content else subject.isContent bank }

def bankTrackerSetHoldsContent (subject : BankTracker) (bankIndex : Nat) : BankTracker :=
  subject.withContent bankIndex true

end Fwu
