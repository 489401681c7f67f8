import TrustedServices.Fwu.MetadataSerializer
import TrustedServices.Lib.Memory

/- Version 2 metadata, whose offsets and counts are read from the metadata itself. -/
namespace Fwu

open Lib Accessing

/-- What the parser asks of the bank tracker. -/
inductive TrackerCall
  | setHoldsAcceptedContent (bankIndex : Nat)
  | setHoldsContent (bankIndex : Nat)
  | accept (bankIndex imageIndex : Nat)
  deriving DecidableEq, Repr

/-- The limits that the tracker asserts. -/
def TrackerCall.Allowed : TrackerCall → Prop
  | .setHoldsAcceptedContent bankIndex => bankIndex < bankSchemeNumBanks
  | .setHoldsContent bankIndex => bankIndex < bankSchemeNumBanks
  | .accept bankIndex imageIndex =>
    bankIndex < bankSchemeNumBanks ∧ imageIndex < fwuMaxFwDirectoryEntries

def TrackerCall.apply (bankTracker : BankTracker) : TrackerCall → BankTracker
  | .setHoldsAcceptedContent bankIndex =>
    (List.range fwuMaxFwDirectoryEntries).foldl (bankTrackerAccept · bankIndex)
      (bankTrackerSetHoldsContent bankTracker bankIndex)
  | .setHoldsContent bankIndex => bankTrackerSetHoldsContent bankTracker bankIndex
  | .accept bankIndex imageIndex => bankTrackerAccept bankTracker bankIndex imageIndex

abbrev Parsing := Accessing Unit (List TrackerCall)

def sizeofFwuMetadata : Nat := 32

def offsetofImgEntry : Nat := 8

def offsetofImgBankInfo : Nat := 32

def fwuMetadataV2BankStateAccepted : Nat := 0xfc

def fwuMetadataV2BankStateValid : Nat := 0xfe

def parseBankState (bankIndex : Nat) : Parsing := do
  let bankState ← loadWord () (24 + bankIndex) 1
  return if bankState = fwuMetadataV2BankStateAccepted then [.setHoldsAcceptedContent bankIndex]
    else if bankState = fwuMetadataV2BankStateValid then [.setHoldsContent bankIndex]
    else []

def parseBankInfo (imgBankInfo bankInfoEntrySize imageIndex bankIndex : Nat) : Parsing := do
  let accepted ← loadWord () (imgBankInfo + bankIndex * bankInfoEntrySize + 16) 4
  return if accepted ≠ 0 then [.accept bankIndex imageIndex] else []

def parseFwStoreDesc (descriptorOffset metadataSize : Nat) : Parsing := do
  let totalImgEntriesSize := metadataSize - descriptorOffset - offsetofImgEntry
  let numBanks ← loadWord () descriptorOffset 1
  let numImages ← loadWord () (descriptorOffset + 2) 2
  let imgEntrySize ← loadWord () (descriptorOffset + 4) 2
  let bankInfoEntrySize ← loadWord () (descriptorOffset + 6) 2
  if imgEntrySize < sizeofFwuImageEntry ∨ bankInfoEntrySize < sizeofFwuImgBankInfo ∨
      bankSchemeNumBanks < numBanks ∨
      imgEntrySize < offsetofImgBankInfo + numBanks * bankInfoEntrySize ∨
      fwuMaxFwDirectoryEntries < numImages ∨ totalImgEntriesSize < numImages * imgEntrySize then
    return []
  else
    forRange (fun imageIndex => forRange (parseBankInfo (descriptorOffset + offsetofImgEntry +
      imageIndex * imgEntrySize + offsetofImgBankInfo) bankInfoEntrySize imageIndex) numBanks)
      numImages

/-- The calls to the tracker in their order. -/
def parseBankInfoV2 (metadataLen : Nat) : Parsing := do
  let descriptorOffset ← loadWord () 20 2
  let metadataSize ← loadWord () 16 4
  if metadataLen < descriptorOffset ∨ metadataLen < metadataSize then return []
  else
    both (forRange parseBankState bankSchemeNumBanks)
      (if descriptorOffset + offsetofImgEntry ≤ metadataSize then
        parseFwStoreDesc descriptorOffset metadataSize
      else return [])

def deserializeBankInfoV2 (bankTracker : BankTracker) (metadataLen : Nat) :
    Accessing Unit BankTracker := do
  let calls ← parseBankInfoV2 metadataLen
  return calls.foldl TrackerCall.apply bankTracker

variable {metadataLen : Nat} {memory : Memory Unit}

theorem parseBankState_reads {bankIndex : Nat} (whole : sizeofFwuMetadata ≤ metadataLen)
    (bank : bankIndex < bankSchemeNumBanks) :
    Reads (fun _ => metadataLen) memory TrackerCall.Allowed (parseBankState bankIndex) := by
  unfold sizeofFwuMetadata at whole
  have banks : bankIndex < 2 := bank
  refine .loadWord (by omega) fun bankState => .pure ?_
  split_ifs
  · exact List.forall_mem_singleton.mpr bank
  · exact List.forall_mem_singleton.mpr bank
  · nofun

/-- The six checks keep the walk over images and banks inside the metadata. -/
theorem parseFwStoreDesc_reads {descriptorOffset metadataSize : Nat}
    (present : descriptorOffset + offsetofImgEntry ≤ metadataSize)
    (sized : metadataSize ≤ metadataLen) :
    Reads (fun _ => metadataLen) memory TrackerCall.Allowed
      (parseFwStoreDesc descriptorOffset metadataSize) := by
  unfold offsetofImgEntry at present
  refine .loadWord (by omega) fun numBanks => .loadWord (by omega) fun numImages =>
    .loadWord (by omega) fun imgEntrySize => .loadWord (by omega) fun bankInfoEntrySize => ?_
  split_ifs with checked
  · exact .pure nofun
  · simp only [not_or, Nat.not_lt, sizeofFwuImgBankInfo, offsetofImgBankInfo,
      offsetofImgEntry] at checked
    refine .forRange fun imageIndex image => .forRange fun bankIndex bank =>
      .loadWord ?_ fun accepted => .pure ?_
    case refine_2 =>
      split
      · exact List.forall_mem_singleton.mpr ⟨by omega, by omega⟩
      · nofun
    have imageEnd : (imageIndex + 1) * imgEntrySize ≤ numImages * imgEntrySize :=
      Nat.mul_le_mul_right _ image
    have bankEnd : (bankIndex + 1) * bankInfoEntrySize ≤ numBanks * bankInfoEntrySize :=
      Nat.mul_le_mul_right _ bank
    rw [Nat.succ_mul] at imageEnd bankEnd
    unfold offsetofImgEntry offsetofImgBankInfo
    omega

theorem parseBankInfoV2_reads (whole : sizeofFwuMetadata ≤ metadataLen) :
    Reads (fun _ => metadataLen) memory TrackerCall.Allowed (parseBankInfoV2 metadataLen) := by
  have header : 32 ≤ metadataLen := whole
  refine .loadWord (by omega) fun descriptorOffset => .loadWord (by omega) fun metadataSize => ?_
  split
  · exact .pure nofun
  · refine .both (.forRange fun _ bank => parseBankState_reads whole bank) ?_
    split_ifs with present
    · exact parseFwStoreDesc_reads present (by omega)
    · exact .pure nofun

/-- Whatever the bytes are, the parser reads inside the metadata and keeps to the limits of the
tracker. -/
theorem deserializeBankInfoV2_safe (bankTracker : BankTracker) {metadataLen : Nat}
    (memory : Memory Unit) (whole : sizeofFwuMetadata ≤ metadataLen) :
    Within (fun _ => metadataLen) (deserializeBankInfoV2 bankTracker metadataLen) memory ∧
      ∀ call ∈ (parseBankInfoV2 metadataLen memory).value, call.Allowed := by
  have reads := @parseBankInfoV2_reads metadataLen memory whole
  refine ⟨?_, reads.gives⟩
  rw [deserializeBankInfoV2, within_bind, within_pure]
  exact ⟨reads.within, trivial⟩

/-- One image in one bank, accepted there. -/
def forgedMetadata : Bytes :=
  List.replicate 16 0 ++ leBytes 4 120 ++ leBytes 4 32 ++ leBytes 8 0xfe ++ [1, 0, 1, 0, 80, 0, 24] ++
    List.replicate 49 0 ++ [1]

theorem deserializeBankInfoV2_safe_forged :
    (parseBankInfoV2 120 fun _ => (forgedMetadata.getD · 0)).value =
        [.setHoldsContent 0, .accept 0 0] ∧
      Within (fun _ => 120) (deserializeBankInfoV2 bankTrackerInit 120)
        fun _ => (forgedMetadata.getD · 0) :=
  ⟨by decide +kernel, (deserializeBankInfoV2_safe bankTrackerInit _ (by decide)).1⟩

end Fwu
