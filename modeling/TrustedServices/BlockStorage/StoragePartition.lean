import TrustedServices.Lib.Bytes

/- The range of blocks of a partition, and the clients that may access it. -/
namespace BlockStorage

open Lib

abbrev PsaStatus := Int32

def psaSuccess : PsaStatus := 0
def psaErrorNotPermitted : PsaStatus := -133
def psaErrorInvalidArgument : PsaStatus := -135
def psaErrorInsufficientData : PsaStatus := -143

abbrev ClientId := BitVec 32

abbrev Guid := BitVec 128

def storagePartitionAclAllowlistLen : Nat := 1

def storagePartitionAclMaxOwnerIdLen : Nat := 40

/-- The access control list. The list of a partition that was never initialized is what its memory
happens to hold. -/
structure StoragePartitionAcl where
  ownerId : Bytes
  allowlist : List ClientId
  deriving DecidableEq, Repr

def storagePartitionAclInit : StoragePartitionAcl := ⟨[], []⟩

section

variable (acl : StoragePartitionAcl)

def storagePartitionAclAdd (clientId : ClientId) : Bool × StoragePartitionAcl :=
  if acl.allowlist.length < storagePartitionAclAllowlistLen then
    (true, { acl with allowlist := acl.allowlist ++ [clientId] })
  else (false, acl)

/-- The owner is a string with a terminator that has to fit. -/
def storagePartitionAclSetOwnerId (ownerId : Bytes) : Bool × StoragePartitionAcl :=
  if ownerId.length + 1 > storagePartitionAclMaxOwnerIdLen then (false, acl)
  else (true, { acl with ownerId := ownerId })

def storagePartitionAclCheck (clientId : ClientId) : Bool :=
  acl.allowlist.contains clientId

/-- Without an authorizer, the first client is let in if there is no owner. -/
def storagePartitionAclAuthorize (clientId : ClientId)
    (authorizer : Option (ClientId → Bytes → Bool)) : Bool × StoragePartitionAcl :=
  if storagePartitionAclCheck acl clientId then (true, acl)
  else
    match authorizer with
    | some authorizer =>
      if authorizer clientId acl.ownerId then storagePartitionAclAdd acl clientId
      else (false, acl)
    | none =>
      if acl.allowlist.length = 0 ∧ acl.ownerId = [] then storagePartitionAclAdd acl clientId
      else (false, acl)

end

structure StoragePartition where
  partitionGuid : Guid
  blockSize : BitVec 64
  numBlocks : BitVec 64
  baseLba : BitVec 64
  acl : StoragePartitionAcl
  deriving DecidableEq, Repr

def storagePartitionInit (partitionGuid : Guid) (numBlocks blockSize : BitVec 64) :
    StoragePartition :=
  ⟨partitionGuid, blockSize, numBlocks, 0, storagePartitionAclInit⟩

section

variable (partition : StoragePartition)

def storagePartitionIsLbaLegal (lba : BitVec 64) : Bool :=
  lba < partition.numBlocks

def storagePartitionClipLength (lba offset reqLen : BitVec 64) : BitVec 64 :=
  if lba < partition.numBlocks then
    let remaining := (partition.numBlocks - lba) * partition.blockSize
    let remaining := if offset < remaining then remaining - offset else 0
    if reqLen > remaining then remaining else reqLen
  else 0

def storagePartitionClipNumBlocks (lba numBlocks : BitVec 64) : BitVec 64 :=
  if lba < partition.numBlocks then
    let remaining := partition.numBlocks - lba
    if numBlocks > remaining then remaining else numBlocks
  else 0

/-- A block device has one partition, with one handle. -/
def blockDeviceCheckAccessPermitted (clientId : ClientId) (handle : BitVec 32) : PsaStatus :=
  if handle ≠ 0 then psaErrorInvalidArgument
  else if storagePartitionAclCheck partition.acl clientId = false then psaErrorNotPermitted
  else psaSuccess

end

variable {acl : StoragePartitionAcl} {clientId : ClientId} {partition : StoragePartition}
  {lba : BitVec 64}

theorem storagePartitionAclCheck_iff :
    storagePartitionAclCheck acl clientId = true ↔ clientId ∈ acl.allowlist :=
  List.contains_iff_mem

theorem sub_toNat (legal : lba < partition.numBlocks) :
    (partition.numBlocks - lba).toNat = partition.numBlocks.toNat - lba.toNat :=
  BitVec.toNat_sub_of_le (BitVec.le_of_lt legal)

theorem storagePartitionClipLength_inside {offset reqLen : BitVec 64}
    (legal : lba < partition.numBlocks)
    (some : 0 < (storagePartitionClipLength partition lba offset reqLen).toNat) :
    offset.toNat + (storagePartitionClipLength partition lba offset reqLen).toNat ≤
      (partition.numBlocks.toNat - lba.toNat) * partition.blockSize.toNat := by
  have product : ((partition.numBlocks - lba) * partition.blockSize).toNat ≤
      (partition.numBlocks.toNat - lba.toNat) * partition.blockSize.toNat := by
    rw [BitVec.toNat_mul, sub_toNat legal]
    exact Nat.mod_le _ _
  unfold storagePartitionClipLength at some ⊢
  rw [if_pos legal] at some ⊢
  generalize (partition.numBlocks - lba) * partition.blockSize = remaining at *
  dsimp only at some ⊢
  by_cases inside : offset < remaining
  · rw [if_pos inside] at some ⊢
    have left : (remaining - offset).toNat = remaining.toNat - offset.toNat :=
      BitVec.toNat_sub_of_le (BitVec.le_of_lt inside)
    have lt : offset.toNat < remaining.toNat := inside
    split_ifs with short
    · omega
    · have le : reqLen.toNat ≤ (remaining - offset).toNat := Nat.le_of_not_lt short
      omega
  · rw [if_neg inside] at some
    exfalso
    split_ifs at some ⊢ with short
    · exact absurd some (Nat.lt_irrefl _)
    · have le : reqLen.toNat ≤ 0 := Nat.le_of_not_lt short
      omega

theorem storagePartitionClipNumBlocks_inside {numBlocks : BitVec 64}
    (legal : lba < partition.numBlocks) :
    (storagePartitionClipNumBlocks partition lba numBlocks).toNat ≤
      partition.numBlocks.toNat - lba.toNat := by
  unfold storagePartitionClipNumBlocks
  rw [if_pos legal]
  dsimp only
  have left := sub_toNat legal
  split_ifs with short
  · omega
  · have le : numBlocks.toNat ≤ (partition.numBlocks - lba).toNat := Nat.le_of_not_lt short
    omega

end BlockStorage
