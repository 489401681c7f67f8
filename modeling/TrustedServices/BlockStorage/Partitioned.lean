import TrustedServices.BlockStorage.StoragePartition

/- The partitioned block store, which moves requests to the blocks of a partition. -/
namespace BlockStorage

open Lib

def partitionedBlockStoreMaxPartitions : Nat := 8

structure BackStoreInfo where
  numBlocks : BitVec 64
  blockSize : BitVec 64
  partitionGuid : Guid
  deriving DecidableEq, Repr

/-- A store with its table of partitions, of which the first `numPartitions` are configured. The
others hold what their memory happens to hold. The config listener gives the first and the last
block of a partition to configure on demand. -/
structure PartitionedBlockStore where
  authorizer : Option (ClientId → Bytes → Bool)
  configListener : Option (Guid → BackStoreInfo → Option (BitVec 64 × BitVec 64))
  numPartitions : Nat
  storagePartition : Fin partitionedBlockStoreMaxPartitions → StoragePartition
  backStoreInfo : BackStoreInfo

inductive BackCall
  | read (lba offset bufferSize : BitVec 64)
  | write (lba offset : BitVec 64) (data : Bytes)
  | erase (beginLba numBlocks : BitVec 64)
  deriving DecidableEq, Repr

section

variable (store : PartitionedBlockStore)

def partitionedBlockStoreAddPartition (partitionGuid : Guid)
    (startingLba endingLba : BitVec 64) : Bool × PartitionedBlockStore :=
  if free : store.numPartitions < partitionedBlockStoreMaxPartitions then
    if startingLba > endingLba ∨ endingLba ≥ store.backStoreInfo.numBlocks then (false, store)
    else
      let partition := { storagePartitionInit partitionGuid (endingLba - startingLba + 1)
        store.backStoreInfo.blockSize with baseLba := startingLba }
      (true, { store with
        numPartitions := store.numPartitions + 1
        storagePartition := Function.update store.storagePartition
          ⟨store.numPartitions, free⟩ partition })
  else (false, store)

section

variable (index : Fin partitionedBlockStoreMaxPartitions)

def PartitionedBlockStore.setAcl (acl : StoragePartitionAcl) : PartitionedBlockStore :=
  { store with
    storagePartition := Function.update store.storagePartition index
      { store.storagePartition index with acl := acl } }

def storagePartitionGrantAccess (clientId : ClientId) : PartitionedBlockStore :=
  store.setAcl index (storagePartitionAclAdd (store.storagePartition index).acl clientId).2

def storagePartitionAssignOwnership (ownerId : Bytes) : PartitionedBlockStore :=
  store.setAcl index (storagePartitionAclSetOwnerId (store.storagePartition index).acl ownerId).2

end

def PartitionedBlockStore.search (partitionGuid : Guid) :
    Option (Fin partitionedBlockStoreMaxPartitions) :=
  (List.finRange partitionedBlockStoreMaxPartitions).find? fun index =>
    index.val < store.numPartitions && (store.storagePartition index).partitionGuid == partitionGuid

/-- The search is repeated once if the listener has configured a partition. -/
def findByPartitionGuid (partitionGuid : Guid) :
    Option (Fin partitionedBlockStoreMaxPartitions) × PartitionedBlockStore :=
  match store.search partitionGuid with
  | some index => (some index, store)
  | none =>
    match store.configListener with
    | none => (none, store)
    | some configListener =>
      match configListener partitionGuid store.backStoreInfo with
      | none => (none, store)
      | some (startingLba, endingLba) =>
        let added := partitionedBlockStoreAddPartition store partitionGuid startingLba
          endingLba
        if added.1 then (added.2.search partitionGuid, added.2) else (none, added.2)

section

variable (clientId : ClientId)

/-- The handle is only compared with the size of the table. -/
def validatePartitionRequest (handle : BitVec 32) : Except PsaStatus StoragePartition :=
  if inside : handle.toNat < partitionedBlockStoreMaxPartitions then
    let partition := store.storagePartition ⟨handle.toNat, inside⟩
    if storagePartitionAclCheck partition.acl clientId then .ok partition
    else .error psaErrorNotPermitted
  else .error psaErrorInvalidArgument

def partitionedBlockStoreOpen
    (partitionGuid : Guid) : Except PsaStatus (BitVec 32) × PartitionedBlockStore :=
  match findByPartitionGuid store partitionGuid with
  | (none, store) => (.error psaErrorInvalidArgument, store)
  | (some index, store) =>
    let authorized := storagePartitionAclAuthorize (store.storagePartition index).acl clientId
      store.authorizer
    let store := store.setAcl index authorized.2
    if authorized.1 then (.ok (BitVec.ofNat 32 index), store)
    else (.error psaErrorNotPermitted, store)

section

variable (handle : BitVec 32)

def partitionedBlockStoreClose : PsaStatus :=
  match validatePartitionRequest store clientId handle with
  | .error status => status
  | .ok _ => psaSuccess

/-- What the reads, the writes and the erasures have in common. -/
def forwardRequest
    (lba : BitVec 64) (call : StoragePartition → BackCall) : Except PsaStatus BackCall :=
  match validatePartitionRequest store clientId handle with
  | .error status => .error status
  | .ok partition =>
    if storagePartitionIsLbaLegal partition lba then .ok (call partition)
    else .error psaErrorInvalidArgument

def partitionedBlockStoreRead (lba offset bufferSize : BitVec 64) : Except PsaStatus BackCall :=
  forwardRequest store clientId handle lba fun partition =>
    .read (partition.baseLba + lba) offset
      (storagePartitionClipLength partition lba offset bufferSize)

def partitionedBlockStoreWrite (lba offset : BitVec 64) (data : Bytes) : Except PsaStatus BackCall :=
  forwardRequest store clientId handle lba fun partition =>
    .write (partition.baseLba + lba) offset
      (data.take (storagePartitionClipLength partition lba offset
        (BitVec.ofNat 64 data.length)).toNat)

def partitionedBlockStoreErase (beginLba numBlocks : BitVec 64) : Except PsaStatus BackCall :=
  forwardRequest store clientId handle beginLba fun partition =>
    .erase (partition.baseLba + beginLba)
      (storagePartitionClipNumBlocks partition beginLba numBlocks)

end

end

end

end BlockStorage
