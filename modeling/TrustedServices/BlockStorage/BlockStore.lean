import TrustedServices.Lib.Window
import TrustedServices.BlockStorage.Ram

/- Block stores that clip each access to one block, and the store in memory as one. -/
namespace BlockStorage

open Lib

structure StoragePartitionInfo where
  blockSize : BitVec 64
  numBlocks : BitVec 64
  deriving DecidableEq, Repr

structure BlockStore (State : Type) where
  getPartitionInfo : State → Guid → Except PsaStatus StoragePartitionInfo
  openPartition : State → ClientId → Guid → Except PsaStatus (BitVec 32) × State
  close : State → ClientId → BitVec 32 → PsaStatus × State
  read : State → ClientId → BitVec 32 → BitVec 64 → BitVec 64 → BitVec 64 → Except PsaStatus Bytes
  write : State → ClientId → BitVec 32 → BitVec 64 → BitVec 64 → Bytes →
    Except PsaStatus (BitVec 64) × State

/-- A store whose partitions hold their blocks, with each access to a partition that is open clipped
to one block. `cell` is the byte of a block, and `isOpen` what an open leaves until the close. -/
structure ClippingStore (State : Type) extends BlockStore State where
  cell : State → Guid → Nat → Nat → UInt8
  isOpen : State → ClientId → Guid → BitVec 32 → Prop
  open_ok : ∀ state client guid handle,
    (openPartition state client guid).1 = .ok handle →
      isOpen (openPartition state client guid).2 client guid handle
  open_keeps : ∀ state client guid handle, isOpen state client guid handle →
    isOpen (openPartition state client guid).2 client guid handle
  open_info : ∀ state client guid,
    getPartitionInfo (openPartition state client guid).2 guid = getPartitionInfo state guid
  open_cell : ∀ state client guid, cell (openPartition state client guid).2 guid = cell state guid
  close_info : ∀ state client guid handle,
    getPartitionInfo (close state client handle).2 guid = getPartitionInfo state guid
  close_cell : ∀ state client guid handle, cell (close state client handle).2 guid = cell state guid
  read_clips : ∀ state client guid handle info lba offset length,
    isOpen state client guid handle → getPartitionInfo state guid = .ok info →
      lba < info.numBlocks → offset < info.blockSize →
        read state client handle lba offset length =
          .ok (window (cell state guid lba.toNat) offset.toNat
            (transferLength info.blockSize offset length).toNat)
  write_clips : ∀ state client guid handle info lba offset data,
    isOpen state client guid handle → getPartitionInfo state guid = .ok info →
      lba < info.numBlocks → offset < info.blockSize →
        (write state client handle lba offset data).1 =
            .ok (transferLength info.blockSize offset (BitVec.ofNat 64 data.length)) ∧
          isOpen (write state client handle lba offset data).2 client guid handle ∧
          getPartitionInfo (write state client handle lba offset data).2 guid = .ok info ∧
          ∀ block i, i < info.blockSize.toNat →
            cell (write state client handle lba offset data).2 guid block i =
              if block = lba.toNat then
                overlay (cell state guid block) offset.toNat (data.take
                  (transferLength info.blockSize offset (BitVec.ofNat 64 data.length)).toNat) i
              else cell state guid block i

section

variable (store : RamBlockStore) (clientId : ClientId) (guid : Guid)

def blockDeviceGetPartitionInfo (partition : StoragePartition) :
    Except PsaStatus StoragePartitionInfo :=
  if partition.partitionGuid = guid then .ok ⟨partition.blockSize, partition.numBlocks⟩
  else .error psaErrorInvalidArgument

def blockDeviceOpen (partition : StoragePartition) :
    Except PsaStatus (BitVec 32) × StoragePartition :=
  if partition.partitionGuid = guid then
    let (permitted, acl) := storagePartitionAclAuthorize partition.acl clientId none
    (if permitted then .ok 0 else .error psaErrorNotPermitted, { partition with acl })
  else (.error psaErrorNotPermitted, partition)

def ramBlockStoreOpen : Except PsaStatus (BitVec 32) × RamBlockStore :=
  let (result, storagePartition) := blockDeviceOpen clientId guid store.storagePartition
  (result, { store with storagePartition })

def ramBlockStore : BlockStore RamBlockStore where
  getPartitionInfo store guid := blockDeviceGetPartitionInfo guid store.storagePartition
  openPartition := ramBlockStoreOpen
  close store clientId handle :=
    (blockDeviceCheckAccessPermitted store.storagePartition clientId handle, store)
  read := ramBlockStoreRead
  write := ramBlockStoreWrite

/-- The client may use the handle of the partition. -/
def RamBlockStore.IsOpen (handle : BitVec 32) : Prop :=
  store.storagePartition.partitionGuid = guid ∧ handle = 0 ∧
    storagePartitionAclCheck store.storagePartition.acl clientId = true

/-- The byte of a block. -/
def RamBlockStore.cell (block i : Nat) : UInt8 :=
  store.ramBackStore (block * store.blockSize.toNat + i)

end

variable {store : RamBlockStore} {clientId : ClientId} {guid : Guid} {handle : BitVec 32}

theorem RamBlockStore.IsOpen.permitted (held : store.IsOpen clientId guid handle) :
    blockDeviceCheckAccessPermitted store.storagePartition clientId handle = psaSuccess := by
  simp [blockDeviceCheckAccessPermitted, held.2.1, held.2.2]

theorem RamBlockStore.IsOpen.info {info : StoragePartitionInfo}
    (held : store.IsOpen clientId guid handle)
    (known : blockDeviceGetPartitionInfo guid store.storagePartition = .ok info) :
    ⟨store.blockSize, store.numBlocks⟩ = info := by
  unfold blockDeviceGetPartitionInfo at known
  rw [if_pos held.1] at known
  exact Except.ok.inj known

theorem ramBlockStoreOpen_partition :
    (ramBlockStoreOpen store clientId guid).2.cell = store.cell ∧
      blockDeviceGetPartitionInfo guid (ramBlockStoreOpen store clientId guid).2.storagePartition =
        blockDeviceGetPartitionInfo guid store.storagePartition := by
  unfold ramBlockStoreOpen blockDeviceOpen
  by_cases matched : store.storagePartition.partitionGuid = guid
  · rw [if_pos matched]
    exact ⟨rfl, rfl⟩
  · rw [if_neg matched]
    exact ⟨rfl, rfl⟩

theorem ramBlockStoreOpen_ok
    (opened : (ramBlockStoreOpen store clientId guid).1 = .ok handle) :
    (ramBlockStoreOpen store clientId guid).2.IsOpen clientId guid handle := by
  unfold ramBlockStoreOpen blockDeviceOpen storagePartitionAclAuthorize storagePartitionAclAdd
    at opened ⊢
  unfold RamBlockStore.IsOpen
  split_ifs at opened ⊢ <;> simp_all [storagePartitionAclCheck]

theorem ramBlockStoreOpen_keeps (held : store.IsOpen clientId guid handle) :
    (ramBlockStoreOpen store clientId guid).2.IsOpen clientId guid handle := by
  apply ramBlockStoreOpen_ok
  simp [ramBlockStoreOpen, blockDeviceOpen, storagePartitionAclAuthorize, held.1, held.2.1,
    held.2.2]

theorem RamBlockStore.cell_copy {lba : BitVec 64} {offset block i : Nat} {data : Bytes}
    (fits : offset + data.length ≤ store.blockSize.toNat)
    (inside : i < store.blockSize.toNat) :
    (store.copy lba offset data).cell block i =
      if block = lba.toNat then overlay (store.cell block) offset data i else store.cell block i := by
  unfold RamBlockStore.cell RamBlockStore.copy RamBlockStore.address
  dsimp only
  split_ifs with covered same same
  · subst same
    unfold overlay
    rw [if_pos (by omega), List.getD_eq_getElem?_getD, List.getElem?_eq_getElem (by omega),
      List.getElem?_eq_getElem (by omega)]
    simp only [Option.getD_some]
    congr 1
    omega
  · -- The bytes of the other blocks are not where a copy into a block is.
    exfalso
    rcases Nat.lt_or_gt_of_ne same with before | behind
    · have next := Nat.mul_le_mul_right store.blockSize.toNat before
      rw [Nat.succ_mul] at next
      omega
    · have next := Nat.mul_le_mul_right store.blockSize.toNat behind
      rw [Nat.succ_mul] at next
      omega
  · subst same
    rw [overlay_outside (by omega)]
  · rfl

/-- The store in memory clips. -/
def ramClippingStore : ClippingStore RamBlockStore where
  toBlockStore := ramBlockStore
  cell store _ := store.cell
  isOpen := RamBlockStore.IsOpen
  open_ok _ _ _ _ := ramBlockStoreOpen_ok
  open_keeps _ _ _ _ := ramBlockStoreOpen_keeps
  open_info _ _ _ := ramBlockStoreOpen_partition.2
  open_cell _ _ _ := ramBlockStoreOpen_partition.1
  close_info _ _ _ _ := rfl
  close_cell _ _ _ _ := rfl
  read_clips := by
    intro store client guid handle info lba offset length held known legal inside
    obtain rfl := held.info known
    refine (ramBlockStoreRead_eq held.permitted).trans ?_
    rw [if_pos ⟨decide_eq_true legal, inside⟩]
    simp only [RamBlockStore.bytes, RamBlockStore.address, RamBlockStore.cell, window,
      Nat.add_assoc]
  write_clips := by
    intro store client guid handle info lba offset data held known legal inside
    obtain rfl := held.info known
    have stored : ramBlockStoreWrite store client handle lba offset data = _ :=
      (ramBlockStoreWrite_eq held.permitted).trans (if_pos ⟨decide_eq_true legal, inside⟩)
    simp only [ramBlockStore]
    rw [stored]
    exact ⟨rfl, held, known,
      fun _ _ within => RamBlockStore.cell_copy (transferLength_fits inside) within⟩

end BlockStorage
