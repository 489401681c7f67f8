import TrustedServices.BlockStorage.StoragePartition

/- The block store in memory: a block device with one partition. -/
namespace BlockStorage

open Lib

/-- The bytes of the memory, with a memory that is as large as the blocks together. -/
structure RamBlockStore extends storagePartition : StoragePartition where
  ramBackStore : Nat → UInt8

section

variable (store : RamBlockStore) (lba : BitVec 64)

def RamBlockStore.address (offset : Nat) : Nat :=
  lba.toNat * store.blockSize.toNat + offset

def RamBlockStore.bytes (offset length : Nat) : Bytes :=
  (List.range length).map fun i => store.ramBackStore (store.address lba offset + i)

def RamBlockStore.copy (offset : Nat) (data : Bytes) : RamBlockStore :=
  { store with
    ramBackStore := fun address =>
      if store.address lba offset ≤ address ∧ address < store.address lba offset + data.length then
        data.getD (address - store.address lba offset) 0
      else store.ramBackStore address }

end

/-- How much of a transfer at an offset lies in the block. -/
def transferLength (blockSize offset length : BitVec 64) : BitVec 64 :=
  if length < blockSize - offset then length else blockSize - offset

section

variable (store : RamBlockStore) (clientId : ClientId) (handle : BitVec 32)

def ramBlockStoreRead (lba offset bufferSize : BitVec 64) : Except PsaStatus Bytes :=
  let status := blockDeviceCheckAccessPermitted store.storagePartition clientId handle
  if status ≠ psaSuccess then .error status
  else if storagePartitionIsLbaLegal store.storagePartition lba ∧
      offset < store.blockSize then
    .ok (store.bytes lba offset.toNat (transferLength store.blockSize offset bufferSize).toNat)
  else .error psaErrorInvalidArgument

def ramBlockStoreWrite
    (lba offset : BitVec 64) (data : Bytes) : Except PsaStatus (BitVec 64) × RamBlockStore :=
  let status := blockDeviceCheckAccessPermitted store.storagePartition clientId handle
  if status ≠ psaSuccess then (.error status, store)
  else if storagePartitionIsLbaLegal store.storagePartition lba ∧
      offset < store.blockSize then
    let length := transferLength store.blockSize offset
      (BitVec.ofNat 64 data.length)
    (.ok length, store.copy lba offset.toNat (data.take length.toNat))
  else (.error psaErrorInvalidArgument, store)

end

variable {store : RamBlockStore} {lba other : BitVec 64} {offset length : Nat} {data : Bytes}

@[simp] theorem RamBlockStore.length_bytes : (store.bytes lba offset length).length = length := by
  simp [RamBlockStore.bytes]

theorem RamBlockStore.getElem?_bytes {i : Nat} (inside : i < length) :
    (store.bytes lba offset length)[i]? =
      some (store.ramBackStore (store.address lba offset + i)) := by
  simp [RamBlockStore.bytes, inside]

theorem transferLength_toNat {blockSize offset length : BitVec 64} (inside : offset < blockSize) :
    (transferLength blockSize offset length).toNat =
      min length.toNat (blockSize.toNat - offset.toNat) := by
  have rest : (blockSize - offset).toNat = blockSize.toNat - offset.toNat :=
    BitVec.toNat_sub_of_le (BitVec.le_of_lt inside)
  unfold transferLength
  split_ifs with long
  · have lt : length.toNat < (blockSize - offset).toNat := long
    omega
  · have le : (blockSize - offset).toNat ≤ length.toNat := Nat.le_of_not_lt long
    omega

theorem transferLength_fits {blockSize offset : BitVec 64} {data : Bytes}
    (inside : offset < blockSize) :
    offset.toNat + (data.take (transferLength blockSize offset
      (BitVec.ofNat 64 data.length)).toNat).length ≤ blockSize.toNat := by
  have below : offset.toNat < blockSize.toNat := inside
  rw [List.length_take, transferLength_toNat inside]
  omega

theorem RamBlockStore.address_apart {i j : Nat} (different : other ≠ lba)
    (left : i < store.blockSize.toNat)
    (right : j < store.blockSize.toNat) :
    store.address other i ≠ store.address lba j := by
  intro same
  apply different
  apply BitVec.eq_of_toNat_eq
  unfold RamBlockStore.address at same
  have quotient := congrArg (· / store.blockSize.toNat) same
  rw [Nat.mul_comm, Nat.mul_add_div (by omega), Nat.div_eq_of_lt left, Nat.mul_comm,
    Nat.mul_add_div (by omega), Nat.div_eq_of_lt right] at quotient
  simpa using quotient

theorem RamBlockStore.copy_inside {i : Nat} (inside : i < data.length) :
    (store.copy lba offset data).ramBackStore (store.address lba offset + i) = data.getD i 0 := by
  unfold RamBlockStore.copy
  dsimp only
  rw [if_pos ⟨Nat.le_add_right _ _, Nat.add_lt_add_left inside _⟩, Nat.add_sub_cancel_left]

theorem RamBlockStore.bytes_copy_same :
    (store.copy lba offset data).bytes lba offset data.length = data := by
  apply List.ext_getElem?
  intro i
  by_cases inside : i < data.length
  · rw [RamBlockStore.getElem?_bytes inside]
    show some ((store.copy lba offset data).ramBackStore (store.address lba offset + i)) = _
    rw [RamBlockStore.copy_inside inside, List.getD_eq_getElem?_getD,
      List.getElem?_eq_getElem inside]
    rfl
  · rw [List.getElem?_eq_none (by rw [RamBlockStore.length_bytes]; omega),
      List.getElem?_eq_none (by omega)]

theorem RamBlockStore.bytes_copy_other (different : other ≠ lba)
    (fits : offset + data.length ≤ store.blockSize.toNat)
    (inside : length ≤ store.blockSize.toNat) :
    (store.copy lba offset data).bytes other 0 length = store.bytes other 0 length := by
  apply List.map_congr_left
  intro i member
  have before : i < length := List.mem_range.mp member
  show (store.copy lba offset data).ramBackStore (store.address other 0 + i) = _
  refine if_neg ?_
  intro touched
  have apart : ∀ j < store.blockSize.toNat,
      store.address other i ≠ store.address lba j :=
    fun j => RamBlockStore.address_apart different (by omega)
  apply apart (store.address other i - store.address lba 0) <;>
  · unfold RamBlockStore.address at touched ⊢
    omega

variable {clientId : ClientId}

theorem ramBlockStoreRead_eq {handle : BitVec 32} {offset bufferSize : BitVec 64}
    (permitted : blockDeviceCheckAccessPermitted store.storagePartition clientId handle =
      psaSuccess) :
    ramBlockStoreRead store clientId handle lba offset bufferSize =
      if storagePartitionIsLbaLegal store.storagePartition lba ∧
          offset < store.blockSize then
        .ok (store.bytes lba offset.toNat (transferLength store.blockSize offset bufferSize).toNat)
      else .error psaErrorInvalidArgument := by
  unfold ramBlockStoreRead
  rw [permitted, if_neg (fun differs => differs rfl)]

theorem ramBlockStoreWrite_eq {handle : BitVec 32} {offset : BitVec 64}
    (permitted : blockDeviceCheckAccessPermitted store.storagePartition clientId handle =
      psaSuccess) :
    ramBlockStoreWrite store clientId handle lba offset data =
      if storagePartitionIsLbaLegal store.storagePartition lba ∧
          offset < store.blockSize then
        (.ok (transferLength store.blockSize offset
            (BitVec.ofNat 64 data.length)),
          store.copy lba offset.toNat (data.take (transferLength store.blockSize
            offset (BitVec.ofNat 64 data.length)).toNat))
      else (.error psaErrorInvalidArgument, store) := by
  unfold ramBlockStoreWrite
  rw [permitted, if_neg (fun differs => differs rfl)]

end BlockStorage
