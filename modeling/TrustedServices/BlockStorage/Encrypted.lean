import TrustedServices.Lib.Transition
import TrustedServices.BlockStorage.Ram

/- The encrypted block store over a store in memory. -/
namespace BlockStorage

open Lib

def blkAesBlockSize : Nat := 16

/-- The ciphers with the keys of the store, for texts of whole AES blocks. -/
structure BlockCipher where
  encryptSector : Bytes → Bytes
  encrypt : Bytes → Bytes → Bytes
  decrypt : Bytes → Bytes → Bytes
  length_encrypt : ∀ iv text, text.length % blkAesBlockSize = 0 →
    (encrypt iv text).length = text.length
  length_decrypt : ∀ iv text, text.length % blkAesBlockSize = 0 →
    (decrypt iv text).length = text.length
  decrypt_encrypt : ∀ iv text, text.length % blkAesBlockSize = 0 →
    decrypt iv (encrypt iv text) = text

structure EncryptedBlockStore where
  cipher : BlockCipher
  backStore : RamBlockStore

abbrev EncryptedBlockStore.blockSize (store : EncryptedBlockStore) : BitVec 64 :=
  store.backStore.blockSize

section

variable (cipher : BlockCipher) (lba : BitVec 64)

/-- The initialization vector of a block is its encrypted number. -/
def calculateEssiv : Bytes :=
  cipher.encryptSector (leBytes 8 lba.toNat ++ List.replicate 8 0)

def encryptBlock (plaintext : Bytes) : Bytes :=
  cipher.encrypt (calculateEssiv cipher lba) plaintext

def decryptBlock (ciphertext : Bytes) : Bytes :=
  cipher.decrypt (calculateEssiv cipher lba) ciphertext

end

section

variable (store : EncryptedBlockStore) (clientId : ClientId) (handle : BitVec 32)
  (lba offset bufferSize : BitVec 64)

/-- The decrypted block, and the length of the part that is asked for. -/
def internalEncryptedBlockStoreRead : Except PsaStatus (Bytes × BitVec 64) :=
  if offset ≥ store.blockSize then .error psaErrorInvalidArgument
  else
    match ramBlockStoreRead store.backStore clientId handle lba 0 store.blockSize with
    | .error status => .error status
    | .ok ciphertext =>
      if ciphertext.length ≠ store.blockSize.toNat then .error psaErrorInsufficientData
      else
        .ok (decryptBlock store.cipher lba ciphertext,
          transferLength store.blockSize offset bufferSize)

def encryptedBlockStoreRead : Except PsaStatus Bytes :=
  match internalEncryptedBlockStoreRead store clientId handle lba offset bufferSize with
  | .error status => .error status
  | .ok (plaintext, length) => .ok (slice plaintext offset.toNat length.toNat)

end

def patchBlock (block : Bytes) (offset : Nat) (data : Bytes) : Bytes :=
  block.take offset ++ data ++ block.drop (offset + data.length)

def encryptedBlockStoreWrite (store : EncryptedBlockStore) (clientId : ClientId)
    (handle : BitVec 32) (lba offset : BitVec 64) (data : Bytes) :
    Except PsaStatus (BitVec 64) × RamBlockStore :=
  if offset ≥ store.blockSize then (.error psaErrorInvalidArgument, store.backStore)
  else
    let length := transferLength store.blockSize offset (BitVec.ofNat 64 data.length)
    match internalEncryptedBlockStoreRead store clientId handle lba 0 store.blockSize with
    | .error status => (.error status, store.backStore)
    | .ok (plaintext, readLength) =>
      if readLength ≠ store.blockSize then (.error psaErrorInsufficientData, store.backStore)
      else
        let updated := patchBlock plaintext offset.toNat (data.take length.toNat)
        match ramBlockStoreWrite store.backStore clientId handle lba 0
            (encryptBlock store.cipher lba updated) with
        | (.error status, backStore) => (.error status, backStore)
        | (.ok numWritten, backStore) =>
          if numWritten ≠ store.blockSize then (.error psaErrorInsufficientData, backStore)
          else (.ok length, backStore)

section

variable {offset i : Nat}

theorem getElem?_patchBlock_inside {block data : Bytes}
    (fits : offset ≤ block.length) (inside : offset ≤ i ∧ i < offset + data.length) :
    (patchBlock block offset data)[i]? = data[i - offset]? := by
  unfold patchBlock
  have front : (block.take offset).length = offset := by
    rw [List.length_take]
    omega
  rw [List.append_assoc, List.getElem?_append_right (by omega), front,
    List.getElem?_append_left (by omega)]

theorem getElem?_patchBlock_outside {block data : Bytes}
    (fits : offset + data.length ≤ block.length) (outside : ¬(offset ≤ i ∧ i < offset + data.length)) :
    (patchBlock block offset data)[i]? = block[i]? := by
  unfold patchBlock
  have front : (block.take offset).length = offset := by
    rw [List.length_take]
    omega
  by_cases before : i < offset
  · rw [List.append_assoc, List.getElem?_append_left (by omega), List.getElem?_take, if_pos before]
  · rw [List.getElem?_append_right (by rw [List.length_append]; omega), List.length_append, front,
      List.getElem?_drop]
    congr 1
    omega

theorem length_patchBlock {block data : Bytes} (fits : offset + data.length ≤ block.length) :
    (patchBlock block offset data).length = block.length := by
  unfold patchBlock
  simp only [List.length_append, List.length_take, List.length_drop]
  omega

end

variable {store : EncryptedBlockStore} {clientId : ClientId} {handle : BitVec 32}
  {lba offset bufferSize : BitVec 64} {data : Bytes}

section

variable (store : EncryptedBlockStore)

def EncryptedBlockStore.Aligned : Prop :=
  store.blockSize.toNat % blkAesBlockSize = 0

def EncryptedBlockStore.IsOpen (clientId : ClientId) (handle : BitVec 32) : Prop :=
  blockDeviceCheckAccessPermitted store.backStore.storagePartition clientId handle = psaSuccess

/-- The contents of a block, as a client sees it. -/
def EncryptedBlockStore.plaintext (lba : BitVec 64) : Bytes :=
  decryptBlock store.cipher lba (store.backStore.bytes lba 0 store.blockSize.toNat)

end

theorem EncryptedBlockStore.length_plaintext (aligned : store.Aligned) (lba : BitVec 64) :
    (store.plaintext lba).length = store.blockSize.toNat := by
  unfold plaintext decryptBlock
  rw [store.cipher.length_decrypt _ _ (by rw [RamBlockStore.length_bytes]; exact aligned),
    RamBlockStore.length_bytes]

theorem transferLength_whole (blockSize : BitVec 64) :
    transferLength blockSize 0 blockSize = blockSize := by
  have whole : blockSize - 0 = blockSize := BitVec.sub_zero blockSize
  unfold transferLength
  rw [whole, ite_self]

section

variable (isOpen : store.IsOpen clientId handle)

include isOpen

section

variable (legal : storagePartitionIsLbaLegal store.backStore.storagePartition lba = true)
  (positive : 0 < store.blockSize)

include legal positive

theorem ramBlockStoreRead_whole :
    ramBlockStoreRead store.backStore clientId handle lba 0 store.blockSize =
      .ok (store.backStore.bytes lba 0 store.blockSize.toNat) := by
  rw [ramBlockStoreRead_eq isOpen, if_pos ⟨legal, positive⟩]
  show Except.ok (store.backStore.bytes lba 0
    (transferLength store.blockSize 0 store.blockSize).toNat) = _
  rw [transferLength_whole]

theorem ramBlockStoreWrite_whole (whole : data.length = store.blockSize.toNat) :
    ramBlockStoreWrite store.backStore clientId handle lba 0 data =
      (.ok store.blockSize, store.backStore.copy lba 0 data) := by
  have size : BitVec.ofNat 64 data.length = store.blockSize := by
    rw [whole, BitVec.ofNat_toNat, BitVec.setWidth_eq]
  rw [ramBlockStoreWrite_eq isOpen, if_pos ⟨legal, positive⟩, size]
  show (Except.ok (transferLength store.blockSize 0 store.blockSize), store.backStore.copy lba 0
    (data.take (transferLength store.blockSize 0 store.blockSize).toNat)) = _
  rw [transferLength_whole, ← whole, List.take_length]

end

theorem internalEncryptedBlockStoreRead_eq :
    internalEncryptedBlockStoreRead store clientId handle lba offset bufferSize =
      if storagePartitionIsLbaLegal store.backStore.storagePartition lba ∧
          offset < store.blockSize then
        .ok (store.plaintext lba, transferLength store.blockSize offset bufferSize)
      else .error psaErrorInvalidArgument := by
  unfold internalEncryptedBlockStoreRead
  by_cases inside : offset < store.blockSize
  · have notBeyond : ¬offset ≥ store.blockSize := Nat.not_le_of_lt inside
    rw [if_neg notBeyond]
    by_cases legal : storagePartitionIsLbaLegal store.backStore.storagePartition lba = true
    · rw [ramBlockStoreRead_whole isOpen legal (Nat.lt_of_le_of_lt (Nat.zero_le _) inside),
        if_pos ⟨legal, inside⟩]
      dsimp only
      rw [RamBlockStore.length_bytes, if_neg (fun differs => differs rfl)]
      rfl
    · rw [ramBlockStoreRead_eq isOpen, if_neg (fun both => legal both.1),
        if_neg (fun both => legal both.1)]
  · have beyond : offset ≥ store.blockSize := Nat.le_of_not_lt inside
    rw [if_pos beyond, if_neg (fun both => inside both.2)]

theorem encryptedBlockStoreRead_eq :
    encryptedBlockStoreRead store clientId handle lba offset bufferSize =
      if storagePartitionIsLbaLegal store.backStore.storagePartition lba ∧
          offset < store.blockSize then
        .ok (slice (store.plaintext lba) offset.toNat
          (transferLength store.blockSize offset bufferSize).toNat)
      else .error psaErrorInvalidArgument := by
  unfold encryptedBlockStoreRead
  rw [internalEncryptedBlockStoreRead_eq isOpen]
  by_cases served : storagePartitionIsLbaLegal store.backStore.storagePartition lba ∧
      offset < store.blockSize
  · rw [if_pos served, if_pos served]
  · rw [if_neg served, if_neg served]

end

theorem length_take_transferLength (inside : offset < store.blockSize) :
    (data.take (transferLength store.blockSize offset
      (BitVec.ofNat 64 data.length)).toNat).length =
      (transferLength store.blockSize offset (BitVec.ofNat 64 data.length)).toNat := by
  rw [List.length_take, transferLength_toNat inside, BitVec.toNat_ofNat]
  omega

def EncryptedBlockStore.updatedBlock (store : EncryptedBlockStore) (lba offset : BitVec 64)
    (data : Bytes) : Bytes :=
  patchBlock (store.plaintext lba) offset.toNat
    (data.take (transferLength store.blockSize offset (BitVec.ofNat 64 data.length)).toNat)

theorem EncryptedBlockStore.length_updatedBlock (aligned : store.Aligned)
    (inside : offset < store.blockSize) :
    (store.updatedBlock lba offset data).length = store.blockSize.toNat := by
  have before : offset.toNat < store.blockSize.toNat := inside
  unfold updatedBlock
  rw [length_patchBlock, length_plaintext aligned]
  rw [length_take_transferLength inside, transferLength_toNat inside, length_plaintext aligned]
  omega

theorem length_encryptBlock {cipher : BlockCipher} {block : Bytes}
    (aligned : block.length % blkAesBlockSize = 0) :
    (encryptBlock cipher lba block).length = block.length :=
  cipher.length_encrypt _ _ aligned

theorem encryptedBlockStoreWrite_eq (aligned : store.Aligned)
    (isOpen : store.IsOpen clientId handle) :
    encryptedBlockStoreWrite store clientId handle lba offset data =
      if storagePartitionIsLbaLegal store.backStore.storagePartition lba ∧
          offset < store.blockSize then
        (.ok (transferLength store.blockSize offset (BitVec.ofNat 64 data.length)),
          store.backStore.copy lba 0
            (encryptBlock store.cipher lba (store.updatedBlock lba offset data)))
      else (.error psaErrorInvalidArgument, store.backStore) := by
  unfold encryptedBlockStoreWrite
  by_cases inside : offset < store.blockSize
  · have notBeyond : ¬offset ≥ store.blockSize := Nat.not_le_of_lt inside
    have positive : 0 < store.blockSize := Nat.lt_of_le_of_lt (Nat.zero_le _) inside
    have size : (store.updatedBlock lba offset data).length = store.blockSize.toNat :=
      EncryptedBlockStore.length_updatedBlock aligned inside
    have whole : (encryptBlock store.cipher lba (store.updatedBlock lba offset data)).length =
        store.blockSize.toNat := by
      rw [length_encryptBlock (by rw [size]; exact aligned), size]
    rw [if_neg notBeyond, internalEncryptedBlockStoreRead_eq isOpen]
    by_cases legal : storagePartitionIsLbaLegal store.backStore.storagePartition lba = true
    · rw [if_pos ⟨legal, positive⟩, if_pos ⟨legal, inside⟩]
      dsimp only
      rw [transferLength_whole, if_neg (fun differs => differs rfl)]
      have written := ramBlockStoreWrite_whole isOpen legal positive whole
      unfold EncryptedBlockStore.updatedBlock at written ⊢
      rw [written]
      dsimp only
      rw [if_neg (fun differs => differs rfl)]
    · rw [if_neg (fun both => legal both.1), if_neg (fun both => legal both.1)]
  · have beyond : offset ≥ store.blockSize := Nat.le_of_not_lt inside
    rw [if_pos beyond, if_neg (fun both => inside both.2)]

end BlockStorage
