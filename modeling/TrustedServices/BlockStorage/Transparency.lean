import TrustedServices.BlockStorage.Encrypted

/- An encrypted store and a plain store under the same reads and writes. -/
namespace BlockStorage

open Lib

section

variable {store : EncryptedBlockStore} {lba other offset : BitVec 64} {data : Bytes}

def EncryptedBlockStore.written (store : EncryptedBlockStore) (lba offset : BitVec 64)
    (data : Bytes) : EncryptedBlockStore :=
  { store with
    backStore := store.backStore.copy lba 0
      (encryptBlock store.cipher lba (store.updatedBlock lba offset data)) }

section

variable (aligned : store.Aligned) (inside : offset < store.blockSize)

include aligned inside

theorem EncryptedBlockStore.plaintext_written_same :
    (store.written lba offset data).plaintext lba = store.updatedBlock lba offset data := by
  have size : (store.updatedBlock lba offset data).length = store.blockSize.toNat :=
    length_updatedBlock aligned inside
  have whole : (store.updatedBlock lba offset data).length % blkAesBlockSize = 0 := by
    rw [size]
    exact aligned
  have stored : (store.written lba offset data).backStore.bytes lba 0
      (encryptBlock store.cipher lba (store.updatedBlock lba offset data)).length =
        encryptBlock store.cipher lba (store.updatedBlock lba offset data) :=
    RamBlockStore.bytes_copy_same
  rw [length_encryptBlock whole, size] at stored
  show decryptBlock store.cipher lba ((store.written lba offset data).backStore.bytes lba 0
    store.blockSize.toNat) = _
  rw [stored]
  exact store.cipher.decrypt_encrypt _ _ whole

theorem EncryptedBlockStore.plaintext_written_other (different : other ≠ lba) :
    (store.written lba offset data).plaintext other = store.plaintext other := by
  have size : (store.updatedBlock lba offset data).length = store.blockSize.toNat :=
    length_updatedBlock aligned inside
  have fits : 0 + (encryptBlock store.cipher lba (store.updatedBlock lba offset data)).length ≤
      store.blockSize.toNat := by
    rw [length_encryptBlock (by rw [size]; exact aligned), size, Nat.zero_add]
  have stored : (store.written lba offset data).backStore.bytes other 0 store.blockSize.toNat =
      store.backStore.bytes other 0 store.blockSize.toNat :=
    RamBlockStore.bytes_copy_other different fits (Nat.le_refl _)
  show decryptBlock store.cipher other ((store.written lba offset data).backStore.bytes other 0
    store.blockSize.toNat) = _
  rw [stored]
  rfl

/-- A byte of the plaintext after a write: from the data in the written part, and as
before everywhere else. -/
theorem EncryptedBlockStore.getElem?_plaintext_written (i : Nat) :
    ((store.written lba offset data).plaintext other)[i]? =
      if other = lba ∧ offset.toNat ≤ i ∧ i < offset.toNat +
          (transferLength store.blockSize offset (BitVec.ofNat 64 data.length)).toNat then
        data[i - offset.toNat]?
      else (store.plaintext other)[i]? := by
  by_cases same : other = lba
  · subst same
    have before : offset.toNat < store.blockSize.toNat := inside
    have size : (store.plaintext other).length = store.blockSize.toNat := length_plaintext aligned _
    have taken := @length_take_transferLength store offset data inside
    have fits := @transferLength_toNat _ _ (BitVec.ofNat 64 data.length) inside
    rw [plaintext_written_same aligned inside]
    unfold updatedBlock
    by_cases touched : offset.toNat ≤ i ∧ i < offset.toNat +
        (transferLength store.blockSize offset (BitVec.ofNat 64 data.length)).toNat
    · rw [if_pos ⟨rfl, touched⟩, getElem?_patchBlock_inside (by omega) (by omega),
        List.getElem?_take, if_pos (by omega)]
    · rw [if_neg (fun both => touched both.2),
        getElem?_patchBlock_outside (by omega) (by rw [taken]; exact touched)]
  · rw [plaintext_written_other aligned inside same, if_neg (fun both => same both.1)]

end

end

inductive StoreCall
  | read (clientId : ClientId) (handle : BitVec 32) (lba offset bufferSize : BitVec 64)
  | write (clientId : ClientId) (handle : BitVec 32) (lba offset : BitVec 64) (data : Bytes)

/-- The two stores, with the byte that was last written at each place. -/
structure StorePair where
  encrypted : EncryptedBlockStore
  plain : RamBlockStore
  last : BitVec 64 → Nat → Option UInt8

/-- Two stores over one kind of device, with any contents of the memories. -/
def StorePair.initial (cipher : BlockCipher) (storagePartition : StoragePartition)
    (encryptedMemory plainMemory : Nat → UInt8) : StorePair :=
  ⟨⟨cipher, storagePartition, encryptedMemory⟩, ⟨storagePartition, plainMemory⟩, fun _ _ => none⟩

/-- What a write of the plain store leaves as the last written bytes. -/
def noteWrite (last : BitVec 64 → Nat → Option UInt8) (lba offset : BitVec 64) (data : Bytes) :
    Except PsaStatus (BitVec 64) → BitVec 64 → Nat → Option UInt8
  | .error _ => last
  | .ok numWritten => fun other i =>
    if other = lba ∧ offset.toNat ≤ i ∧ i < offset.toNat + numWritten.toNat then
      data[i - offset.toNat]?
    else last other i

/-- One call, made to both stores. A read changes neither of them. -/
def StorePair.step (pair : StorePair) : StoreCall → StorePair
  | .read .. => pair
  | .write clientId handle lba offset data =>
    let plain := ramBlockStoreWrite pair.plain clientId handle lba offset data
    { encrypted :=
        { pair.encrypted with
          backStore := (encryptedBlockStoreWrite pair.encrypted clientId handle lba offset data).2 }
      plain := plain.2
      last := noteWrite pair.last lba offset data plain.1 }

/-- A client of the encrypted store sees the plain store. -/
structure StorePair.Transparent (pair : StorePair) (clientId : ClientId) (handle : BitVec 32) :
    Prop where
  write_same : ∀ lba offset data,
    (encryptedBlockStoreWrite pair.encrypted clientId handle lba offset data).1 =
      (ramBlockStoreWrite pair.plain clientId handle lba offset data).1
  read_same : ∀ lba offset bufferSize,
    (encryptedBlockStoreRead pair.encrypted clientId handle lba offset bufferSize).map
        List.length =
      (ramBlockStoreRead pair.plain clientId handle lba offset bufferSize).map List.length
  read_last : ∀ lba offset bufferSize bytes,
    encryptedBlockStoreRead pair.encrypted clientId handle lba offset bufferSize = .ok bytes →
      ∀ i < bytes.length, ∀ byte, pair.last lba (offset.toNat + i) = some byte →
        bytes[i]? = some byte
  write_rest : ∀ lba offset data numWritten backStore,
    encryptedBlockStoreWrite pair.encrypted clientId handle lba offset data =
        (.ok numWritten, backStore) →
      ∀ other i, (other ≠ lba ∨ i < offset.toNat ∨ offset.toNat + numWritten.toNat ≤ i) →
        (EncryptedBlockStore.plaintext { pair.encrypted with backStore } other)[i]? =
          (pair.encrypted.plaintext other)[i]?

section

variable {store : EncryptedBlockStore} {pair : StorePair} {storagePartition : StoragePartition}
  {clientId : ClientId} {handle : BitVec 32} {lba offset : BitVec 64} {data : Bytes}

theorem encryptedBlockStoreWrite_refused (refused : ¬store.IsOpen clientId handle) :
    (encryptedBlockStoreWrite store clientId handle lba offset data).2 = store.backStore := by
  have denied : blockDeviceCheckAccessPermitted store.backStore.storagePartition clientId handle ≠
      psaSuccess := refused
  unfold encryptedBlockStoreWrite internalEncryptedBlockStoreRead ramBlockStoreRead
  rw [if_pos denied]
  split
  · rfl
  · by_cases empty : (0 : BitVec 64) ≥ store.blockSize
    · rw [if_pos empty]
    · rw [if_neg empty]

/-- What every pair of a run keeps: the device of both stores, and that the plaintext
holds what was last written. -/
structure StorePair.Agrees (storagePartition : StoragePartition) (pair : StorePair) : Prop where
  encrypted : pair.encrypted.backStore.storagePartition = storagePartition
  plain : pair.plain.storagePartition = storagePartition
  last : ∀ lba i byte, pair.last lba i = some byte →
    (pair.encrypted.plaintext lba)[i]? = some byte

section

variable (agrees : pair.Agrees storagePartition)
  (aligned : storagePartition.blockSize.toNat % blkAesBlockSize = 0)

include agrees aligned

theorem StorePair.Agrees.write :
    (pair.step (.write clientId handle lba offset data)).Agrees storagePartition := by
  obtain ⟨store, plain, last⟩ := pair
  obtain ⟨rfl, plainDevice, holds⟩ := agrees
  have blocks : store.Aligned := aligned
  unfold step
  dsimp only
  by_cases isOpen : store.IsOpen clientId handle
  · rw [ramBlockStoreWrite_eq (by rw [plainDevice]; exact isOpen),
      encryptedBlockStoreWrite_eq blocks isOpen, plainDevice]
    by_cases served : storagePartitionIsLbaLegal store.backStore.storagePartition lba ∧
        offset < store.blockSize
    · rw [if_pos served, if_pos served]
      refine ⟨rfl, plainDevice, ?_⟩
      intro other i byte noted
      refine (EncryptedBlockStore.getElem?_plaintext_written blocks served.2 i).trans ?_
      dsimp only [noteWrite] at noted
      split_ifs at noted ⊢ with untouched
      · rw [noted]
      · rw [holds _ _ _ noted]
    · rw [if_neg served, if_neg served]
      exact ⟨rfl, plainDevice, holds⟩
  · unfold ramBlockStoreWrite
    rw [if_pos (by rw [plainDevice]; exact isOpen), encryptedBlockStoreWrite_refused isOpen]
    exact ⟨rfl, plainDevice, holds⟩

theorem StorePair.Agrees.transparent
    (permitted : blockDeviceCheckAccessPermitted storagePartition clientId handle = psaSuccess) :
    pair.Transparent clientId handle := by
  obtain ⟨store, plain, last⟩ := pair
  obtain ⟨rfl, plainDevice, holds⟩ := agrees
  have blocks : store.Aligned := aligned
  have isOpen : store.IsOpen clientId handle := permitted
  have plainOpen : blockDeviceCheckAccessPermitted plain.storagePartition clientId handle =
      psaSuccess := by
    rw [plainDevice]
    exact permitted
  constructor
  case write_same =>
    intro lba offset data
    rw [ramBlockStoreWrite_eq plainOpen, encryptedBlockStoreWrite_eq blocks isOpen, plainDevice]
    by_cases served : storagePartitionIsLbaLegal store.backStore.storagePartition lba ∧
        offset < store.blockSize
    · rw [if_pos served, if_pos served]
    · rw [if_neg served, if_neg served]
  case read_same =>
    intro lba offset bufferSize
    rw [ramBlockStoreRead_eq plainOpen, encryptedBlockStoreRead_eq isOpen, plainDevice]
    by_cases served : storagePartitionIsLbaLegal store.backStore.storagePartition lba ∧
        offset < store.blockSize
    · have before : offset.toNat < store.blockSize.toNat := served.2
      rw [if_pos served, if_pos served]
      show Except.ok (List.length _) = Except.ok (List.length _)
      rw [length_slice, RamBlockStore.length_bytes]
      rw [transferLength_toNat served.2, EncryptedBlockStore.length_plaintext blocks]
      omega
    · rw [if_neg served, if_neg served]
  case read_last =>
    intro lba offset bufferSize bytes read i inside byte noted
    rw [encryptedBlockStoreRead_eq isOpen] at read
    split at read
    · have value := holds _ _ _ noted
      obtain rfl := Except.ok.inj read
      have short : i < (transferLength store.blockSize offset bufferSize).toNat :=
        Nat.lt_of_lt_of_le inside (List.length_take_le _ _)
      unfold slice
      rw [List.getElem?_take, if_pos short, List.getElem?_drop, value]
    · simp at read
  case write_rest =>
    intro lba offset data numWritten backStore write other i outside
    rw [encryptedBlockStoreWrite_eq blocks isOpen] at write
    split_ifs at write ⊢ with served
    · obtain ⟨counted, rfl⟩ := Prod.mk.inj write
      obtain rfl := Except.ok.inj counted
      refine (EncryptedBlockStore.getElem?_plaintext_written blocks served.2 i).trans ?_
      rw [if_neg]
      rintro ⟨same, touched⟩
      obtain different | outside := outside
      · exact different same
      · omega
    · simp at write

end

end

/-- The encrypted store is transparent after every sequence of calls, of any clients and
with any lengths and offsets, to each client that has the store open. -/
theorem encryptedStore_transparent (cipher : BlockCipher) (storagePartition : StoragePartition)
    (encryptedMemory plainMemory : Nat → UInt8)
    (aligned : storagePartition.blockSize.toNat % blkAesBlockSize = 0) {pair : StorePair}
    (reached : Reached StorePair.step
      (StorePair.initial cipher storagePartition encryptedMemory plainMemory)
      (fun _ _ => True) pair) {clientId : ClientId} {handle : BitVec 32}
    (permitted : blockDeviceCheckAccessPermitted storagePartition clientId handle = psaSuccess) :
    pair.Transparent clientId handle := by
  have agrees : pair.Agrees storagePartition := by
    apply reached.invariant
    · exact ⟨rfl, rfl, fun _ _ _ noted => by simp [StorePair.initial] at noted⟩
    · intro state call _ agrees _
      cases call with
      | read => exact agrees
      | write => exact agrees.write aligned
  exact agrees.transparent aligned permitted

/-- A cipher for the run below: every byte is inverted. -/
def invertingCipher : BlockCipher where
  encryptSector sector := sector
  encrypt _ text := text.map (~~~ ·)
  decrypt _ text := text.map (~~~ ·)
  length_encrypt _ _ _ := List.length_map _
  length_decrypt _ _ _ := List.length_map _
  decrypt_encrypt _ text _ := by
    rw [List.map_map]
    exact (List.map_congr_left fun byte _ => UInt8.not_not).trans (List.map_id text)

def samplePartition : StoragePartition :=
  { storagePartitionInit 0 2 32 with acl := ⟨[], [1]⟩ }

/-- A write that the end of the block cuts, and one inside the block. -/
def sampleCalls : List StoreCall :=
  [.write 1 0 1 24 [1, 2, 3, 4, 5, 6, 7, 8, 9, 10], .write 1 0 1 28 [11]]

def sampledPair : StorePair :=
  sampleCalls.foldl StorePair.step
    (StorePair.initial invertingCipher samplePartition (fun _ => 255) (fun _ => 0))

theorem encryptedStore_transparent_sampled :
    sampledPair.Transparent 1 0 ∧ sampledPair.last 1 27 = some 4 ∧ sampledPair.last 1 28 = some 11 :=
  ⟨encryptedStore_transparent invertingCipher samplePartition (fun _ => 255) (fun _ => 0) (by decide)
      (reached_foldl sampleCalls (fun _ _ _ => trivial) .start) (by decide),
    by decide, by decide⟩

end BlockStorage
