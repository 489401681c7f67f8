import TrustedServices.Lib.Transition
import TrustedServices.BlockStorage.Partitioned

/- Which blocks of the back store the requests of a client reach. -/
namespace BlockStorage

open Lib Function

/-- A back store, as its interface asks for: a read or a write concerns one block, an erasure each
of its blocks. -/
structure BlockDriver where
  read : Bytes → BitVec 64 → BitVec 64 → PsaStatus × Bytes
  write : Bytes → BitVec 64 → Bytes → PsaStatus × BitVec 64 × Bytes
  erase : Bytes → Bytes
  eraseStatus : PsaStatus

structure StoreReply where
  status : PsaStatus
  handle : BitVec 32 := 0
  data : Bytes := []
  numWritten : BitVec 64 := 0
  deriving DecidableEq, Repr

def BlockDriver.answer (driver : BlockDriver) (blocks : BitVec 64 → Bytes) :
    BackCall → StoreReply × (BitVec 64 → Bytes)
  | .read lba offset bufferSize =>
    let result := driver.read (blocks lba) offset bufferSize
    ({ status := result.1, data := result.2 }, blocks)
  | .write lba offset data =>
    let result := driver.write (blocks lba) offset data
    ({ status := result.1, numWritten := result.2.1 }, update blocks lba result.2.2)
  | .erase beginLba numBlocks =>
    ({ status := driver.eraseStatus }, fun lba =>
      if beginLba.toNat ≤ lba.toNat ∧ lba.toNat < beginLba.toNat + numBlocks.toNat then
        driver.erase (blocks lba)
      else blocks lba)

inductive StoreRequest
  | openPartition (partitionGuid : Guid)
  | close (handle : BitVec 32)
  | read (handle : BitVec 32) (lba offset bufferSize : BitVec 64)
  | write (handle : BitVec 32) (lba offset : BitVec 64) (data : Bytes)
  | erase (handle : BitVec 32) (beginLba numBlocks : BitVec 64)

def StoreRequest.handle : StoreRequest → Option (BitVec 32)
  | .openPartition _ => none
  | .close handle | .read handle _ _ _ | .write handle _ _ _ | .erase handle _ _ => some handle

/-- A store with the blocks of its back store. `opened` are the handles that requests to open a
partition have returned. -/
structure BlockWorld where
  store : PartitionedBlockStore
  blocks : BitVec 64 → Bytes
  opened : List (BitVec 32)

/-- The call to the back store that a request leads to, or the status without one. -/
def StoreRequest.forwards (request : StoreRequest) (store : PartitionedBlockStore)
    (clientId : ClientId) : Except PsaStatus BackCall :=
  match request with
  | .read handle lba offset bufferSize =>
    partitionedBlockStoreRead store clientId handle lba offset bufferSize
  | .write handle lba offset data => partitionedBlockStoreWrite store clientId handle lba offset data
  | .erase handle beginLba numBlocks =>
    partitionedBlockStoreErase store clientId handle beginLba numBlocks
  | .close handle => .error (partitionedBlockStoreClose store clientId handle)
  | .openPartition partitionGuid =>
    match (partitionedBlockStoreOpen store clientId partitionGuid).1 with
    | .error status => .error status
    | .ok _ => .error psaSuccess

def BlockWorld.serve (driver : BlockDriver) (world : BlockWorld) (clientId : ClientId) :
    StoreRequest → StoreReply × BlockWorld
  | .openPartition partitionGuid =>
    match partitionedBlockStoreOpen world.store clientId partitionGuid with
    | (.error status, store) => ({ status := status }, { world with store := store })
    | (.ok handle, store) =>
      ({ status := psaSuccess, handle := handle },
        { world with store := store, opened := handle :: world.opened })
  | request =>
    match request.forwards world.store clientId with
    | .error status => ({ status := status }, world)
    | .ok call =>
      let answer := driver.answer world.blocks call
      (answer.1, { world with blocks := answer.2 })

/-- The deployment configures partitions, and clients make requests, in any order. -/
inductive BlockEvent
  | addPartition (partitionGuid : Guid) (startingLba endingLba : BitVec 64)
  | grantAccess (index : Fin partitionedBlockStoreMaxPartitions) (clientId : ClientId)
  | assignOwnership (index : Fin partitionedBlockStoreMaxPartitions) (ownerId : Bytes)
  | request (clientId : ClientId) (request : StoreRequest)

def BlockWorld.step (driver : BlockDriver) (world : BlockWorld) : BlockEvent → BlockWorld
  | .addPartition partitionGuid startingLba endingLba =>
    { world with
      store := (partitionedBlockStoreAddPartition world.store partitionGuid startingLba
        endingLba).2 }
  | .grantAccess index clientId =>
    if index.val < world.store.numPartitions then
      { world with store := storagePartitionGrantAccess world.store index clientId }
    else world
  | .assignOwnership index ownerId =>
    if index.val < world.store.numPartitions then
      { world with store := storagePartitionAssignOwnership world.store index ownerId }
    else world
  | .request clientId request => (world.serve driver clientId request).2

def BlockWorld.initial (store : PartitionedBlockStore) (blocks : BitVec 64 → Bytes) : BlockWorld :=
  ⟨{ store with numPartitions := 0 }, blocks, []⟩

/-- A block belongs to a partition that admits the client. -/
def PartitionedBlockStore.Admits (store : PartitionedBlockStore) (clientId : ClientId)
    (block : BitVec 64) : Prop :=
  ∃ index, index.val < store.numPartitions ∧
    clientId ∈ (store.storagePartition index).acl.allowlist ∧
    (store.storagePartition index).baseLba.toNat ≤ block.toNat ∧
    block.toNat < (store.storagePartition index).baseLba.toNat +
      (store.storagePartition index).numBlocks.toNat

/-- A block that a call addresses, or that lies in the way of its bytes. -/
def BackCall.Touches (blockSize : BitVec 64) (block : BitVec 64) : BackCall → Prop
  | .read lba offset bufferSize => block = lba ∨ 0 < bufferSize.toNat ∧
      lba.toNat * blockSize.toNat + offset.toNat < (block.toNat + 1) * blockSize.toNat ∧
      block.toNat * blockSize.toNat < lba.toNat * blockSize.toNat + offset.toNat + bufferSize.toNat
  | .write lba offset data => block = lba ∨ 0 < data.length ∧
      lba.toNat * blockSize.toNat + offset.toNat < (block.toNat + 1) * blockSize.toNat ∧
      block.toNat * blockSize.toNat < lba.toNat * blockSize.toNat + offset.toNat + data.length
  | .erase beginLba numBlocks =>
    beginLba.toNat ≤ block.toNat ∧ block.toNat < beginLba.toNat + numBlocks.toNat

/-- A request of a client stays within the partitions that admit the client. -/
structure Isolated (driver : BlockDriver) (world : BlockWorld) (clientId : ClientId)
    (request : StoreRequest) : Prop where
  access : ∀ call, request.forwards world.store clientId = .ok call →
    ∀ block, call.Touches world.store.backStoreInfo.blockSize block →
      world.store.Admits clientId block
  refused : ∀ handle ∈ request.handle, handle ∉ world.opened →
    ∃ status, status ≠ psaSuccess ∧ request.forwards world.store clientId = .error status
  reads : ∀ blocks : BitVec 64 → Bytes,
    (∀ block, world.store.Admits clientId block → blocks block = world.blocks block) →
    ∀ handle lba offset bufferSize, request = .read handle lba offset bufferSize →
      (BlockWorld.serve driver { world with blocks := blocks } clientId request).1 =
        (BlockWorld.serve driver world clientId request).1

/-- The slot that a handle selects lists the client, whether it is configured or not. -/
def PartitionedBlockStore.Lists (store : PartitionedBlockStore) (clientId : ClientId)
    (handle : BitVec 32) : Prop :=
  ∃ index, index.val = handle.toNat ∧ clientId ∈ (store.storagePartition index).acl.allowlist

/-- A handle that no request has returned selects a slot that does not list the client. -/
def Unlisted (world : BlockWorld) (clientId : ClientId) (request : StoreRequest) : Prop :=
  ∀ handle ∈ request.handle, handle ∉ world.opened → ¬world.store.Lists clientId handle

variable {store : PartitionedBlockStore}

/-- The configured partitions lie in the back store. -/
def PartitionedBlockStore.Inside (store : PartitionedBlockStore) : Prop :=
  ∀ index, index.val < store.numPartitions →
    (store.storagePartition index).blockSize = store.backStoreInfo.blockSize ∧
    (store.storagePartition index).baseLba.toNat + (store.storagePartition index).numBlocks.toNat ≤
      store.backStoreInfo.numBlocks.toNat

theorem setAcl_inside (inside : store.Inside) (index : Fin partitionedBlockStoreMaxPartitions)
    (acl : StoragePartitionAcl) : (store.setAcl index acl).Inside := by
  intro other configured
  by_cases same : other = index
  · subst same
    simp only [PartitionedBlockStore.setAcl, update_self]
    exact inside other configured
  · simp only [PartitionedBlockStore.setAcl, update_of_ne same]
    exact inside other configured

theorem addPartition_inside (inside : store.Inside) (partitionGuid : Guid)
    (startingLba endingLba : BitVec 64) :
    (partitionedBlockStoreAddPartition store partitionGuid startingLba endingLba).2.Inside := by
  unfold partitionedBlockStoreAddPartition
  split
  · rename_i free
    split_ifs with legal
    · exact inside
    · rw [not_or] at legal
      have le : startingLba.toNat ≤ endingLba.toNat := Nat.le_of_not_lt legal.1
      have lt : endingLba.toNat < store.backStoreInfo.numBlocks.toNat := Nat.lt_of_not_le legal.2
      intro other configured
      by_cases same : other = ⟨store.numPartitions, free⟩
      · subst same
        simp only [update_self]
        refine ⟨rfl, ?_⟩
        have difference : (endingLba - startingLba).toNat = endingLba.toNat - startingLba.toNat :=
          BitVec.toNat_sub_of_le le
        show startingLba.toNat + (endingLba - startingLba + 1).toNat ≤ _
        rw [BitVec.toNat_add, difference]
        rw [show (1 : BitVec 64).toNat = 1 from rfl, Nat.mod_eq_of_lt (by omega)]
        omega
      · simp only [update_of_ne same]
        refine inside other ?_
        have apart : other.val ≠ store.numPartitions := fun equal => same (Fin.ext equal)
        have below : other.val < store.numPartitions + 1 := configured
        omega
  · exact inside

theorem addPartition_grows (partitionGuid : Guid) (startingLba endingLba : BitVec 64) :
    store.numPartitions ≤ (partitionedBlockStoreAddPartition store partitionGuid startingLba
      endingLba).2.numPartitions := by
  unfold partitionedBlockStoreAddPartition
  split
  · split
    · exact Nat.le_refl _
    · exact Nat.le_succ _
  · exact Nat.le_refl _

theorem findByPartitionGuid_keeps (inside : store.Inside) (partitionGuid : Guid) :
    (findByPartitionGuid store partitionGuid).2.Inside ∧
      store.numPartitions ≤ (findByPartitionGuid store partitionGuid).2.numPartitions ∧
      ∀ index ∈ (findByPartitionGuid store partitionGuid).1,
        index.val < (findByPartitionGuid store partitionGuid).2.numPartitions := by
  have searched : ∀ (store : PartitionedBlockStore) index, store.search partitionGuid = some index →
      index.val < store.numPartitions := by
    intro store index found
    have matched := List.find?_some found
    simp only [Bool.and_eq_true, decide_eq_true_eq] at matched
    exact matched.1
  unfold findByPartitionGuid
  split
  · rename_i index found
    refine ⟨inside, Nat.le_refl _, fun other same => ?_⟩
    cases same
    exact searched store index found
  · split
    · exact ⟨inside, Nat.le_refl _, nofun⟩
    · split
      · exact ⟨inside, Nat.le_refl _, nofun⟩
      · rename_i startingLba endingLba _
        have grows := @addPartition_grows store partitionGuid startingLba endingLba
        dsimp only
        split
        · exact ⟨addPartition_inside inside _ _ _, grows, searched _⟩
        · exact ⟨addPartition_inside inside _ _ _, grows, nofun⟩

theorem partitionedBlockStoreOpen_keeps (inside : store.Inside) (clientId : ClientId)
    (partitionGuid : Guid) :
    (partitionedBlockStoreOpen store clientId partitionGuid).2.Inside ∧
      store.numPartitions ≤
        (partitionedBlockStoreOpen store clientId partitionGuid).2.numPartitions ∧
      ∀ handle, (partitionedBlockStoreOpen store clientId partitionGuid).1 = .ok handle →
        handle.toNat < (partitionedBlockStoreOpen store clientId partitionGuid).2.numPartitions := by
  have keeps := findByPartitionGuid_keeps inside partitionGuid
  unfold partitionedBlockStoreOpen
  generalize findByPartitionGuid store partitionGuid = found at keeps
  obtain ⟨_ | index, later⟩ := found
  · exact ⟨keeps.1, keeps.2.1, nofun⟩
  · have configured := keeps.2.2 index rfl
    dsimp only at configured ⊢
    split
    · refine ⟨setAcl_inside keeps.1 _ _, keeps.2.1, fun handle same => ?_⟩
      cases same
      have small : index.val < 2 ^ 32 := Nat.lt_trans index.isLt (by decide)
      rw [BitVec.toNat_ofNat, Nat.mod_eq_of_lt small]
      exact configured
    · exact ⟨setAcl_inside keeps.1 _ _, keeps.2.1, nofun⟩

variable {driver : BlockDriver} {world : BlockWorld} {clientId : ClientId} {handle : BitVec 32}

/-- The partitions lie in the back store, and the handles that are out stand for partitions. -/
structure BlockWorld.Consistent (world : BlockWorld) : Prop where
  inside : world.store.Inside
  opened : ∀ handle ∈ world.opened, handle.toNat < world.store.numPartitions

theorem validatePartitionRequest_ok {partition : StoragePartition}
    (valid : validatePartitionRequest store clientId handle = .ok partition) :
    ∃ index, index.val = handle.toNat ∧ partition = store.storagePartition index ∧
      clientId ∈ (store.storagePartition index).acl.allowlist := by
  unfold validatePartitionRequest at valid
  split_ifs at valid ⊢ with inside
  dsimp only at valid
  split_ifs at valid ⊢ with listed
  cases valid
  exact ⟨⟨handle.toNat, inside⟩, rfl, rfl, storagePartitionAclCheck_iff.mp listed⟩

theorem validatePartitionRequest_unlisted (unlisted : ¬store.Lists clientId handle) :
    ∃ status, status ≠ psaSuccess ∧
      validatePartitionRequest store clientId handle = .error status := by
  unfold validatePartitionRequest
  split_ifs with inside
  · rw [if_neg fun listed =>
      unlisted ⟨⟨handle.toNat, inside⟩, rfl, storagePartitionAclCheck_iff.mp listed⟩]
    exact ⟨_, by decide, rfl⟩
  · exact ⟨_, by decide, rfl⟩

variable {lba : BitVec 64}

/-- A request that is passed on concerns a legal block of a partition that admits the client. -/
theorem forwardRequest_admits {make : StoragePartition → BackCall}
    {call : BackCall} (consistent : world.Consistent)
    (listed : handle ∉ world.opened → ¬world.store.Lists clientId handle)
    (forwarded : forwardRequest world.store clientId handle lba make = .ok call) :
    ∃ index, index.val < world.store.numPartitions ∧
      clientId ∈ (world.store.storagePartition index).acl.allowlist ∧
      lba < (world.store.storagePartition index).numBlocks ∧
      call = make (world.store.storagePartition index) := by
  unfold forwardRequest at forwarded
  split at forwarded
  · cases forwarded
  · rename_i partition valid
    obtain ⟨index, number, rfl, member⟩ := validatePartitionRequest_ok valid
    split_ifs at forwarded ⊢ with legal
    cases forwarded
    have returned : handle ∈ world.opened :=
      of_not_not fun fresh => listed fresh ⟨index, number, member⟩
    exact ⟨index, number ▸ consistent.opened handle returned, member, of_decide_eq_true legal, rfl⟩

theorem baseLba_add {index : Fin partitionedBlockStoreMaxPartitions}
    (inside : world.store.Inside) (configured : index.val < world.store.numPartitions)
    (legal : lba < (world.store.storagePartition index).numBlocks) :
    ((world.store.storagePartition index).baseLba + lba).toNat =
      (world.store.storagePartition index).baseLba.toNat + lba.toNat := by
  have fits := (inside index configured).2
  have lt : lba.toNat < (world.store.storagePartition index).numBlocks.toNat := legal
  rw [BitVec.toNat_add, Nat.mod_eq_of_lt (by omega)]

theorem transfer_inside {base lba count size offset length block : Nat} (legal : lba < count)
    (ends : 0 < length → offset + length ≤ (count - lba) * size)
    (touched : block = base + lba ∨ 0 < length ∧
      (base + lba) * size + offset < (block + 1) * size ∧
      block * size < (base + lba) * size + offset + length) :
    base ≤ block ∧ block < base + count := by
  obtain rfl | ⟨some, above, below⟩ := touched
  · omega
  · have last : (base + lba) * size + offset + length ≤ (base + count) * size := by
      have split : (base + count) * size = (base + lba) * size + (count - lba) * size := by
        rw [← Nat.add_mul]
        congr 1
        omega
      omega
    have first : (base + lba) * size < (block + 1) * size := by omega
    have upper := Nat.lt_of_mul_lt_mul_right (Nat.lt_of_lt_of_le below last)
    have lower := Nat.lt_of_mul_lt_mul_right first
    omega

variable {request : StoreRequest}

theorem BlockWorld.Consistent.access {call : BackCall} {block : BitVec 64}
    (consistent : world.Consistent) (unlisted : Unlisted world clientId request)
    (forwarded : request.forwards world.store clientId = .ok call)
    (touched : call.Touches world.store.backStoreInfo.blockSize block) :
    world.store.Admits clientId block := by
  cases request with
  | openPartition partitionGuid =>
    dsimp only [StoreRequest.forwards] at forwarded
    split at forwarded <;> cases forwarded
  | close handle => cases forwarded
  | read handle lba offset bufferSize =>
    obtain ⟨index, configured, member, legal, rfl⟩ :=
      forwardRequest_admits consistent (unlisted handle rfl) forwarded
    have base := baseLba_add consistent.inside configured legal
    have size := (consistent.inside index configured).1
    refine ⟨index, configured, member, ?_⟩
    dsimp only [BackCall.Touches] at touched
    rw [← size, base] at touched
    exact transfer_inside legal (storagePartitionClipLength_inside legal)
      (touched.imp (fun same => by rw [same, base]) id)
  | write handle lba offset data =>
    obtain ⟨index, configured, member, legal, rfl⟩ :=
      forwardRequest_admits consistent (unlisted handle rfl) forwarded
    have base := baseLba_add consistent.inside configured legal
    have size := (consistent.inside index configured).1
    refine ⟨index, configured, member, ?_⟩
    dsimp only [BackCall.Touches] at touched
    rw [← size, base] at touched
    refine transfer_inside legal (fun some => ?_) (touched.imp (fun same => by rw [same, base]) id)
    rw [List.length_take] at some ⊢
    have fits := @storagePartitionClipLength_inside (world.store.storagePartition index) lba offset
      (BitVec.ofNat 64 data.length) legal (by omega)
    omega
  | erase handle beginLba numBlocks =>
    obtain ⟨index, configured, member, legal, rfl⟩ :=
      forwardRequest_admits consistent (unlisted handle rfl) forwarded
    have base := baseLba_add consistent.inside configured legal
    have fits := @storagePartitionClipNumBlocks_inside (world.store.storagePartition index)
      beginLba numBlocks legal
    refine ⟨index, configured, member, ?_⟩
    dsimp only [BackCall.Touches] at touched
    omega

theorem Unlisted.refused (unlisted : Unlisted world clientId request)
    (named : handle ∈ request.handle) (fresh : handle ∉ world.opened) :
    ∃ status, status ≠ psaSuccess ∧ request.forwards world.store clientId = .error status := by
  obtain ⟨status, failed, invalid⟩ :=
    validatePartitionRequest_unlisted (unlisted handle named fresh)
  refine ⟨status, failed, ?_⟩
  cases request with
  | openPartition partitionGuid => cases named
  | close handle =>
    cases named
    simp only [StoreRequest.forwards, partitionedBlockStoreClose, invalid]
  | read handle lba offset bufferSize =>
    cases named
    simp only [StoreRequest.forwards, partitionedBlockStoreRead, forwardRequest, invalid]
  | write handle lba offset data =>
    cases named
    simp only [StoreRequest.forwards, partitionedBlockStoreWrite, forwardRequest, invalid]
  | erase handle beginLba numBlocks =>
    cases named
    simp only [StoreRequest.forwards, partitionedBlockStoreErase, forwardRequest, invalid]

theorem BlockWorld.Consistent.reads {offset bufferSize : BitVec 64} (consistent : world.Consistent)
    (unlisted : Unlisted world clientId (.read handle lba offset bufferSize))
    {blocks : BitVec 64 → Bytes}
    (agree : ∀ block, world.store.Admits clientId block → blocks block = world.blocks block) :
    (BlockWorld.serve driver { world with blocks := blocks } clientId
      (.read handle lba offset bufferSize)).1 =
      (BlockWorld.serve driver world clientId (.read handle lba offset bufferSize)).1 := by
  unfold BlockWorld.serve
  dsimp only
  cases forwarded : (StoreRequest.read handle lba offset bufferSize).forwards world.store clientId with
  | error status => rfl
  | ok call =>
    obtain ⟨index, _, _, _, rfl⟩ := forwardRequest_admits consistent (unlisted handle rfl) forwarded
    have admitted := consistent.access unlisted forwarded (.inl rfl)
    dsimp only [BlockDriver.answer]
    rw [agree _ admitted]

theorem BlockWorld.Consistent.isolated (consistent : world.Consistent)
    (unlisted : Unlisted world clientId request) : Isolated driver world clientId request where
  access _ forwarded _ touched := consistent.access unlisted forwarded touched
  refused _ named fresh := unlisted.refused named fresh
  reads _ agree handle lba offset bufferSize same := by
    subst same
    exact consistent.reads unlisted agree

theorem serve_keeps (named : handle ∈ request.handle) :
    (world.serve driver clientId request).2.store = world.store ∧
      (world.serve driver clientId request).2.opened = world.opened := by
  cases request with
  | openPartition partitionGuid => cases named
  | _ =>
    unfold BlockWorld.serve
    dsimp only
    split <;> exact ⟨rfl, rfl⟩

theorem BlockWorld.Consistent.step (consistent : world.Consistent) (event : BlockEvent) :
    (world.step driver event).Consistent := by
  have raised : ∀ {count : Nat}, world.store.numPartitions ≤ count →
      ∀ handle ∈ world.opened, handle.toNat < count :=
    fun grows handle out => Nat.lt_of_lt_of_le (consistent.opened handle out) grows
  cases event with
  | addPartition partitionGuid startingLba endingLba =>
    exact ⟨addPartition_inside consistent.inside _ _ _, raised (addPartition_grows _ _ _)⟩
  | grantAccess index clientId =>
    unfold BlockWorld.step
    dsimp only
    split
    · exact ⟨setAcl_inside consistent.inside _ _, consistent.opened⟩
    · exact consistent
  | assignOwnership index ownerId =>
    unfold BlockWorld.step
    dsimp only
    split
    · exact ⟨setAcl_inside consistent.inside _ _, consistent.opened⟩
    · exact consistent
  | request clientId request =>
    show (world.serve driver clientId request).2.Consistent
    cases named : request.handle with
    | some handle =>
      obtain ⟨store, opened⟩ := @serve_keeps driver world clientId handle request named
      exact ⟨store ▸ consistent.inside, by rw [store, opened]; exact consistent.opened⟩
    | none =>
      cases request with
      | openPartition partitionGuid =>
        have keeps := partitionedBlockStoreOpen_keeps consistent.inside clientId partitionGuid
        dsimp only [BlockWorld.serve]
        generalize partitionedBlockStoreOpen world.store clientId partitionGuid = outcome at keeps ⊢
        obtain ⟨_ | handle, store⟩ := outcome
        · exact ⟨keeps.1, raised keeps.2.1⟩
        · refine ⟨keeps.1, fun other out => ?_⟩
          cases out with
          | head => exact keeps.2.2 handle rfl
          | tail _ out => exact raised keeps.2.1 other out
      | close | read | write | erase => cases named

/-- In every state of every run, a request of a client whose handle has been returned, or selects
a slot that does not list the client, is isolated. -/
theorem partitions_isolated {store : PartitionedBlockStore} {blocks : BitVec 64 → Bytes}
    (reached : Reached (BlockWorld.step driver) (BlockWorld.initial store blocks)
      (fun _ _ => True) world)
    {clientId : ClientId} {request : StoreRequest} (unlisted : Unlisted world clientId request) :
    Isolated driver world clientId request := by
  have initially : (BlockWorld.initial store blocks).Consistent :=
    ⟨fun _ configured => absurd configured (Nat.not_lt_zero _), nofun⟩
  have consistent : world.Consistent :=
    reached.invariant _ initially fun _ event _ consistent _ => consistent.step event
  exact consistent.isolated unlisted

/-- A store over 64 blocks of 16 bytes, with one slot that holds remains of other data. -/
def leftoverStore : PartitionedBlockStore where
  authorizer := none
  configListener := none
  numPartitions := 0
  storagePartition index :=
    if index.val = 3 then ⟨0, 16, 100, 0, ⟨[], [7]⟩⟩ else ⟨0, 0, 0, 0, storagePartitionAclInit⟩
  backStoreInfo := ⟨64, 16, 0⟩

def plainDriver : BlockDriver where
  read block offset bufferSize := (psaSuccess, slice block offset.toNat bufferSize.toNat)
  write block offset data :=
    (psaSuccess, BitVec.ofNat 64 data.length,
      block.take offset.toNat ++ data ++ block.drop (offset.toNat + data.length))
  erase block := block.map fun _ => 0xff
  eraseStatus := psaSuccess

/-- One partition of the blocks 10 to 19 is configured, and client 5 opens it. -/
def leftoverWorld : BlockWorld :=
  [.addPartition 1 10 19, .request 5 (.openPartition 1)].foldl (BlockWorld.step plainDriver)
    (BlockWorld.initial leftoverStore fun _ => List.replicate 16 0)

theorem leftoverWorld_reached :
    Reached (BlockWorld.step plainDriver)
      (BlockWorld.initial leftoverStore fun _ => List.replicate 16 0) (fun _ _ => True)
      leftoverWorld :=
  Reached.start.run ⟨trivial, trivial, trivial⟩

theorem partitions_isolated_opened :
    leftoverWorld.opened = [0] ∧ Isolated plainDriver leftoverWorld 5 (.read 0 3 0 16) := by
  refine ⟨by decide, partitions_isolated leftoverWorld_reached ?_⟩
  rintro handle ⟨⟩ fresh
  exact absurd (by decide) fresh

/-- Client 7 reads a block that belongs to no partition, with a handle that was never returned. -/
theorem leftoverSlot_notIsolated :
    (StoreRequest.read 3 5 0 16).forwards leftoverWorld.store 7 = .ok (.read 5 0 16) ∧
      ¬leftoverWorld.store.Admits 7 5 ∧
      ¬Isolated plainDriver leftoverWorld 7 (.read 3 5 0 16) := by
  have forwarded : (StoreRequest.read 3 5 0 16).forwards leftoverWorld.store 7 =
      .ok (.read 5 0 16) := by decide
  refine ⟨forwarded, ?_, fun isolated => ?_⟩
  · unfold PartitionedBlockStore.Admits
    decide
  · obtain ⟨status, _, refused⟩ := isolated.refused 3 rfl (by decide)
    cases forwarded.symm.trans refused

end BlockStorage
