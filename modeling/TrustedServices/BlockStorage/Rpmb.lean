import TrustedServices.BlockStorage.PartitionIsolation

/- The RPMB block store under a partitioned store. -/
namespace BlockStorage

open Lib Function

def rpmbDataSize : Nat := 256

/-- The blocks of one unit of the size of a device. -/
def rpmbSizeMultBlocks : Nat := 512

abbrev RpmbBlock := Fin rpmbDataSize → UInt8

structure RpmbFrontend where
  sizeMult : BitVec 8
  blocks : Nat → RpmbBlock

def RpmbFrontend.blockCount (frontend : RpmbFrontend) : Nat :=
  frontend.sizeMult.toNat * rpmbSizeMultBlocks

/-- What the exchanges with the device come to. -/
structure RpmbOutcomes where
  read : PsaStatus
  write : PsaStatus

section

variable (frontend : RpmbFrontend) (outcome : PsaStatus) (blockIndex : BitVec 16)

/-- The number of the block has 16 bits. -/
def rpmbFrontendRead : Except PsaStatus RpmbBlock :=
  if blockIndex.toNat ≥ frontend.blockCount then .error psaErrorInvalidArgument
  else if outcome ≠ psaSuccess then .error outcome
  else .ok (frontend.blocks blockIndex.toNat)

def rpmbFrontendWrite (data : RpmbBlock) : PsaStatus × RpmbFrontend :=
  if blockIndex.toNat ≥ frontend.blockCount then (psaErrorInvalidArgument, frontend)
  else if outcome ≠ psaSuccess then (outcome, frontend)
  else
    (psaSuccess, { frontend with
      blocks := update frontend.blocks blockIndex.toNat data })

end

structure RpmbBlockStore where
  storagePartition : StoragePartition
  frontend : RpmbFrontend

/-- A block with bytes copied over it from an offset on. Bytes behind its end are not part of
it. -/
def RpmbBlock.patch (block : RpmbBlock) (offset : Nat) (data : Bytes) : RpmbBlock := fun i =>
  if offset ≤ i.val ∧ i.val < offset + data.length then data.getD (i.val - offset) 0 else block i

/-- What a write does: its status, the number of bytes, the offset and the length of the copy into
the block buffer, and the store. -/
structure RpmbWritten where
  status : PsaStatus
  numWritten : BitVec 64
  copied : Option (BitVec 64 × BitVec 64)
  store : RpmbBlockStore

def RpmbBlockStore.failed (store : RpmbBlockStore) (status : PsaStatus) : RpmbWritten :=
  ⟨status, 0, none, store⟩

def RpmbBlockStore.copyAndWrite (store : RpmbBlockStore) (outcomes : RpmbOutcomes)
    (lba offset copyLength : BitVec 64) (data : Bytes) (block : RpmbBlock) : RpmbWritten :=
  let written := rpmbFrontendWrite store.frontend outcomes.write (lba.setWidth 16)
    (block.patch offset.toNat (data.take copyLength.toNat))
  { status := written.1
    numWritten := if written.1 = psaSuccess then copyLength else 0
    copied := some (offset, copyLength)
    store := { store with frontend := written.2 } }

/-- The length is computed without a check of the offset. -/
def rpmbBlockStoreWrite (store : RpmbBlockStore) (outcomes : RpmbOutcomes) (clientId : ClientId)
    (handle : BitVec 32) (lba offset : BitVec 64) (data : Bytes) : RpmbWritten :=
  let permitted := blockDeviceCheckAccessPermitted store.storagePartition clientId handle
  if permitted ≠ psaSuccess then store.failed permitted
  else if storagePartitionIsLbaLegal store.storagePartition lba = false then
    store.failed psaErrorInvalidArgument
  else
    let dataLen : BitVec 64 := BitVec.ofNat 64 data.length
    let rest : BitVec 64 := 256 - offset
    let copyLength := if dataLen < rest then dataLen else rest
    if copyLength ≠ 256 then
      match rpmbFrontendRead store.frontend outcomes.read (lba.setWidth 16) with
      | .error status => store.failed status
      | .ok block => store.copyAndWrite outcomes lba offset copyLength data block
    else store.copyAndWrite outcomes lba offset copyLength data fun _ => 0

/-- A request to write, as it is sent: the rest of the message is the data. -/
structure WriteRequest where
  handle : BitVec 64
  lba : BitVec 64
  offset : BitVec 32
  data : Bytes
  fits : data.length < 2 ^ 64

def WriteRequest.forwards (request : WriteRequest) (store : PartitionedBlockStore)
    (sourceId : ClientId) : Except PsaStatus BackCall :=
  partitionedBlockStoreWrite store sourceId (request.handle.setWidth 32) request.lba
    (request.offset.setWidth 64) request.data

/-- A partitioned store that has the RPMB store open as its back store. The slots without a
partition list nobody. -/
structure RpmbStack where
  partitioned : PartitionedBlockStore
  rpmb : RpmbBlockStore
  localClientId : ClientId
  inside : partitioned.Inside
  unused : ∀ index, partitioned.numPartitions ≤ index.val →
    (partitioned.storagePartition index).acl.allowlist = []
  blockSize : partitioned.backStoreInfo.blockSize = 256
  numBlocks : partitioned.backStoreInfo.numBlocks.toNat = rpmb.frontend.blockCount
  sameBlocks : rpmb.storagePartition.numBlocks = partitioned.backStoreInfo.numBlocks
  opened : localClientId ∈ rpmb.storagePartition.acl.allowlist

def RpmbStack.withBlocks (stack : RpmbStack) (blocks : Nat → RpmbBlock) : RpmbBlockStore :=
  { stack.rpmb with frontend := { stack.rpmb.frontend with blocks := blocks } }

def WriteRequest.serve (request : WriteRequest) (stack : RpmbStack) (blocks : Nat → RpmbBlock)
    (outcomes : RpmbOutcomes) (sourceId : ClientId) : Option RpmbWritten :=
  match request.forwards stack.partitioned sourceId with
  | .ok (.write lba offset data) =>
    some (rpmbBlockStoreWrite (stack.withBlocks blocks) outcomes stack.localClientId 0 lba offset
      data)
  | _ => none

/-- The same request with other data of the same length. -/
def WriteRequest.withData (request : WriteRequest) (data : Bytes)
    (same : data.length = request.data.length) : WriteRequest :=
  { request with data := data, fits := same ▸ request.fits }

/-- A write stays in the block: the copy stays in the block buffer, the offsets that a read rejects
are rejected, and a success means that exactly the bytes up to the end of the block have changed. -/
structure WritesInBlock (blocks : Nat → RpmbBlock) (lba offset : Nat) (data : Bytes)
    (written : RpmbWritten) : Prop where
  inside : ∀ range ∈ written.copied, range.1.toNat + range.2.toNat ≤ rpmbDataSize
  rejected : rpmbDataSize ≤ offset → written.status ≠ psaSuccess
  exactly : written.status = psaSuccess →
    written.numWritten.toNat = min data.length (rpmbDataSize - offset) ∧
    written.store.frontend.blocks = update blocks lba
      ((blocks lba).patch offset (data.take (min data.length (rpmbDataSize - offset))))

section

variable {partition : StoragePartition} {lba offset length : BitVec 64}

theorem copyLength_toNat (small : offset.toNat < 256) :
    (if length < 256 - offset then length else 256 - offset).toNat =
      min length.toNat (256 - offset.toNat) := by
  have rest : (256 - offset : BitVec 64).toNat = 256 - offset.toNat :=
    BitVec.toNat_sub_of_le (Nat.le_of_lt small)
  split_ifs with long
  · have lt : length.toNat < (256 - offset : BitVec 64).toNat := long
    omega
  · have le : (256 - offset : BitVec 64).toNat ≤ length.toNat := Nat.le_of_not_lt long
    omega

theorem storagePartitionClipLength_toNat (legal : lba < partition.numBlocks)
    (size : partition.blockSize = 256) (bounded : partition.numBlocks.toNat ≤ 130560)
    (small : offset.toNat < 256) :
    (storagePartitionClipLength partition lba offset length).toNat =
      min length.toNat ((partition.numBlocks.toNat - lba.toNat) * 256 - offset.toNat) := by
  have lt : lba.toNat < partition.numBlocks.toNat := legal
  have product : ((partition.numBlocks - lba) * partition.blockSize).toNat =
      (partition.numBlocks.toNat - lba.toNat) * 256 := by
    rw [BitVec.toNat_mul, sub_toNat legal, size, show (256 : BitVec 64).toNat = 256 from rfl,
      Nat.mod_eq_of_lt (by omega)]
  unfold storagePartitionClipLength
  rw [if_pos legal]
  generalize (partition.numBlocks - lba) * partition.blockSize = remaining at product
  dsimp only
  have inside : offset.toNat < remaining.toNat := by omega
  rw [if_pos (show offset < remaining from inside)]
  have left : (remaining - offset).toNat = remaining.toNat - offset.toNat :=
    BitVec.toNat_sub_of_le (Nat.le_of_lt inside)
  split_ifs with short
  · have gt : (remaining - offset).toNat < length.toNat := short
    omega
  · have le : length.toNat ≤ (remaining - offset).toNat := Nat.le_of_not_lt short
    omega

end

variable {stack : RpmbStack} {sourceId : ClientId} {request : WriteRequest}
  {lba offset : BitVec 64} {data : Bytes}

theorem RpmbStack.numBlocks_le (stack : RpmbStack) :
    stack.partitioned.backStoreInfo.numBlocks.toNat ≤ 130560 := by
  have count := stack.numBlocks
  unfold RpmbFrontend.blockCount rpmbSizeMultBlocks at count
  omega

section

variable (reaches : request.forwards stack.partitioned sourceId = .ok (.write lba offset data))

include reaches

theorem forwards_write : lba.toNat < stack.partitioned.backStoreInfo.numBlocks.toNat ∧
      offset = request.offset.setWidth 64 ∧
      ∃ partition : StoragePartition, partition.blockSize = 256 ∧
        partition.numBlocks.toNat ≤ 130560 ∧ request.lba < partition.numBlocks ∧
        data = request.data.take (storagePartitionClipLength partition request.lba offset
          (BitVec.ofNat 64 request.data.length)).toNat := by
  unfold WriteRequest.forwards partitionedBlockStoreWrite forwardRequest at reaches
  split at reaches
  · cases reaches
  · rename_i partition valid
    obtain ⟨index, _, rfl, listed⟩ := validatePartitionRequest_ok valid
    have configured : index.val < stack.partitioned.numPartitions := by
      apply Nat.lt_of_not_le
      intro unused
      rw [stack.unused index unused] at listed
      cases listed
    obtain ⟨size, fits⟩ := stack.inside index configured
    have bounded := stack.numBlocks_le
    split_ifs at reaches ⊢ with legal
    have lt : request.lba.toNat <
      (stack.partitioned.storagePartition index).numBlocks.toNat := of_decide_eq_true legal
    cases reaches
    refine ⟨?_, rfl, _, size.trans stack.blockSize, ?_, of_decide_eq_true legal, rfl⟩
    · rw [BitVec.toNat_add, Nat.mod_eq_of_lt (by omega)]
      omega
    · omega

/-- The length of the copy, with a good offset: the data end at the end of the block. -/
theorem forwards_copyLength (small : request.offset.toNat < 256) :
    offset.toNat = request.offset.toNat ∧
      min data.length (256 - offset.toNat) = min request.data.length (256 - request.offset.toNat) ∧
      data.length < 2 ^ 64 := by
  obtain ⟨_, rfl, partition, size, bounded, legal, rfl⟩ := forwards_write reaches
  have wide : (request.offset.setWidth 64).toNat = request.offset.toNat :=
    BitVec.toNat_setWidth_of_le (by decide)
  have clipped := @storagePartitionClipLength_toNat partition request.lba
    (request.offset.setWidth 64) (BitVec.ofNat 64 request.data.length) legal size bounded
    (wide ▸ small)
  have fits := request.fits
  have whole : (BitVec.ofNat 64 request.data.length).toNat = request.data.length := by
    rw [BitVec.toNat_ofNat, Nat.mod_eq_of_lt fits]
  have lt : request.lba.toNat < partition.numBlocks.toNat := legal
  rw [wide, List.length_take, clipped]
  refine ⟨rfl, ?_, ?_⟩ <;> omega

end

variable {contents : Bytes}

theorem forwards_withData (same : contents.length = request.data.length)
    (reaches : request.forwards stack.partitioned sourceId = .ok (.write lba offset data)) :
    ∃ other, (request.withData contents same).forwards stack.partitioned sourceId =
      .ok (.write lba offset other) := by
  unfold WriteRequest.forwards partitionedBlockStoreWrite forwardRequest at reaches ⊢
  simp only [WriteRequest.withData]
  split at reaches
  · cases reaches
  · split_ifs at reaches ⊢ with legal
    cases reaches
    exact ⟨_, if_pos legal⟩

def frontendIndex (lba : BitVec 64) : Nat := (lba.setWidth 16).toNat

theorem frontendIndex_eq (lba : BitVec 64) : frontendIndex lba = lba.toNat % 65536 :=
  BitVec.toNat_setWidth 16 lba

theorem frontendIndex_lt (legal : lba.toNat < stack.partitioned.backStoreInfo.numBlocks.toNat) :
    frontendIndex lba < stack.rpmb.frontend.blockCount := by
  rw [← stack.numBlocks, frontendIndex_eq]
  exact Nat.lt_of_le_of_lt (Nat.mod_le _ _) legal

theorem rpmbBlockStoreWrite_checked (stack : RpmbStack) (blocks : Nat → RpmbBlock)
    (outcomes : RpmbOutcomes)
    (legal : lba.toNat < stack.partitioned.backStoreInfo.numBlocks.toNat) {copyLength : BitVec 64}
    (computed : (if BitVec.ofNat 64 data.length < 256 - offset then BitVec.ofNat 64 data.length
      else 256 - offset) = copyLength) :
    rpmbBlockStoreWrite (stack.withBlocks blocks) outcomes stack.localClientId 0 lba offset data =
      if copyLength ≠ 256 then
        match rpmbFrontendRead (stack.withBlocks blocks).frontend outcomes.read
            (lba.setWidth 16) with
        | .error status => (stack.withBlocks blocks).failed status
        | .ok block =>
          (stack.withBlocks blocks).copyAndWrite outcomes lba offset copyLength data block
      else (stack.withBlocks blocks).copyAndWrite outcomes lba offset copyLength data
        fun _ => 0 := by
  have permitted : blockDeviceCheckAccessPermitted (stack.withBlocks blocks).storagePartition
      stack.localClientId 0 = psaSuccess := by
    unfold blockDeviceCheckAccessPermitted
    rw [if_neg (fun differs => differs rfl), if_neg]
    exact Bool.not_eq_false _ |>.mpr (storagePartitionAclCheck_iff.mpr stack.opened)
  have legalHere : storagePartitionIsLbaLegal (stack.withBlocks blocks).storagePartition lba ≠
      false := by
    refine Bool.not_eq_false _ |>.mpr (decide_eq_true ?_)
    show lba.toNat < stack.rpmb.storagePartition.numBlocks.toNat
    rw [stack.sameBlocks]
    exact legal
  unfold rpmbBlockStoreWrite
  dsimp only
  rw [permitted, if_neg (fun differs => differs rfl), if_neg legalHere, computed]

/-- A device that answers lets every write succeed, at the block that the frontend addresses. -/
theorem rpmbBlockStoreWrite_succeeds (blocks : Nat → RpmbBlock)
    (legal : lba.toNat < stack.partitioned.backStoreInfo.numBlocks.toNat) :
    ∃ block, (rpmbBlockStoreWrite (stack.withBlocks blocks) ⟨psaSuccess, psaSuccess⟩
        stack.localClientId 0 lba offset data).status = psaSuccess ∧
      (rpmbBlockStoreWrite (stack.withBlocks blocks) ⟨psaSuccess, psaSuccess⟩
        stack.localClientId 0 lba offset data).store.frontend.blocks =
          update blocks (frontendIndex lba) block := by
  have index : ¬(lba.setWidth 16).toNat ≥ (stack.withBlocks blocks).frontend.blockCount :=
    Nat.not_le_of_lt (frontendIndex_lt legal)
  have copies : ∀ length block,
      ((stack.withBlocks blocks).copyAndWrite ⟨psaSuccess, psaSuccess⟩ lba offset length data
        block).status = psaSuccess ∧
      ((stack.withBlocks blocks).copyAndWrite ⟨psaSuccess, psaSuccess⟩ lba offset length data
        block).store.frontend.blocks = update blocks (frontendIndex lba)
          (block.patch offset.toNat (data.take length.toNat)) := by
    intro length block
    unfold RpmbBlockStore.copyAndWrite rpmbFrontendWrite
    rw [if_neg index, if_neg (fun differs => differs rfl)]
    exact ⟨rfl, rfl⟩
  obtain ⟨copyLength, computed⟩ : ∃ copyLength, (if BitVec.ofNat 64 data.length < 256 - offset then
      BitVec.ofNat 64 data.length else 256 - offset) = copyLength := ⟨_, rfl⟩
  rw [rpmbBlockStoreWrite_checked stack blocks _ legal computed]
  split
  · unfold rpmbFrontendRead
    rw [if_neg index, if_neg (fun differs => differs rfl)]
    exact ⟨_, copies _ _⟩
  · exact ⟨_, copies _ _⟩

variable {frontend : RpmbFrontend} {block : RpmbBlock} {blocks : Nat → RpmbBlock}

theorem rpmbFrontendRead_error {outcome status : PsaStatus}
    {blockIndex : BitVec 16} (failed : rpmbFrontendRead frontend outcome blockIndex = .error status) :
    status ≠ psaSuccess := by
  unfold rpmbFrontendRead at failed
  split_ifs at failed ⊢ with _ differs
  · cases failed
    decide
  · cases failed
    exact differs

theorem rpmbFrontendRead_ok {outcome : PsaStatus}
    (read : rpmbFrontendRead frontend outcome (lba.setWidth 16) = .ok block) :
    block = frontend.blocks (frontendIndex lba) := by
  unfold rpmbFrontendRead at read
  split_ifs at read ⊢
  cases read
  rfl

theorem rpmbFrontendWrite_success {outcome : PsaStatus}
    (succeeded : (rpmbFrontendWrite frontend outcome (lba.setWidth 16) block).1 = psaSuccess) :
    (rpmbFrontendWrite frontend outcome (lba.setWidth 16) block).2.blocks =
      update frontend.blocks (frontendIndex lba) block := by
  unfold rpmbFrontendWrite at succeeded ⊢
  split_ifs at succeeded ⊢ with inside reached
  · exact absurd succeeded (show psaErrorInvalidArgument ≠ psaSuccess by decide)
  · exact absurd succeeded ‹_›
  · rfl

theorem RpmbBlock.patch_nil (block : RpmbBlock) (offset : Nat) : block.patch offset [] = block := by
  funext i
  unfold RpmbBlock.patch
  rw [if_neg]
  intro between
  have length : ([] : Bytes).length = 0 := rfl
  omega

theorem RpmbBlock.patch_whole {other : RpmbBlock}
    (whole : contents.length = 256) : block.patch 0 contents = other.patch 0 contents := by
  funext i
  have covered : 0 ≤ i.val ∧ i.val < 0 + contents.length := by
    have lt : i.val < 256 := i.isLt
    omega
  unfold RpmbBlock.patch
  rw [if_pos covered, if_pos covered]

theorem copyAndWrite_inBlock {outcomes : RpmbOutcomes} {length : BitVec 64}
    (lengthIs : length.toNat = min contents.length (256 - offset.toNat))
    (small : offset.toNat < 256)
    (copied : data.take length.toNat = contents.take (min contents.length (256 - offset.toNat)))
    (result : update blocks (frontendIndex lba)
        (block.patch offset.toNat (data.take length.toNat)) =
      update blocks lba.toNat ((blocks lba.toNat).patch offset.toNat (data.take length.toNat))) :
    WritesInBlock blocks lba.toNat offset.toNat contents
      ((stack.withBlocks blocks).copyAndWrite outcomes lba offset length data block) := by
  refine ⟨?_, ?_, ?_⟩
  · rintro range ⟨⟩
    show offset.toNat + length.toNat ≤ 256
    omega
  · exact fun large => absurd large (Nat.not_le_of_lt small)
  · intro succeeded
    have status : (rpmbFrontendWrite (stack.withBlocks blocks).frontend outcomes.write
        (lba.setWidth 16) (block.patch offset.toNat (data.take length.toNat))).1 = psaSuccess :=
      succeeded
    refine ⟨?_, ?_⟩
    · show (if (rpmbFrontendWrite _ _ _ _).1 = psaSuccess then length else 0).toNat = _
      rw [if_pos status, lengthIs]
      rfl
    · show (rpmbFrontendWrite _ _ _ _).2.blocks = _
      rw [rpmbFrontendWrite_success status]
      refine result.trans ?_
      rw [copied]
      rfl

theorem failed_inBlock {status : PsaStatus} (failed : status ≠ psaSuccess) :
    WritesInBlock blocks lba.toNat offset.toNat contents
      ((stack.withBlocks blocks).failed status) :=
  ⟨nofun, fun _ => failed, fun succeeded => absurd succeeded failed⟩

/-- A write with an offset in the block, at a block that the frontend can address, or without
data, stays in the block. -/
theorem rpmbBlockStoreWrite_inBlock
    (reaches : request.forwards stack.partitioned sourceId = .ok (.write lba offset data))
    (small : request.offset.toNat < 256) (addressed : lba.toNat < 65536 ∨ request.data.length = 0)
    (blocks : Nat → RpmbBlock) (outcomes : RpmbOutcomes) :
    WritesInBlock blocks lba.toNat request.offset.toNat request.data
      (rpmbBlockStoreWrite (stack.withBlocks blocks) outcomes stack.localClientId 0 lba offset
        data) := by
  obtain ⟨sameOffset, sameLength, fits⟩ := forwards_copyLength reaches small
  obtain ⟨legal, _, partition, _, _, _, clipped⟩ := forwards_write reaches
  rw [← sameOffset] at small sameLength ⊢
  obtain ⟨copyLength, computed⟩ : ∃ copyLength, (if BitVec.ofNat 64 data.length < 256 - offset then
      BitVec.ofNat 64 data.length else 256 - offset) = copyLength := ⟨_, rfl⟩
  have lengthIs : copyLength.toNat = min request.data.length (256 - offset.toNat) := by
    rw [← computed, copyLength_toNat small, BitVec.toNat_ofNat, Nat.mod_eq_of_lt fits, sameLength]
  have copied : data.take copyLength.toNat =
      request.data.take (min request.data.length (256 - offset.toNat)) := by
    have short : copyLength.toNat ≤ data.length := by omega
    rw [clipped, List.length_take] at short
    rw [clipped, List.take_take, ← lengthIs]
    congr 1
    omega
  have index : lba.toNat < 65536 → frontendIndex lba = lba.toNat := fun below => by
    rw [frontendIndex_eq, Nat.mod_eq_of_lt below]
  rw [rpmbBlockStoreWrite_checked stack blocks outcomes legal computed]
  split_ifs with whole
  · split
    · rename_i failed
      exact failed_inBlock (rpmbFrontendRead_error failed)
    · rename_i block read
      refine copyAndWrite_inBlock lengthIs small copied ?_
      rw [rpmbFrontendRead_ok read]
      show update blocks _ ((blocks (frontendIndex lba)).patch _ _) = _
      obtain below | empty := addressed
      · rw [index below]
      · have nothing : data.take copyLength.toNat = [] := by
          rw [copied, empty, Nat.zero_min, List.take_zero]
        rw [nothing, RpmbBlock.patch_nil, RpmbBlock.patch_nil, update_eq_self, update_eq_self]
  · have full : copyLength.toNat = 256 := congrArg BitVec.toNat (of_not_not whole)
    have start : offset.toNat = 0 := by omega
    refine copyAndWrite_inBlock lengthIs small copied ?_
    have below : lba.toNat < 65536 := addressed.resolve_right (by omega)
    rw [index below, start, RpmbBlock.patch_whole]
    rw [copied, List.length_take]
    omega

theorem misdirected_notInBlock {written : RpmbWritten}
    (small : request.offset.toNat < 256) (some : 0 < contents.length)
    (first : contents.getD 0 0 ≠ 0) (far : 65536 ≤ lba.toNat)
    (succeeded : written.status = psaSuccess) (changed : written.store.frontend.blocks =
      update (fun _ _ => 0) (frontendIndex lba) block) :
    ¬WritesInBlock (fun _ _ => 0) lba.toNat request.offset.toNat contents written := by
  intro inBlock
  have expected := (inBlock.exactly succeeded).2
  have apart : lba.toNat ≠ frontendIndex lba := by
    rw [frontendIndex_eq]
    omega
  have here := congrFun (congrFun (changed.symm.trans expected) lba.toNat)
    ⟨request.offset.toNat, small⟩
  rw [update_of_ne apart, update_self] at here
  have covered : request.offset.toNat ≤ request.offset.toNat ∧ request.offset.toNat <
      request.offset.toNat + (contents.take (min contents.length
        (rpmbDataSize - request.offset.toNat))).length := by
    rw [List.length_take]
    unfold rpmbDataSize
    omega
  rw [RpmbBlock.patch, if_pos covered] at here
  apply first
  obtain ⟨byte, rest, rfl⟩ := List.exists_cons_of_length_pos some
  have positive : 0 < min (byte :: rest).length (rpmbDataSize - request.offset.toNat) := by
    unfold rpmbDataSize
    omega
  obtain ⟨count, same⟩ := Nat.exists_eq_succ_of_ne_zero (Nat.ne_of_gt positive)
  rw [same, List.take_succ_cons, Nat.sub_self] at here
  exact here.symm

/-- A write that reaches the device stays in its block, whatever the block holds, the data are and
the device answers, exactly if the offset lies in the block, and the frontend can address the block
or there is nothing to write. -/
theorem rpmbWrite_inBlock_iff
    (reaches : request.forwards stack.partitioned sourceId = .ok (.write lba offset data)) :
    (∀ blocks outcomes contents, ∀ same : contents.length = request.data.length,
      ∀ written ∈ (request.withData contents same).serve stack blocks outcomes sourceId,
        WritesInBlock blocks lba.toNat request.offset.toNat contents written) ↔
      request.offset.toNat < rpmbDataSize ∧ (lba.toNat < 65536 ∨ request.data.length = 0) := by
  constructor
  · intro inBlock
    have legal := (forwards_write reaches).1
    have served : ∀ blocks contents, ∀ same : contents.length = request.data.length,
        ∃ written block, written.status = psaSuccess ∧
          written.store.frontend.blocks = update blocks (frontendIndex lba) block ∧
          WritesInBlock blocks lba.toNat request.offset.toNat contents written := by
      intro blocks contents same
      obtain ⟨other, forwarded⟩ := forwards_withData same reaches
      obtain ⟨block, succeeded, changed⟩ :=
        @rpmbBlockStoreWrite_succeeds stack lba offset other blocks legal
      refine ⟨_, block, succeeded, changed, inBlock blocks ⟨psaSuccess, psaSuccess⟩ contents same _ ?_⟩
      rw [Option.mem_def, WriteRequest.serve, forwarded]
    have small : request.offset.toNat < 256 := by
      obtain ⟨written, _, succeeded, _, inBlock⟩ := served (fun _ _ => 0) request.data rfl
      exact Nat.lt_of_not_le fun large => inBlock.rejected large succeeded
    refine ⟨small, ?_⟩
    by_contra neither
    rw [not_or] at neither
    obtain ⟨written, block, succeeded, changed, inBlock⟩ :=
      served (fun _ _ => 0) (List.replicate request.data.length 1) List.length_replicate
    have some : 0 < request.data.length := Nat.pos_of_ne_zero neither.2
    refine misdirected_notInBlock small ?_ ?_ (Nat.le_of_not_lt neither.1) succeeded changed inBlock
    · rw [List.length_replicate]
      exact some
    · rw [List.getD_eq_getElem?_getD, List.getElem?_replicate, if_pos some]
      decide
  · rintro ⟨small, addressed⟩ blocks outcomes contents same written isServed
    obtain ⟨other, forwarded⟩ := forwards_withData same reaches
    rw [Option.mem_def, WriteRequest.serve, forwarded] at isServed
    cases isServed
    exact rpmbBlockStoreWrite_inBlock forwarded small (same.symm ▸ addressed) blocks outcomes

/-- A device of 512 blocks with a partition of the blocks 0 to 15, which client 5 has open. -/
def smallStack : RpmbStack where
  partitioned :=
    { authorizer := none
      configListener := none
      numPartitions := 1
      storagePartition := fun index =>
        if index.val = 0 then ⟨1, 256, 16, 0, ⟨[], [5]⟩⟩ else ⟨0, 0, 0, 0, storagePartitionAclInit⟩
      backStoreInfo := ⟨512, 256, 0⟩ }
  rpmb := ⟨⟨0, 256, 512, 0, ⟨[], [0]⟩⟩, ⟨1, fun _ _ => 0⟩⟩
  localClientId := 0
  inside := by
    unfold PartitionedBlockStore.Inside
    decide
  unused := by decide
  blockSize := rfl
  numBlocks := rfl
  sameBlocks := rfl
  opened := by decide

/-- Ten bytes to write at an offset of block 3. -/
def tenBytesAt (offset : BitVec 32) : WriteRequest := ⟨0, 3, offset, List.replicate 10 1, by decide⟩

theorem rpmbWrite_inBlock_iff_inside :
    (tenBytesAt 250).forwards smallStack.partitioned 5 =
        .ok (.write 3 250 (List.replicate 10 1)) ∧
      ∀ blocks outcomes contents, ∀ same : contents.length = (tenBytesAt 250).data.length,
        ∀ written ∈ ((tenBytesAt 250).withData contents same).serve smallStack blocks outcomes 5,
          WritesInBlock blocks 3 250 contents written :=
  ⟨by decide, (@rpmbWrite_inBlock_iff smallStack 5 (tenBytesAt 250) 3 250 (List.replicate 10 1)
    (by decide)).mpr ⟨by decide, by decide⟩⟩

/-- Ten bytes at offset 300 are copied behind the block buffer, and the write succeeds. -/
theorem largeOffset_overruns :
    ∃ written ∈ (tenBytesAt 300).serve smallStack (fun _ _ => 0) ⟨psaSuccess, psaSuccess⟩ 5,
      written.copied = some (300, 10) ∧ written.status = psaSuccess ∧
      ¬WritesInBlock (fun _ _ => 0) 3 300 (tenBytesAt 300).data written := by
  refine ⟨_, rfl, by decide, by decide, fun inBlock => ?_⟩
  exact absurd (inBlock.inside (300, 10) (by decide)) (by decide)

end BlockStorage
