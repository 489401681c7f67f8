import TrustedServices.Media.BlockVolume

/- A volume on a clipping block store is a file of bytes. -/
namespace Volumes

open Lib BlockStorage

section

variable {volume : BlockVolume} {remaining : BitVec 64}

theorem toNat_clip_lt (value bound : BitVec 64) :
    (if value < bound then value else bound).toNat = min value.toNat bound.toNat := by
  split_ifs with above
  · have less : value.toNat < bound.toNat := above
    omega
  · have least : bound.toNat ≤ value.toNat := Nat.le_of_not_lt above
    omega

theorem toNat_clip_gt (value bound : BitVec 64) :
    (if value > bound then bound else value).toNat = min value.toNat bound.toNat := by
  split_ifs with below
  · have greater : bound.toNat < value.toNat := below
    omega
  · have most : value.toNat ≤ bound.toNat := Nat.le_of_not_lt below
    omega

theorem offset_lt_blockSize (sized : volume.blockSize ≠ 0) :
    volume.filePos.toNat % volume.blockSize.toNat < volume.blockSize.toNat := by
  apply Nat.mod_lt
  apply Nat.pos_of_ne_zero
  intro zero
  exact sized (BitVec.eq_of_toNat_eq zero)

theorem BlockVolume.access_eq (sized : volume.blockSize ≠ 0)
    (before : volume.filePos < volume.size) :
    (volume.access remaining).lba.toNat =
        volume.filePos.toNat / volume.blockSize.toNat ∧
      (volume.access remaining).offset.toNat =
        volume.filePos.toNat % volume.blockSize.toNat ∧
      (volume.access remaining).requestedLen.toNat =
        min (min remaining.toNat (volume.size.toNat - volume.filePos.toNat))
          (volume.blockSize.toNat - volume.filePos.toNat % volume.blockSize.toNat) := by
  have offset := BitVec.toNat_umod (x := volume.filePos) (y := volume.blockSize)
  have inBlock := offset_lt_blockSize sized
  refine ⟨BitVec.toNat_udiv, offset, ?_⟩
  unfold BlockVolume.access
  rw [toNat_clip_lt, toNat_clip_gt, BitVec.toNat_sub_of_le (BitVec.le_of_lt before),
    BitVec.toNat_sub_of_le, offset]
  show (volume.filePos % volume.blockSize).toNat ≤ _
  exact Nat.le_of_lt inBlock

theorem block_of_add {size position i : Nat} (inBlock : position % size + i < size) :
    (position + i) / size = position / size ∧ (position + i) % size = position % size + i := by
  have split : position + i = size * (position / size) + (position % size + i) := by
    have whole := Nat.div_add_mod position size
    omega
  rw [split, Nat.mul_add_div (by omega), Nat.div_eq_of_lt inBlock, Nat.mul_add_mod,
    Nat.mod_eq_of_lt inBlock]
  exact ⟨rfl, rfl⟩

end

variable {State : Type} {store : ClippingStore State} {state : State} {volume : BlockVolume}
  {file : ByteFile}

/-- An open volume and its block store are a file. -/
structure Ready (store : ClippingStore State) (state : State) (volume : BlockVolume)
    (file : ByteFile) : Prop where
  info : store.getPartitionInfo state volume.partitionGuid = .ok volume.partitionInfo
  isOpen : store.isOpen state 0 volume.partitionGuid volume.partitionHandle
  whole : volume.size = volume.blockSize * volume.numBlocks
  size : file.size = volume.size.toNat
  position : file.position = volume.filePos.toNat
  cells : ∀ address < file.size, file.cells address = store.cell state volume.partitionGuid
    (address / volume.blockSize.toNat) (address % volume.blockSize.toNat)

section

variable (ready : Ready store state volume file)

include ready

theorem Ready.lba_lt {lba : BitVec 64}
    (block : lba.toNat = volume.filePos.toNat / volume.blockSize.toNat)
    (before : volume.filePos < volume.size) : lba < volume.numBlocks := by
  show lba.toNat < volume.numBlocks.toNat
  have below : volume.filePos.toNat < volume.size.toNat := before
  rw [ready.whole, BitVec.toNat_mul] at below
  rw [block]
  apply Nat.div_lt_of_lt_mul
  exact Nat.lt_of_lt_of_le below (Nat.mod_le _ _)

theorem Ready.read_access
    (sized : volume.blockSize ≠ 0) (before : volume.filePos < volume.size)
    (remaining : BitVec 64) :
    store.read state 0 volume.partitionHandle (volume.access remaining).lba
        (volume.access remaining).offset (volume.access remaining).requestedLen =
      .ok (window file.cells file.position (volume.access remaining).requestedLen.toNat) := by
  obtain ⟨block, offset, length⟩ := @BlockVolume.access_eq volume remaining sized before
  have inBlock : (volume.access remaining).offset < volume.blockSize := by
    show (volume.access remaining).offset.toNat < _
    exact offset_lt_blockSize sized
  have clipped := @transferLength_toNat _ _ (volume.access remaining).requestedLen inBlock
  rw [store.read_clips _ _ _ _ _ _ _ _ ready.isOpen ready.info (ready.lba_lt block before) inBlock,
    clipped, Nat.min_eq_left (by omega), offset]
  congr 1
  apply window_congr
  intro i inside
  have position := ready.position
  have size := ready.size
  obtain ⟨sameBlock, next⟩ := @block_of_add volume.blockSize.toNat volume.filePos.toNat i (by omega)
  rw [ready.cells _ (by omega), position, sameBlock, next, block]

theorem Ready.moved {length : Nat} {count : BitVec 64} (fits : count.toNat ≤ file.room length) :
    Ready store state { volume with filePos := volume.filePos + count }
      (file.behind count.toNat) := by
  refine ⟨ready.info, ready.isOpen, ready.whole, ready.size, ?_, ready.cells⟩
  have size := ready.size
  have position := ready.position
  have inside := file.position_room_le length
  show file.position + file.room count.toNat = (volume.filePos + count).toNat
  rw [ByteFile.room_of_le fits, BitVec.toNat_add_of_lt (by omega), position]

end

variable {size position address : Nat} {data : Bytes}

/-- What a write into a block is for the file. -/
theorem overlay_block {cells block : Nat → UInt8}
    (same : address / size = position / size) (there : cells address = block (address % size)) :
    overlay cells position data address = overlay block (position % size) data (address % size) := by
  have left := Nat.div_add_mod address size
  have right := Nat.div_add_mod position size
  rw [same] at left
  unfold overlay
  by_cases behind : position ≤ address
  · rw [if_pos behind, if_pos (by omega), there,
      show address - position = address % size - position % size by omega]
  · rw [if_neg behind, if_neg (by omega), there]

theorem overlay_other_block {cells : Nat → UInt8}
    (inBlock : position % size + data.length ≤ size) (other : address / size ≠ position / size) :
    overlay cells position data address = cells address := by
  apply overlay_outside
  by_contra inside
  apply other
  obtain ⟨i, rfl⟩ := Nat.exists_eq_add_of_le (show position ≤ address by omega)
  exact (block_of_add (by omega)).1

theorem Ready.write_access (ready : Ready store state volume file)
    (sized : volume.blockSize ≠ 0) (before : volume.filePos < volume.size)
    (remaining : BitVec 64)
    (length : data.length = (volume.access remaining).requestedLen.toNat) :
    (store.write state 0 volume.partitionHandle (volume.access remaining).lba
        (volume.access remaining).offset data).1 = .ok (volume.access remaining).requestedLen ∧
      Ready store (store.write state 0 volume.partitionHandle (volume.access remaining).lba
          (volume.access remaining).offset data).2
        { volume with filePos := volume.filePos + (volume.access remaining).requestedLen }
        (file.written data) := by
  obtain ⟨block, offset, requested⟩ := @BlockVolume.access_eq volume remaining sized before
  have inBlock : (volume.access remaining).offset < volume.blockSize := by
    show (volume.access remaining).offset.toNat < _
    exact offset_lt_blockSize sized
  have offsetInBlock := offset_lt_blockSize sized
  have fits : volume.filePos.toNat % volume.blockSize.toNat + data.length ≤
      volume.blockSize.toNat := by omega
  have positive : 0 < volume.blockSize.toNat := by omega
  have sameLength : BitVec.ofNat 64 data.length = (volume.access remaining).requestedLen := by
    rw [length, BitVec.ofNat_toNat, BitVec.setWidth_eq]
  have clipped : transferLength volume.blockSize (volume.access remaining).offset
      (volume.access remaining).requestedLen = (volume.access remaining).requestedLen := by
    apply BitVec.eq_of_toNat_eq
    rw [transferLength_toNat inBlock]
    omega
  obtain ⟨answer, isOpen, info, cells⟩ := store.write_clips _ _ _ _ _ _ _ data ready.isOpen ready.info
    (ready.lba_lt block before) inBlock
  rw [sameLength, clipped] at answer cells
  rw [← length, List.take_length, offset, block] at cells
  have size := ready.size
  have position := ready.position
  have room : file.room data.length = (volume.access remaining).requestedLen.toNat := by
    unfold ByteFile.room
    omega
  refine ⟨answer, info, isOpen, ready.whole, size, ?_, fun address inside => ?_⟩
  · show file.position + file.room data.length =
      (volume.filePos + (volume.access remaining).requestedLen).toNat
    rw [BitVec.toNat_add_of_lt (by omega)]
    omega
  · have there := ready.cells address inside
    show overlay file.cells file.position (data.take (file.room data.length)) address = _
    rw [room, ← length, List.take_length, cells _ _ (Nat.mod_lt _ positive), position]
    split_ifs with other
    · exact overlay_block other there
    · rw [overlay_other_block fits other, there]

/-- What a round of the loops transfers is a part of what is left. -/
theorem Ready.access_fits {total done : BitVec 64} (sized : volume.blockSize ≠ 0)
    (ready : Ready store state volume file) (short : done < total)
    (before : volume.filePos < volume.size) :
    0 < (volume.access (total - done)).requestedLen.toNat ∧
      (volume.access (total - done)).requestedLen.toNat ≤ file.room (total.toNat - done.toNat) := by
  have size := ready.size
  have position := ready.position
  have shorter : done.toNat < total.toNat := short
  have below : volume.filePos.toNat < volume.size.toNat := before
  have inBlock := offset_lt_blockSize sized
  obtain ⟨_, _, requested⟩ := @BlockVolume.access_eq volume (total - done) sized before
  rw [BitVec.toNat_sub_of_le (BitVec.le_of_lt short)] at requested
  unfold ByteFile.room
  omega

/-- The loops end when nothing is left. -/
theorem Ready.room_eq_zero {total done : BitVec 64} (ready : Ready store state volume file)
    (stops : ¬(done < total ∧ volume.filePos < volume.size)) :
    file.room (total.toNat - done.toNat) = 0 := by
  have size := ready.size
  have position := ready.position
  unfold ByteFile.room
  by_contra left
  apply stops
  refine ⟨?_, ?_⟩
  · show done.toNat < total.toNat
    omega
  · show volume.filePos.toNat < volume.size.toNat
    omega

theorem readBlocks_ready {length : BitVec 64} {fuel : Nat} {buffer : Bytes}
    (sized : volume.blockSize ≠ 0) (ready : Ready store state volume file)
    (partly : buffer.length ≤ length.toNat)
    (enough : file.room (length.toNat - buffer.length) < fuel) :
    ∃ next, readBlocks store.toBlockStore state length fuel volume buffer =
        some (.ok (buffer ++ window file.cells file.position
          (file.room (length.toNat - buffer.length))), next) ∧
      Ready store state next (file.behind (length.toNat - buffer.length)) := by
  induction fuel generalizing volume file buffer with
  | zero => exact absurd enough (Nat.not_lt_zero _)
  | succ fuel ih =>
    have bytesRead : (BitVec.ofNat 64 buffer.length).toNat = buffer.length := by
      rw [BitVec.toNat_ofNat, Nat.mod_eq_of_lt (by omega)]
    unfold readBlocks
    dsimp only
    by_cases going : BitVec.ofNat 64 buffer.length < length ∧ volume.filePos < volume.size
    · obtain ⟨positive, fits⟩ := ready.access_fits sized going.1 going.2
      rw [bytesRead] at fits
      rw [if_pos going, ready.read_access sized going.2]
      generalize (volume.access (length - BitVec.ofNat 64 buffer.length)).requestedLen = count
        at positive fits
      have within := Nat.le_trans fits (Nat.min_le_left _ _)
      dsimp only
      rw [length_window, BitVec.ofNat_toNat, BitVec.setWidth_eq]
      have rest : length.toNat -
          (buffer ++ window file.cells file.position count.toNat).length =
            length.toNat - buffer.length - count.toNat := by
        rw [List.length_append, length_window]
        omega
      have room := ByteFile.room_behind fits
      rw [← rest] at room
      obtain ⟨next, later, readyNext⟩ := @ih { volume with filePos := volume.filePos + count }
        (file.behind count.toNat) (buffer ++ window file.cells file.position count.toNat) sized
        (ready.moved fits) (by rw [List.length_append, length_window]; omega) (by omega)
      refine ⟨next, ?_, ?_⟩
      · have split : file.room (length.toNat - buffer.length) =
            count.toNat + (file.room (length.toNat - buffer.length) - count.toNat) := by omega
        rw [later, room, List.append_assoc, split, window_add, Nat.add_sub_cancel_left]
        show some (Except.ok (buffer ++ (_ ++ window file.cells (file.position +
          file.room count.toNat) _)), next) = _
        rw [ByteFile.room_of_le fits]
      · rw [← ByteFile.behind_behind fits, ← rest]
        exact readyNext
    · rw [if_neg going]
      have nothing := ready.room_eq_zero going
      rw [bytesRead] at nothing
      refine ⟨volume, ?_, ?_⟩
      · rw [nothing, window_zero, List.append_nil]
      · rwa [ByteFile.behind_nothing nothing]

/-- Bytes of a buffer that have not been written yet. -/
theorem writeBlocks_ready {buffer : Buffer} {fuel : Nat} {bytesWritten : BitVec 64}
    (sized : volume.blockSize ≠ 0) (ready : Ready store state volume file)
    (partly : bytesWritten.toNat ≤ buffer.bytes.length)
    (enough : file.room (buffer.bytes.length - bytesWritten.toNat) < fuel) :
    ∃ next after, writeBlocks store.toBlockStore buffer fuel state volume bytesWritten =
        some (.ok (bytesWritten + BitVec.ofNat 64
          (file.room (buffer.bytes.length - bytesWritten.toNat))), next, after) ∧
      Ready store after next (file.written (buffer.bytes.drop bytesWritten.toNat)) := by
  induction fuel generalizing state volume file bytesWritten with
  | zero => exact absurd enough (Nat.not_lt_zero _)
  | succ fuel ih =>
    have bufferMost := buffer.fits
    have length : (BitVec.ofNat 64 buffer.bytes.length).toNat = buffer.bytes.length := by
      rw [BitVec.toNat_ofNat, Nat.mod_eq_of_lt bufferMost]
    unfold writeBlocks
    dsimp only
    by_cases going : bytesWritten < BitVec.ofNat 64 buffer.bytes.length ∧
        volume.filePos < volume.size
    · obtain ⟨positive, fits⟩ := ready.access_fits sized going.1 going.2
      rw [length] at fits
      have within := Nat.le_trans fits (Nat.min_le_left _ _)
      have whole := length_slice buffer.bytes bytesWritten.toNat _
        (show bytesWritten.toNat + (volume.access
          (BitVec.ofNat 64 buffer.bytes.length - bytesWritten)).requestedLen.toNat ≤ _ by omega)
      obtain ⟨answer, stored⟩ := ready.write_access sized going.2 _ whole
      rw [if_pos going, answer]
      dsimp only
      generalize (volume.access (BitVec.ofNat 64 buffer.bytes.length - bytesWritten)).requestedLen =
        count at *
      have advanced : (bytesWritten + count).toNat = bytesWritten.toNat + count.toNat :=
        BitVec.toNat_add_of_lt (by omega)
      have split : slice buffer.bytes bytesWritten.toNat count.toNat ++
          buffer.bytes.drop (bytesWritten + count).toNat =
            buffer.bytes.drop bytesWritten.toNat := by
        unfold slice
        rw [advanced, ← List.drop_drop, List.take_append_drop]
      have room : (file.written (slice buffer.bytes bytesWritten.toNat count.toNat)).room
          (buffer.bytes.length - (bytesWritten + count).toNat) =
            file.room (buffer.bytes.length - bytesWritten.toNat) - count.toNat := by
        rw [advanced, ← Nat.sub_sub, ← ByteFile.room_behind fits, ByteFile.room_written, whole]
      obtain ⟨next, after, later, readyNext⟩ := @ih _
        { volume with filePos := volume.filePos + count } _ (bytesWritten + count) sized stored
        (by omega) (by omega)
      refine ⟨next, after, ?_, ?_⟩
      · rw [later, room, BitVec.add_assoc]
        have sum : count + BitVec.ofNat 64
            (file.room (buffer.bytes.length - bytesWritten.toNat) - count.toNat) =
              BitVec.ofNat 64 (file.room (buffer.bytes.length - bytesWritten.toNat)) := by
          apply BitVec.eq_of_toNat_eq
          rw [BitVec.toNat_add, BitVec.toNat_ofNat, BitVec.toNat_ofNat, Nat.add_mod_mod,
            Nat.add_sub_cancel' fits]
        rw [sum]
      · rwa [ByteFile.written_written, split] at readyNext
        rw [split, whole, List.length_drop]
        exact fits
    · rw [if_neg going]
      have nothing := ready.room_eq_zero going
      rw [length] at nothing
      refine ⟨volume, state, ?_, ?_⟩
      · rw [nothing, BitVec.add_zero]
      · rwa [ByteFile.written_nothing (by rwa [List.length_drop])]

variable {system : VolumeSystem State} {guid : Guid}

/-- The blocks of a partition are the bytes of a file. -/
def Holds (store : ClippingStore State) (state : State) (guid : Guid) (file : ByteFile) : Prop :=
  ∀ info, store.getPartitionInfo state guid = .ok info →
    file.size = (info.blockSize * info.numBlocks).toNat ∧
      ∀ address < file.size, file.cells address =
        store.cell state guid (address / info.blockSize.toNat) (address % info.blockSize.toNat)

/-- A volume and its block store are a file, open or not. -/
structure Represents (store : ClippingStore State) (system : VolumeSystem State) (file : ByteFile) :
    Prop where
  entity : system.entity = file.isOpen
  holds : Holds store system.state system.volume.partitionGuid file
  ready : file.isOpen = true → Ready store system.state system.volume file

theorem Ready.holds (ready : Ready store state volume file) :
    Holds store state volume.partitionGuid file := by
  intro info known
  obtain rfl : volume.partitionInfo = info := Except.ok.inj (ready.info.symm.trans known)
  exact ⟨ready.whole ▸ ready.size, ready.cells⟩

theorem Ready.represents (ready : Ready store state volume file)
    (isOpen : file.isOpen = true) : Represents store ⟨volume, state, true⟩ file :=
  ⟨isOpen.symm, ready.holds, fun _ => ready⟩

section

variable (represents : Represents store system file)

include represents

theorem Represents.step_open (fuel : Nat) :
    ∃ answer next after, system.step store.toBlockStore fuel .openVolume = some (answer, next) ∧
      file.Step (system.refuses store.toBlockStore .openVolume) .openVolume answer after ∧
        Represents store next after := by
  obtain ⟨volume, state, entity⟩ := system
  have isEntity : entity = file.isOpen := represents.entity
  unfold VolumeSystem.step blockVolumeOpen VolumeSystem.refuses
  dsimp only
  cases known : store.getPartitionInfo state volume.partitionGuid with
  | error status =>
    refine ⟨_, _, file, rfl, .openRefused rfl, ?_⟩
    exact represents
  | ok info =>
    obtain ⟨size, cells⟩ := represents.holds info known
    have sameInfo := store.open_info state 0 volume.partitionGuid
    have sameCell := store.open_cell state 0 volume.partitionGuid
    have holds : Holds store (store.openPartition state 0 volume.partitionGuid).2
        volume.partitionGuid file := by
      intro other
      rw [sameInfo, sameCell]
      exact represents.holds other
    cases opened : (store.openPartition state 0 volume.partitionGuid).1 with
    | ok handle =>
      refine ⟨_, _, _, rfl, .opened rfl, ?_⟩
      have ready : Ready store (store.openPartition state 0 volume.partitionGuid).2
          ⟨info, volume.partitionGuid, 0, info.blockSize * info.numBlocks, handle⟩
          { file.rewound with isOpen := true } := by
        refine ⟨sameInfo.trans known, store.open_ok _ _ _ _ opened, rfl, size, rfl, ?_⟩
        rw [sameCell]
        exact cells
      exact ready.represents rfl
    | error status =>
      refine ⟨_, _, _, rfl, .openRefusedRewound rfl, isEntity, holds, fun isOpen => ?_⟩
      have ready := represents.ready isOpen
      refine ⟨sameInfo.trans known, store.open_keeps _ _ _ _ ready.isOpen, rfl, size, rfl, ?_⟩
      rw [sameCell]
      exact cells

theorem Represents.unopened {request : Request} (refused : Bool)
    (closed : file.isOpen = false) (other : request ≠ .openVolume)
    (requested : Option (Answer × VolumeSystem State)) :
    ∃ answer next after, system.through requested = some (answer, next) ∧
      file.Step refused request answer after ∧ Represents store next after := by
  refine ⟨.unopened, system, file, ?_, .unopened closed other, represents⟩
  unfold VolumeSystem.through
  rw [represents.entity, closed]
  rfl

theorem Represents.through
    (isOpen : file.isOpen = true) (requested : Option (Answer × VolumeSystem State)) :
    system.through requested = requested := by
  unfold VolumeSystem.through
  rw [represents.entity, isOpen]
  rfl

end

theorem Ready.size_empty (ready : Ready store state volume file)
    (empty : volume.blockSize = 0) : file.size = 0 := by
  rw [ready.size, ready.whole, empty]
  exact congrArg BitVec.toNat BitVec.zero_mul

theorem Ready.seek (ready : Ready store state volume file)
    (isOpen : file.isOpen = true) (mode : SeekMode) (offset : BitVec 64) :
    ∃ after, file.Step false (.seek mode offset)
        (.of (blockVolumeSeek volume mode offset).1 fun _ => .done) after ∧
      after.isOpen = true ∧ Ready store state (blockVolumeSeek volume mode offset).2 after := by
  have size := ready.size
  have position := ready.position
  cases mode with
  | set =>
    unfold blockVolumeSeek
    by_cases fits : offset ≤ volume.size
    · have inside : offset.toNat ≤ volume.size.toNat := fits
      rw [if_pos fits]
      refine ⟨file.moved offset.toNat (size ▸ inside), .seek isOpen rfl _ ?_, isOpen, ?_⟩
      · have signed := BitVec.toInt_eq_toNat_cond offset
        omega
      · exact ⟨ready.info, ready.isOpen, ready.whole, size, rfl, ready.cells⟩
    · have outside : volume.size.toNat < offset.toNat := Nat.lt_of_not_le fits
      rw [if_neg fits]
      refine ⟨file, .seekRefused isOpen ?_, isOpen, ready⟩
      intro target aims small
      have signed := BitVec.toInt_eq_toNat_cond offset
      obtain rfl : offset.toInt = target := Option.some.inj aims
      omega
  | cur =>
    unfold blockVolumeSeek
    by_cases fits : 0 ≤ (volume.filePos + offset).toInt ∧ volume.filePos + offset ≤ volume.size
    · have inside : (volume.filePos + offset).toNat ≤ volume.size.toNat := fits.2
      rw [if_pos fits]
      refine ⟨file.moved (volume.filePos + offset).toNat (size ▸ inside),
        .seek isOpen rfl _ ?_, isOpen, ?_⟩
      · have signed := BitVec.toInt_eq_toNat_cond offset
        have sum := BitVec.toNat_add volume.filePos offset
        omega
      · exact ⟨ready.info, ready.isOpen, ready.whole, size, rfl, ready.cells⟩
    · rw [if_neg fits]
      refine ⟨file, .seekRefused isOpen ?_, isOpen, ready⟩
      intro target aims small
      have signed := BitVec.toInt_eq_toNat_cond offset
      have sum := BitVec.toNat_add volume.filePos offset
      have signedSum := BitVec.toInt_eq_toNat_cond (volume.filePos + offset)
      obtain rfl : (file.position : Int) + offset.toInt = target := Option.some.inj aims
      by_contra inside
      apply fits
      refine ⟨by omega, ?_⟩
      show (volume.filePos + offset).toNat ≤ volume.size.toNat
      omega
  | other =>
    refine ⟨file, .seekRefused isOpen ?_, isOpen, ready⟩
    intro target aims
    cases aims

variable {fuel : Nat}

section

variable (ready : Ready store state volume file) (isOpen : file.isOpen = true)
  (enough : 2 ^ 64 ≤ fuel)

include ready isOpen enough

theorem Ready.read (length : BitVec 64) : ∃ result next after,
      blockVolumeRead store.toBlockStore fuel state volume length = some (result, next) ∧
        file.Step false (.read length) (.of result .data) after ∧ after.isOpen = true ∧
          Ready store state next after := by
  unfold blockVolumeRead
  by_cases empty : volume.blockSize = 0
  · rw [if_pos empty]
    exact ⟨_, _, file, rfl, .readEmpty isOpen (ready.size_empty empty), isOpen, ready⟩
  · have room : file.room length.toNat < fuel := by
      unfold ByteFile.room
      omega
    obtain ⟨next, read, readyNext⟩ :=
      @readBlocks_ready _ _ _ _ _ length fuel [] empty ready (Nat.zero_le _) room
    rw [if_neg empty]
    exact ⟨_, _, _, read, .read isOpen, isOpen, readyNext⟩

theorem Ready.write (data : Buffer) : ∃ result next newState after,
      blockVolumeWrite store.toBlockStore fuel state volume data = some (result, next, newState) ∧
        file.Step false (.write data) (.of result .count) after ∧ after.isOpen = true ∧
          Ready store newState next after := by
  unfold blockVolumeWrite
  by_cases empty : volume.blockSize = 0
  · rw [if_pos empty]
    exact ⟨_, _, _, file, rfl, .writeEmpty isOpen (ready.size_empty empty), isOpen, ready⟩
  · have room : file.room data.bytes.length < fuel := by
      have most := data.fits
      unfold ByteFile.room
      omega
    obtain ⟨next, after, written, readyNext⟩ :=
      @writeBlocks_ready _ _ _ _ _ data fuel 0 empty ready (Nat.zero_le _) room
    have count : (0 : BitVec 64) + BitVec.ofNat 64 (file.room data.bytes.length) =
        BitVec.ofNat 64 (file.room data.bytes.length) := BitVec.zero_add _
    rw [if_neg empty, written]
    refine ⟨_, _, _, file.written data.bytes, rfl, ?_, isOpen, readyNext⟩
    show file.Step false (.write data) (.count (0 + BitVec.ofNat 64 (file.room data.bytes.length))) _
    rw [count]
    exact .write isOpen

end

section

variable (represents : Represents store system file)

include represents

theorem Represents.step_close (fuel : Nat) (isOpen : file.isOpen = true) :
    ∃ answer next after, system.step store.toBlockStore fuel .close = some (answer, next) ∧
      file.Step (system.refuses store.toBlockStore .close) .close answer after ∧
        Represents store next after := by
  have holds : Holds store (store.close system.state 0 system.volume.partitionHandle).2
      system.volume.partitionGuid file := by
    intro info
    rw [store.close_info, store.close_cell]
    exact represents.holds info
  unfold VolumeSystem.step VolumeSystem.refuses
  rw [represents.through isOpen]
  unfold blockVolumeClose
  dsimp only
  split
  · rename_i granted
    exact ⟨_, _, _, rfl, .closed isOpen (decide_eq_false (not_not_intro granted)), rfl, holds,
      Bool.noConfusion⟩
  · rename_i refusal
    exact ⟨_, _, _, rfl, .closeRefused isOpen (decide_eq_true refusal), rfl, holds,
      Bool.noConfusion⟩

/-- Each request to the volume is answered as the file would. -/
theorem Represents.step (enough : 2 ^ 64 ≤ fuel) (request : Request) :
    ∃ answer next after, system.step store.toBlockStore fuel request = some (answer, next) ∧
      file.Step (system.refuses store.toBlockStore request) request answer after ∧
        Represents store next after := by
  cases request with
  | openVolume => exact represents.step_open fuel
  | seek mode offset =>
    cases isOpen : file.isOpen with
    | false => exact represents.unopened _ isOpen Request.noConfusion _
    | true =>
      obtain ⟨after, sought, stillOpen, ready⟩ := (represents.ready isOpen).seek isOpen mode offset
      have entity := represents.entity.trans isOpen
      refine ⟨_, _, after, represents.through isOpen _, sought, ?_⟩
      rw [entity]
      exact ready.represents stillOpen
  | read length =>
    cases isOpen : file.isOpen with
    | false => exact represents.unopened _ isOpen Request.noConfusion _
    | true =>
      obtain ⟨result, next, after, read, stepped, stillOpen, ready⟩ :=
        (represents.ready isOpen).read isOpen enough length
      have entity := represents.entity.trans isOpen
      refine ⟨.of result .data, { system with volume := next }, after, ?_, stepped, ?_⟩
      · refine (represents.through isOpen _).trans ?_
        rw [read]
        rfl
      · rw [entity]
        exact ready.represents stillOpen
  | write data =>
    cases isOpen : file.isOpen with
    | false => exact represents.unopened _ isOpen Request.noConfusion _
    | true =>
      obtain ⟨result, next, newState, after, written, stepped, stillOpen, ready⟩ :=
        (represents.ready isOpen).write isOpen enough data
      have entity := represents.entity.trans isOpen
      refine ⟨.of result .count, ⟨next, newState, system.entity⟩, after, ?_, stepped, ?_⟩
      · refine (represents.through isOpen _).trans ?_
        rw [written]
        rfl
      · rw [entity]
        exact ready.represents stillOpen
  | close =>
    cases isOpen : file.isOpen with
    | false => exact represents.unopened _ isOpen Request.noConfusion _
    | true => exact represents.step_close fuel isOpen

theorem Represents.run (enough : 2 ^ 64 ≤ fuel) (requests : List Request) :
    ∃ asked answers last after,
      system.run store.toBlockStore fuel requests = some (asked, answers, last) ∧
        asked.map Prod.fst = requests ∧ file.Run asked answers after ∧
          Represents store last after := by
  induction requests generalizing system file with
  | nil => exact ⟨[], [], system, file, rfl, rfl, .nil, represents⟩
  | cons request rest ih =>
    obtain ⟨answer, next, between, stepped, first, nextRepresents⟩ := represents.step enough request
    obtain ⟨asked, answers, last, after, ran, same, later, lastRepresents⟩ := ih nextRepresents
    refine ⟨(request, _) :: asked, answer :: answers, last, after, ?_,
      congrArg (request :: ·) same, .cons first later, lastRepresents⟩
    rw [VolumeSystem.run, stepped, Option.bind_some, ran]
    rfl

end

def partitionFile (store : ClippingStore State) (state : State) (guid : Guid) : ByteFile :=
  match store.getPartitionInfo state guid with
  | .error _ => ⟨0, fun _ => 0, 0, Nat.le_refl 0, false⟩
  | .ok info =>
    ⟨(info.blockSize * info.numBlocks).toNat, fun address =>
      store.cell state guid (address / info.blockSize.toNat) (address % info.blockSize.toNat),
      0, Nat.zero_le _, false⟩

theorem partitionFile_represents (state : State) (guid : Guid) :
    Represents store ⟨blockVolumeInit guid, state, false⟩ (partitionFile store state guid) := by
  unfold partitionFile
  cases known : store.getPartitionInfo state guid with
  | error status =>
    refine ⟨rfl, fun info found => ?_, Bool.noConfusion⟩
    cases known.symm.trans found
  | ok info =>
    refine ⟨rfl, fun other found => ?_, Bool.noConfusion⟩
    obtain rfl := Except.ok.inj (known.symm.trans found)
    exact ⟨rfl, fun _ _ => rfl⟩

/-- A volume answers every list of requests as a file of bytes does that is opened and closed unless
the store refuses, for enough rounds of its loops. Its blocks are the bytes of that file in the
end. -/
theorem blockVolume_is_byteFile (store : ClippingStore State) (state : State) (guid : Guid)
    (requests : List Request) :
    ∃ enough, ∀ fuel, enough ≤ fuel → ∃ asked answers last after,
      VolumeSystem.run store.toBlockStore fuel ⟨blockVolumeInit guid, state, false⟩ requests =
          some (asked, answers, last) ∧
        asked.map Prod.fst = requests ∧ (partitionFile store state guid).Run asked answers after ∧
          Represents store last after :=
  ⟨2 ^ 64, fun _ enough => (partitionFile_represents state guid).run enough requests⟩

/-- Three blocks of four bytes in memory. -/
def ramDisk : RamBlockStore := ⟨storagePartitionInit 1 3 4, fun _ => 0⟩

/-- Six bytes are written behind the first three, and read again. -/
theorem blockVolume_is_byteFile_ram :
    let requests := [.openVolume, .seek .set 3, .write ⟨[1, 2, 3, 4, 5, 6], by decide⟩,
      .seek .cur (-5), .read 9, .close]
    (∃ enough, ∀ fuel, enough ≤ fuel → ∃ asked answers last after,
      VolumeSystem.run ramBlockStore fuel ⟨blockVolumeInit 1, ramDisk, false⟩ requests =
          some (asked, answers, last) ∧
        asked.map Prod.fst = requests ∧
          (partitionFile ramClippingStore ramDisk 1).Run asked answers after ∧
            Represents ramClippingStore last after) ∧
      (VolumeSystem.run ramBlockStore 4 ⟨blockVolumeInit 1, ramDisk, false⟩ requests).map
          (fun ran => (ran.1.map Prod.snd, ran.2.1)) =
        some (List.replicate 6 false,
          [.done, .done, .count 6, .done, .data [2, 3, 4, 5, 6, 0, 0, 0], .done]) :=
  ⟨blockVolume_is_byteFile ramClippingStore ramDisk 1 _, by decide +kernel⟩

end Volumes
