import TrustedServices.BlockStorage.BlockStore
import TrustedServices.Media.ByteFile

/- The volume on a partition of a block store. -/
namespace Volumes

open Lib BlockStorage

structure BlockVolume extends partitionInfo : StoragePartitionInfo where
  partitionGuid : Guid
  filePos : BitVec 64
  size : BitVec 64
  partitionHandle : BitVec 32

def blockVolumeInit (partitionGuid : Guid) : BlockVolume := ⟨⟨0, 0⟩, partitionGuid, 0, 0, 0⟩

variable {State : Type} (store : BlockStore State)

def blockVolumeOpen (state : State) (volume : BlockVolume) :
    Except IoError Unit × BlockVolume × State :=
  match store.getPartitionInfo state volume.partitionGuid with
  | .error _ => (.error .perm, volume, state)
  | .ok info =>
    let volume := { volume with
      partitionInfo := info, filePos := 0, size := info.blockSize * info.numBlocks }
    let opened := store.openPartition state 0 volume.partitionGuid
    match opened.1 with
    | .ok handle => (.ok (), { volume with partitionHandle := handle }, opened.2)
    | .error _ => (.error .perm, volume, opened.2)

def blockVolumeClose (state : State) (volume : BlockVolume) :
    Except IoError Unit × BlockVolume × State :=
  let closed := store.close state 0 volume.partitionHandle
  if closed.1 = psaSuccess then (.ok (), { volume with filePos := 0, size := 0 }, closed.2)
  else (.error .nxio, volume, closed.2)

/-- Offsets and positions are compared as `size_t`. -/
def blockVolumeSeek (volume : BlockVolume) (mode : SeekMode) (offset : BitVec 64) :
    Except IoError Unit × BlockVolume :=
  match mode with
  | .set =>
    if offset ≤ volume.size then (.ok (), { volume with filePos := offset })
    else (.error .inval, volume)
  | .cur =>
    let targetPos := volume.filePos + offset
    if 0 ≤ targetPos.toInt ∧ targetPos ≤ volume.size then
      (.ok (), { volume with filePos := targetPos })
    else (.error .inval, volume)
  | .other => (.error .inval, volume)

/-- The block, the offset in it and the length of one access of a transfer. -/
structure BlockAccess where
  lba : BitVec 64
  offset : BitVec 64
  requestedLen : BitVec 64

def BlockVolume.access (volume : BlockVolume) (bytesRemaining : BitVec 64) : BlockAccess :=
  let lba := volume.filePos / volume.blockSize
  let offset := volume.filePos % volume.blockSize
  let bytesRemainingInBlock := volume.blockSize - offset
  let bytesRemainingInFile := volume.size - volume.filePos
  let bytesRemaining :=
    if bytesRemaining > bytesRemainingInFile then bytesRemainingInFile else bytesRemaining
  ⟨lba, offset,
    if bytesRemaining < bytesRemainingInBlock then bytesRemaining else bytesRemainingInBlock⟩

def readBlocks (state : State) (length : BitVec 64) :
    Nat → BlockVolume → Bytes → Option (Except IoError Bytes × BlockVolume)
  | 0, _, _ => none
  | fuel + 1, volume, buffer =>
    let bytesRead := BitVec.ofNat 64 buffer.length
    if bytesRead < length ∧ volume.filePos < volume.size then
      let access := volume.access (length - bytesRead)
      match store.read state 0 volume.partitionHandle access.lba access.offset
        access.requestedLen with
      | .error _ => some (.error .io, volume)
      | .ok data =>
        readBlocks state length fuel
          { volume with filePos := volume.filePos + BitVec.ofNat 64 data.length }
          (buffer ++ data)
    else some (.ok buffer, volume)

def blockVolumeRead (fuel : Nat) (state : State) (volume : BlockVolume) (length : BitVec 64) :
    Option (Except IoError Bytes × BlockVolume) :=
  if volume.blockSize = 0 then some (.error .io, volume)
  else readBlocks store state length fuel volume []

def writeBlocks (buffer : Buffer) :
    Nat → State → BlockVolume → BitVec 64 →
      Option (Except IoError (BitVec 64) × BlockVolume × State)
  | 0, _, _, _ => none
  | fuel + 1, state, volume, bytesWritten =>
    let length := BitVec.ofNat 64 buffer.bytes.length
    if bytesWritten < length ∧ volume.filePos < volume.size then
      let access := volume.access (length - bytesWritten)
      let stored := store.write state 0 volume.partitionHandle access.lba access.offset
        (slice buffer.bytes bytesWritten.toNat access.requestedLen.toNat)
      match stored.1 with
      | .error _ => some (.error .io, volume, stored.2)
      | .ok actualLen =>
        writeBlocks buffer fuel stored.2 { volume with filePos := volume.filePos + actualLen }
          (bytesWritten + actualLen)
    else some (.ok bytesWritten, volume, state)

def blockVolumeWrite (fuel : Nat) (state : State) (volume : BlockVolume) (buffer : Buffer) :
    Option (Except IoError (BitVec 64) × BlockVolume × State) :=
  if volume.blockSize = 0 then some (.error .io, volume, state)
  else writeBlocks store buffer fuel state volume 0

/-- A volume with its block store. The io layer has an entity from a successful open to the next
close, and makes the other requests with it only. -/
structure VolumeSystem (State : Type) where
  volume : BlockVolume
  state : State
  entity : Bool

def Answer.of {α : Type} (result : Except IoError α) (ok : α → Answer) : Answer :=
  match result with
  | .ok value => ok value
  | .error error => .failed error

def VolumeSystem.through (system : VolumeSystem State)
    (requested : Option (Answer × VolumeSystem State)) : Option (Answer × VolumeSystem State) :=
  if system.entity then requested else some (.unopened, system)

def VolumeSystem.step (fuel : Nat) (system : VolumeSystem State) :
    Request → Option (Answer × VolumeSystem State)
  | .openVolume =>
    let opened := blockVolumeOpen store system.state system.volume
    some (.of opened.1 fun _ => .done, ⟨opened.2.1, opened.2.2, opened.1.isOk || system.entity⟩)
  | .seek mode offset =>
    let sought := blockVolumeSeek system.volume mode offset
    system.through (some (.of sought.1 fun _ => .done, { system with volume := sought.2 }))
  | .read length =>
    system.through ((blockVolumeRead store fuel system.state system.volume length).map fun read =>
      (.of read.1 .data, { system with volume := read.2 }))
  | .write data =>
    system.through ((blockVolumeWrite store fuel system.state system.volume data).map fun written =>
      (.of written.1 .count, ⟨written.2.1, written.2.2, system.entity⟩))
  | .close =>
    let closed := blockVolumeClose store system.state system.volume
    system.through (some (.of closed.1 fun _ => .done, ⟨closed.2.1, closed.2.2, false⟩))

/-- The store refuses an open or a close. -/
def VolumeSystem.refuses (system : VolumeSystem State) : Request → Bool
  | .openVolume => !(store.getPartitionInfo system.state system.volume.partitionGuid).isOk ||
    !(store.openPartition system.state 0 system.volume.partitionGuid).1.isOk
  | .close => (store.close system.state 0 system.volume.partitionHandle).1 ≠ psaSuccess
  | _ => false

/-- The answers to a list of requests, each with its refusal by the store, if every loop of them
ends with `fuel` rounds. -/
def VolumeSystem.run (fuel : Nat) :
    VolumeSystem State → List Request →
      Option (List (Request × Bool) × List Answer × VolumeSystem State)
  | system, [] => some ([], [], system)
  | system, request :: rest =>
    (system.step store fuel request).bind fun first =>
      (run fuel first.2 rest).map fun later =>
        ((request, system.refuses store request) :: later.1, first.1 :: later.2.1, later.2.2)

end Volumes
