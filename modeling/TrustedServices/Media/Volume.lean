import TrustedServices.Lib.Bytes

/- Storage volumes whose calls may fail, with a record of every erase and write. -/
namespace Volumes

open Lib

inductive IoError
  | perm
  | io
  | nxio
  | inval
  deriving DecidableEq, Repr

structure Volume where
  contents : Bytes
  filePos : Nat
  deriving DecidableEq, Repr

namespace Volume

def size (volume : Volume) : Nat := volume.contents.length

def erasedDataVal : UInt8 := 0xff

section

variable (volume : Volume)

def rewind : Volume := { volume with filePos := 0 }

def erased : Volume :=
  { volume with contents := List.replicate volume.size erasedDataVal }

/-- How much of a transfer of `length` bytes fits behind the position. -/
def room (length : Nat) : Nat := min length (volume.size - volume.filePos)

def dataRead (length : Nat) : Bytes :=
  slice volume.contents volume.filePos length

def written (data : Bytes) : Volume where
  contents := volume.contents.take volume.filePos ++ data.take (volume.room data.length) ++
    volume.contents.drop (volume.filePos + volume.room data.length)
  filePos := volume.filePos + volume.room data.length

@[simp] theorem size_erased : volume.erased.size = volume.size := by
  simp [erased, size]

@[simp] theorem size_written (data : Bytes) : (volume.written data).size = volume.size := by
  simp only [written, size, room, List.length_append, List.length_take, List.length_drop]
  omega

end

end Volume

inductive VolumeOp
  | opened
  | closed
  | sized
  | read
  | write
  | erase
  deriving DecidableEq, Repr

def VolumeOp.changesContents : VolumeOp → Bool
  | .write | .erase => true
  | .opened | .closed | .sized | .read => false

structure VolumeCall where
  volumeId : Nat
  op : VolumeOp
  deriving DecidableEq, Repr

/-- A call that fails, and the volume it leaves behind. -/
structure VolumeFailure where
  error : IoError
  leaves : Volume → Volume
  keepsSize : ∀ volume, (leaves volume).size = volume.size

abbrev VolumeFault := Nat → VolumeCall → Option VolumeFailure

section

variable (failure : VolumeFailure) (op : VolumeOp) (volume : Volume)

/-- A volume that a failed call left: only an erase or a write reaches the contents. -/
def VolumeFailure.apply : Volume where
  contents := if op.changesContents then (failure.leaves volume).contents else volume.contents
  filePos := (failure.leaves volume).filePos

@[simp] theorem VolumeFailure.size_apply : (failure.apply op volume).size = volume.size := by
  have size := failure.keepsSize volume
  simp only [apply, Volume.size]
  split
  · exact size
  · rfl

end

/-- An erase or a write, with the volumes as it found them. -/
structure VolumeWrite where
  volumeId : Nat
  volumes : Nat → Option Volume

structure Media where
  volumes : Nat → Option Volume
  calls : Nat
  writes : List VolumeWrite

namespace Media

def volume (media : Media) (volumeId : Nat) : Volume :=
  (media.volumes volumeId).getD ⟨[], 0⟩

def modifyVolume (media : Media) (volumeId : Nat) (change : Volume → Volume) : Media :=
  { media with
    volumes := fun other =>
      if other = volumeId then (media.volumes other).map change else media.volumes other }

def record (media : Media) (call : VolumeCall) : Media :=
  { media with
    calls := media.calls + 1
    writes :=
      if call.op.changesContents then media.writes ++ [⟨call.volumeId, media.volumes⟩]
      else media.writes }

def call {α : Type} (media : Media) (fault : VolumeFault) (call : VolumeCall)
    (answer : Volume → α) (change : Volume → Volume) : Except IoError α × Media :=
  match fault media.calls call with
  | some failure =>
    (.error failure.error, (media.record call).modifyVolume call.volumeId (failure.apply call.op))
  | none =>
    (.ok (answer (media.volume call.volumeId)),
      (media.record call).modifyVolume call.volumeId change)

end Media

def volumeIndexFind (media : Media) (volumeId : Nat) : Option Nat :=
  (media.volumes volumeId).map fun _ => volumeId

section

variable (fault : VolumeFault) (media : Media)

def volumeOpen (volumeId : Nat) : Except IoError Unit × Media :=
  media.call fault ⟨volumeId, .opened⟩ (fun _ => ()) Volume.rewind

def volumeClose (volumeId : Nat) : Except IoError Unit × Media :=
  media.call fault ⟨volumeId, .closed⟩ (fun _ => ()) Volume.rewind

/-- The answer is the bytes read; fewer than `length` at the end of the volume. -/
def volumeRead (volumeId length : Nat) : Except IoError Bytes × Media :=
  media.call fault ⟨volumeId, .read⟩ (fun volume => volume.dataRead length) fun volume =>
    { volume with filePos := volume.filePos + (volume.dataRead length).length }

/-- The answer is how many bytes were written; fewer than given at the end of the volume. -/
def volumeWrite (volumeId : Nat) (data : Bytes) : Except IoError Nat × Media :=
  media.call fault ⟨volumeId, .write⟩ (fun volume => volume.room data.length) fun volume =>
    volume.written data

def volumeErase (volumeId : Nat) : Except IoError Unit × Media :=
  media.call fault ⟨volumeId, .erase⟩ (fun _ => ()) Volume.erased

end

variable {α : Type} {media : Media} {fault : VolumeFault} {ids : Nat → Prop}

theorem Media.modifyVolume_other (media : Media) (volumeId other : Nat) (change : Volume → Volume)
    (apart : other ≠ volumeId) :
    (media.modifyVolume volumeId change).volumes other = media.volumes other := by
  simp only [modifyVolume, apart, ↓reduceIte]

theorem Media.modifyVolume_self (media : Media) (volumeId : Nat) (change : Volume → Volume) :
    (media.modifyVolume volumeId change).volumes volumeId =
      (media.volumes volumeId).map change := by
  simp only [modifyVolume, ↓reduceIte]

theorem Media.volume_of_volumes {volumeId : Nat} {volume : Volume}
    (present : media.volumes volumeId = some volume) : media.volume volumeId = volume := by
  rw [Media.volume, present]
  rfl

/-- What a sequence of calls on the volumes in `ids` may do: other volumes stay, every volume
keeps its size, and each erase or write is recorded with the other volumes as they were. -/
structure Media.Touches (ids : Nat → Prop) (before after : Media) : Prop where
  others : ∀ volumeId, ¬ ids volumeId → after.volumes volumeId = before.volumes volumeId
  sizes : ∀ volumeId,
    (after.volumes volumeId).map Volume.size = (before.volumes volumeId).map Volume.size
  recorded : ∃ new, after.writes = before.writes ++ new ∧
    ∀ write ∈ new, ids write.volumeId ∧
      ∀ volumeId, ¬ ids volumeId → write.volumes volumeId = before.volumes volumeId

namespace Media.Touches

theorem trans {first second third : Media} (start : Touches ids first second)
    (rest : Touches ids second third) : Touches ids first third where
  others volumeId outside := (rest.others volumeId outside).trans (start.others volumeId outside)
  sizes volumeId := (rest.sizes volumeId).trans (start.sizes volumeId)
  recorded := by
    obtain ⟨early, earlyWrites, earlyInside⟩ := start.recorded
    obtain ⟨late, lateWrites, lateInside⟩ := rest.recorded
    refine ⟨early ++ late, by rw [lateWrites, earlyWrites, List.append_assoc], ?_⟩
    intro write member
    rcases List.mem_append.mp member with inEarly | inLate
    · exact earlyInside write inEarly
    · obtain ⟨inside, same⟩ := lateInside write inLate
      refine ⟨inside, ?_⟩
      intro volumeId outside
      rw [same volumeId outside, start.others volumeId outside]

theorem present {before after : Media} (touches : Touches ids before after) {volumeId : Nat}
    {volume : Volume} (there : before.volumes volumeId = some volume) :
    ∃ later, after.volumes volumeId = some later ∧ later.size = volume.size := by
  have sizes := touches.sizes volumeId
  rw [there] at sizes
  cases found : after.volumes volumeId with
  | none =>
    rw [found] at sizes
    cases sizes
  | some later =>
    rw [found] at sizes
    exact ⟨later, rfl, by simpa using sizes⟩

end Media.Touches

theorem Media.modifyVolume_size (media : Media) (volumeId other : Nat) (change : Volume → Volume)
    (keeps : ∀ volume, (change volume).size = volume.size) :
    ((media.modifyVolume volumeId change).volumes other).map Volume.size =
      (media.volumes other).map Volume.size := by
  by_cases same : other = volumeId
  · rw [same, modifyVolume_self, Option.map_map]
    congr 1
    funext volume
    exact keeps volume
  · rw [modifyVolume_other _ _ _ _ same]

theorem Media.record_touches (media : Media) (call : VolumeCall) :
    Touches (· = call.volumeId) media (media.record call) where
  others _ _ := rfl
  sizes _ := rfl
  recorded := by
    unfold record
    by_cases changes : call.op.changesContents = true
    · refine ⟨[⟨call.volumeId, media.volumes⟩], by simp [changes], ?_⟩
      intro write member
      rw [List.mem_singleton] at member
      rw [member]
      exact ⟨rfl, fun _ _ => rfl⟩
    · exact ⟨[], by simp [changes], by simp⟩

theorem Media.modifyVolume_touches (media : Media) (volumeId : Nat) (change : Volume → Volume)
    (keeps : ∀ volume, (change volume).size = volume.size) :
    Touches (· = volumeId) media (media.modifyVolume volumeId change) where
  others other outside := modifyVolume_other _ _ _ _ outside
  sizes other := modifyVolume_size _ _ _ _ keeps
  recorded := ⟨[], by simp [modifyVolume], by simp⟩

theorem Media.call_touches (media : Media) (fault : VolumeFault) (call : VolumeCall)
    (answer : Volume → α) (change : Volume → Volume)
    (keeps : ∀ volume, (change volume).size = volume.size) :
    Touches (· = call.volumeId) media (media.call fault call answer change).2 := by
  unfold Media.call
  split
  · exact (media.record_touches call).trans
      (Media.modifyVolume_touches _ _ _ fun volume => VolumeFailure.size_apply _ _ _)
  · exact (media.record_touches call).trans (Media.modifyVolume_touches _ _ _ keeps)

section

variable (fault : VolumeFault) (media : Media) (volumeId : Nat)

theorem volumeOpen_touches :
    Media.Touches (· = volumeId) media (volumeOpen fault media volumeId).2 :=
  Media.call_touches media fault ⟨volumeId, .opened⟩ _ _ fun _ => rfl

theorem volumeClose_touches :
    Media.Touches (· = volumeId) media (volumeClose fault media volumeId).2 :=
  Media.call_touches media fault ⟨volumeId, .closed⟩ _ _ fun _ => rfl

theorem volumeWrite_touches (data : Bytes) :
    Media.Touches (· = volumeId) media (volumeWrite fault media volumeId data).2 :=
  Media.call_touches media fault ⟨volumeId, .write⟩ _ _ fun volume => Volume.size_written volume data

theorem volumeErase_touches :
    Media.Touches (· = volumeId) media (volumeErase fault media volumeId).2 :=
  Media.call_touches media fault ⟨volumeId, .erase⟩ _ _ fun volume => Volume.size_erased volume

end

variable {call : VolumeCall} {answer : Volume → α} {change : Volume → Volume} {volume : Volume}

@[simp] theorem Media.calls_call (media : Media) (fault : VolumeFault) (call : VolumeCall)
    (answer : Volume → α) (change : Volume → Volume) :
    (media.call fault call answer change).2.calls = media.calls + 1 := by
  unfold Media.call
  split <;> rfl

theorem Media.call_works (works : fault media.calls call = none)
    (present : media.volumes call.volumeId = some volume) :
    (media.call fault call answer change).1 = .ok (answer volume) ∧
      (media.call fault call answer change).2.volumes call.volumeId = some (change volume) := by
  unfold Media.call
  rw [works]
  refine ⟨?_, ?_⟩
  · simp only [Media.volume_of_volumes present]
  · rw [Media.modifyVolume_self]
    simp only [Media.record, present, Option.map_some]

theorem Media.call_ok {value : α} (ok : (media.call fault call answer change).1 = .ok value)
    (present : media.volumes call.volumeId = some volume) :
    value = answer volume ∧
      (media.call fault call answer change).2.volumes call.volumeId = some (change volume) := by
  cases outcome : fault media.calls call with
  | none =>
    have works := @Media.call_works _ _ _ _ answer change _ outcome present
    rw [works.1] at ok
    cases ok
    exact ⟨rfl, works.2⟩
  | some failure =>
    unfold Media.call at ok
    rw [outcome] at ok
    cases ok

theorem Media.call_error {error : IoError}
    (failed : (media.call fault call answer change).1 = .error error) :
    ∃ failure, fault media.calls call = some failure := by
  cases outcome : fault media.calls call with
  | none =>
    rw [Media.call, outcome] at failed
    cases failed
  | some failure => exact ⟨failure, rfl⟩

theorem Media.call_answers (works : fault media.calls call = none) :
    ∃ value, (media.call fault call answer change).1 = .ok value := by
  rw [Media.call, works]
  exact ⟨_, rfl⟩

theorem Media.call_refuses {failure : VolumeFailure}
    (fails : fault media.calls call = some failure) :
    (media.call fault call answer change).1 = .error failure.error := by
  rw [Media.call, fails]

variable {volumeId : Nat}

theorem volumeOpen_ok (ok : (volumeOpen fault media volumeId).1 = .ok ())
    (present : media.volumes volumeId = some volume) :
    (volumeOpen fault media volumeId).2.volumes volumeId = some volume.rewind :=
  (Media.call_ok ok present).2

theorem volumeErase_ok (ok : (volumeErase fault media volumeId).1 = .ok ())
    (present : media.volumes volumeId = some volume) :
    (volumeErase fault media volumeId).2.volumes volumeId = some volume.erased :=
  (Media.call_ok ok present).2

def Media.contents (media : Media) (volumeId : Nat) : Option Bytes :=
  (media.volumes volumeId).map Volume.contents

theorem Media.Touches.contents_other {before after : Media}
    (touches : Touches ids before after) (outside : ¬ ids volumeId) :
    after.contents volumeId = before.contents volumeId := by
  rw [Media.contents, Media.contents, touches.others volumeId outside]

theorem Media.contents_some {bytes : Bytes} (holds : media.contents volumeId = some bytes) :
    ∃ volume, media.volumes volumeId = some volume ∧ volume.contents = bytes :=
  Option.map_eq_some_iff.mp holds

theorem Media.contents_of_volumes (present : media.volumes volumeId = some volume) :
    media.contents volumeId = some volume.contents := by
  rw [Media.contents, present]
  rfl

/-- A call other than an erase or a write leaves all contents alone, even when it fails. -/
theorem Media.contents_call (media : Media) (fault : VolumeFault) (call : VolumeCall)
    (answer : Volume → α) (change : Volume → Volume) (quiet : call.op.changesContents = false)
    (keeps : ∀ volume, (change volume).contents = volume.contents) (volumeId : Nat) :
    (media.call fault call answer change).2.contents volumeId = media.contents volumeId := by
  have failed : ∀ (failure : VolumeFailure) (volume : Volume),
      (failure.apply call.op volume).contents = volume.contents := by
    intro failure volume
    simp only [VolumeFailure.apply, quiet, Bool.false_eq_true, ↓reduceIte]
  have modified : ∀ change : Volume → Volume,
      (∀ volume, (change volume).contents = volume.contents) →
      ((media.record call).modifyVolume call.volumeId change).contents volumeId =
        media.contents volumeId := by
    intro change keeps
    by_cases same : volumeId = call.volumeId
    · rw [same, Media.contents, Media.modifyVolume_self, Option.map_map]
      congr 1
      funext volume
      exact keeps volume
    · rw [Media.contents, Media.modifyVolume_other _ _ _ _ same]
      rfl
  unfold Media.call
  split
  · exact modified _ (failed _)
  · exact modified _ keeps

section

variable (fault : VolumeFault) (media : Media)

theorem volumeOpen_contents (volumeId other : Nat) :
    (volumeOpen fault media volumeId).2.contents other = media.contents other := by
  apply Media.contents_call
  · rfl
  · exact fun _ => rfl

theorem volumeClose_contents (volumeId other : Nat) :
    (volumeClose fault media volumeId).2.contents other = media.contents other := by
  apply Media.contents_call
  · rfl
  · exact fun _ => rfl

theorem volumeRead_contents (volumeId length other : Nat) :
    (volumeRead fault media volumeId length).2.contents other = media.contents other := by
  apply Media.contents_call
  · rfl
  · exact fun _ => rfl

end

end Volumes
