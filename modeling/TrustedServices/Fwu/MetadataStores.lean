import TrustedServices.Fwu.MetadataManager

/- What storing and loading a metadata copy does to the two volumes. -/
namespace Fwu

open Lib Volumes

variable {crc32 : Bytes → BitVec 32} {env : Env} {media : Media} {volumeId : Nat}
  {contents data : Bytes}

def storedContents (size : Nat) (data : Bytes) : Bytes :=
  data.take size ++ List.replicate (size - data.length) Volume.erasedDataVal

theorem storedContents_take (size len : Nat) (data : Bytes) (whole : data.length = len)
    (fits : len ≤ size) : (storedContents size data).take len = data := by
  have kept : data.take size = data := List.take_of_length_le (by omega)
  rw [storedContents, kept, ← whole]
  exact List.take_left

@[simp] theorem length_storedContents (size : Nat) (data : Bytes) :
    (storedContents size data).length = size := by
  simp only [storedContents, List.length_append, List.length_take, List.length_replicate]
  omega

theorem contents_written_erased (volume : Volume) (data : Bytes) (start : volume.filePos = 0) :
    (volume.erased.written data).contents = storedContents volume.size data := by
  have position : volume.erased.filePos = 0 := start
  have room : volume.erased.room data.length = min data.length volume.size := by
    rw [Volume.room, Volume.size_erased, position, Nat.sub_zero]
  have holds : volume.erased.contents = List.replicate volume.size Volume.erasedDataVal := rfl
  simp only [Volume.written, room, position, holds, storedContents, List.take_zero,
    List.nil_append, Nat.zero_add, List.drop_replicate]
  by_cases fits : data.length ≤ volume.size
  · rw [Nat.min_eq_left fits, List.take_of_length_le (Nat.le_refl _), List.take_of_length_le fits]
  · rw [Nat.min_eq_right (by omega)]
    congr 2
    omega

theorem loadAndCheckMetadata_contents (media : Media) (volumeId : Nat) (buf : Bytes)
    (expectedLen other : Nat) :
    (loadAndCheckMetadata crc32 env media volumeId buf expectedLen).2.2.contents other =
      media.contents other := by
  unfold loadAndCheckMetadata
  dsimp only
  split
  · exact volumeOpen_contents _ _ _ _
  · split
    all_goals
      rw [volumeClose_contents, volumeRead_contents, volumeOpen_contents]

theorem storeMetadata_touches (media : Media) (volumeId : Nat) (data : Bytes) :
    Media.Touches (· = volumeId) media (storeMetadata env media volumeId data).2 := by
  unfold storeMetadata
  dsimp only
  split
  · exact volumeOpen_touches _ _ _
  · split
    · exact ((volumeOpen_touches _ _ _).trans (volumeErase_touches _ _ _)).trans
        (volumeClose_touches _ _ _)
    · exact (((volumeOpen_touches _ _ _).trans (volumeErase_touches _ _ _)).trans
        (volumeWrite_touches _ _ _ _)).trans (volumeClose_touches _ _ _)

theorem storeMetadata_success (holds : media.contents volumeId = some contents)
    (success : (storeMetadata env media volumeId data).1 = .success) :
    (storeMetadata env media volumeId data).2.contents volumeId =
      some (storedContents contents.length data) := by
  obtain ⟨volume, present, bytes⟩ := Media.contents_some holds
  unfold storeMetadata at success ⊢
  dsimp only at success ⊢
  split at success
  · cases success
  · rename_i opened
    have presentOpened := volumeOpen_ok opened present
    split at success
    · cases success
    · rename_i erased
      have presentErased := volumeErase_ok erased presentOpened
      cases written : (volumeWrite env.fault
          (volumeErase env.fault (volumeOpen env.fault media volumeId).2 volumeId).2
          volumeId data).1 with
      | error error =>
        rw [written] at success
        cases success
      | ok count =>
        have presentWritten := (Media.call_ok written presentErased).2
        rw [volumeClose_contents]
        refine (Media.contents_of_volumes presentWritten).trans ?_
        rw [contents_written_erased _ _ rfl, ← bytes]
        rfl

variable {len : Nat}

/-- A load either fails in a volume call, or brings the copy in and checks its CRC. -/
theorem loadAndCheckMetadata_cases {buf : Bytes}
    (holds : media.contents volumeId = some contents) (room : len ≤ contents.length)
    (fits : len ≤ buf.length) :
    (∃ error, (loadAndCheckMetadata crc32 env media volumeId buf len).1 = .ioError error ∧
      ∃ number call failure, env.fault number call = some failure) ∨
    ((loadAndCheckMetadata crc32 env media volumeId buf len).1 =
        (if crcMatches crc32 (contents.take len) then .success else .unknown) ∧
      (loadAndCheckMetadata crc32 env media volumeId buf len).2.1.take len =
        contents.take len) := by
  obtain ⟨volume, present, bytes⟩ := Media.contents_some holds
  unfold loadAndCheckMetadata
  dsimp only
  split
  · rename_i error opened
    exact .inl ⟨error, rfl, _, _, Media.call_error opened⟩
  · rename_i opened
    have presentOpened := volumeOpen_ok opened present
    split
    · rename_i error got
      exact .inl ⟨error, rfl, _, _, Media.call_error got⟩
    · rename_i data got
      have read : data = contents.take len := by
        rw [(Media.call_ok got presentOpened).1, ← bytes]
        rfl
      have loaded : (overwriteFront buf data).take len = contents.take len := by
        have size : data.length = len := by
          rw [read, List.length_take]
          omega
        have kept : data.take buf.length = data := List.take_of_length_le (by omega)
        rw [overwriteFront, kept, ← read, ← size]
        exact List.take_left
      rw [loaded]
      exact .inr ⟨rfl, rfl⟩

def Env.Reliable (env : Env) : Prop := ∀ number call, env.fault number call = none

theorem loadAndCheckMetadata_reliable {buf : Bytes} (reliable : env.Reliable)
    (holds : media.contents volumeId = some contents) (room : len ≤ contents.length)
    (fits : len ≤ buf.length) :
    (loadAndCheckMetadata crc32 env media volumeId buf len).1 =
        (if crcMatches crc32 (contents.take len) then .success else .unknown) ∧
      (loadAndCheckMetadata crc32 env media volumeId buf len).2.1.take len = contents.take len := by
  rcases loadAndCheckMetadata_cases holds room fits with
    ⟨_, _, number, call, failure, fails⟩ | loaded
  · rw [reliable number call] at fails
    cases fails
  · exact loaded

theorem storeMetadata_reliable (reliable : env.Reliable) (media : Media) (volumeId : Nat)
    (data : Bytes) : (storeMetadata env media volumeId data).1 = .success := by
  have answers : ∀ {α : Type} {media : Media} {call : VolumeCall} {answer : Volume → α}
      {change : Volume → Volume} {error : IoError},
      (media.call env.fault call answer change).1 ≠ .error error := by
    intro α media call answer change error failed
    obtain ⟨failure, fails⟩ := Media.call_error failed
    rw [reliable] at fails
    cases fails
  unfold storeMetadata
  dsimp only
  split
  · rename_i error opened
    exact absurd opened answers
  · split
    · rename_i error erased
      exact absurd erased answers
    · cases written : (volumeWrite env.fault
          (volumeErase env.fault (volumeOpen env.fault media volumeId).2 volumeId).2
          volumeId data).1 with
      | error error => exact absurd written answers
      | ok count => rfl

variable {serializer : MetadataSerializer} {subject : MetadataManager serializer}
  {activeIndex previousActiveIndex : Nat} {fwDir : FwDirectory} {bankTracker : BankTracker}

theorem crcField_take {metadata : Bytes} (room : 4 ≤ len) :
    crcField (metadata.take len) = crcField metadata := by
  rw [crcField, List.take_take, Nat.min_eq_left room]
  rfl

section

variable (buf data : Bytes) (fits : data.length ≤ buf.length)

include fits

theorem take_overwriteFront : (overwriteFront buf data).take data.length = data := by
  rw [overwriteFront, List.take_of_length_le fits]
  exact List.take_left

theorem drop_overwriteFront :
    (overwriteFront buf data).drop data.length = buf.drop data.length := by
  rw [overwriteFront, List.take_of_length_le fits]
  exact List.drop_left

end

theorem serialized_metadataLen :
    (subject.serialized crc32 env activeIndex previousActiveIndex fwDir bankTracker).metadataLen =
      serializer.size fwDir :=
  (serializer.fills _ _ _ _ _ _ (Nat.le_of_eq subject.cacheSize.symm)).2

theorem length_serialized_metadata :
    (subject.serialized crc32 env activeIndex previousActiveIndex fwDir
      bankTracker).metadata.length = serializer.size fwDir := by
  have bound := serializer.sizeBound fwDir
  rw [MetadataManager.metadata, List.length_take, serialized_metadataLen, MetadataManager.cacheSize]
  omega

theorem crcMatches_serialized :
    crcMatches crc32 (subject.serialized crc32 env activeIndex previousActiveIndex fwDir
      bankTracker).metadata = true := by
  have header := serializer.holdsCrc fwDir
  have bound := serializer.sizeBound fwDir
  have filled := serializer.fills env.storageIds activeIndex previousActiveIndex fwDir bankTracker
    subject.metadataCache (Nat.le_of_eq subject.cacheSize.symm)
  obtain ⟨buf, bufDef⟩ : ∃ buf, buf = (serializer.serialize env.storageIds activeIndex
    previousActiveIndex fwDir bankTracker subject.metadataCache).1 := ⟨_, rfl⟩
  have size : buf.length = serializer.maxSize := by
    rw [bufDef, filled.1, subject.cacheSize]
  have cache : (subject.serialized crc32 env activeIndex previousActiveIndex fwDir
      bankTracker).metadata = (overwriteFront buf
        (leBytes 4 (crc32 ((buf.take (serializer.size fwDir)).drop 4)).toNat)).take
          (serializer.size fwDir) := by
    rw [MetadataManager.metadata, serialized_metadataLen]
    simp only [MetadataManager.serialized, serializedCache, filled.2, bufDef]
  have four : (leBytes 4 (crc32 ((buf.take (serializer.size fwDir)).drop 4)).toNat).length = 4 :=
    length_leBytes _ _
  have front := take_overwriteFront buf
    (leBytes 4 (crc32 ((buf.take (serializer.size fwDir)).drop 4)).toNat) (by omega)
  have back := drop_overwriteFront buf
    (leBytes 4 (crc32 ((buf.take (serializer.size fwDir)).drop 4)).toNat) (by omega)
  rw [four] at front back
  have field : crcField (overwriteFront buf
      (leBytes 4 (crc32 ((buf.take (serializer.size fwDir)).drop 4)).toNat)) =
        crc32 ((buf.take (serializer.size fwDir)).drop 4) := by
    rw [crcField, front]
    exact leNat_leBytes_bitVec 4 _
  rw [cache, crcMatches, crcField_take header, field, List.drop_take, back, List.drop_take]
  exact beq_self_eq_true _

def copyOf (media : Media) (len volumeId : Nat) : Bytes :=
  ((media.contents volumeId).getD []).take len

theorem copyOf_of_contents (holds : media.contents volumeId = some contents) :
    copyOf media len volumeId = contents.take len := by
  rw [copyOf, holds]
  rfl

end Fwu
