import TrustedServices.Fwu.MetadataSerializer
import TrustedServices.Fwu.MetadataStores

/- An update of the two metadata copies may lose power anywhere. -/
namespace Fwu

open Lib Volumes

variable {serializer : MetadataSerializer} {crc32 : Bytes → BitVec 32} {env : Env}
  {media : Media} {fwDir : FwDirectory} {primary backup : Bytes}

/-- A manager before its first load. -/
structure MetadataManager.Fresh (subject : MetadataManager serializer) : Prop where
  invalid : subject.isValid = false
  primaryVolume : subject.primaryMetadataVolume = some bankedVolumeIdPrimaryMetadata
  backupVolume : subject.backupMetadataVolume = some bankedVolumeIdBackupMetadata

variable {volumeId : Nat} {contents : Bytes}

theorem volumeIndexFind_of_contents
    (holds : media.contents volumeId = some contents) :
    volumeIndexFind media volumeId = some volumeId := by
  obtain ⟨volume, present, _⟩ := Media.contents_some holds
  rw [volumeIndexFind, present]
  rfl

/-- What the two volumes hold, each with room for `len` bytes. -/
structure Copies (media : Media) (len : Nat) (primary backup : Bytes) : Prop where
  primaryHolds : media.contents bankedVolumeIdPrimaryMetadata = some primary
  backupHolds : media.contents bankedVolumeIdBackupMetadata = some backup
  primaryRoom : len ≤ primary.length
  backupRoom : len ≤ backup.length

variable {len : Nat}

theorem Copies.of_contents {after : Media} (copies : Copies media len primary backup)
    (same : ∀ volumeId, after.contents volumeId = media.contents volumeId) :
    Copies after len primary backup where
  primaryHolds := (same _).trans copies.primaryHolds
  backupHolds := (same _).trans copies.backupHolds
  primaryRoom := copies.primaryRoom
  backupRoom := copies.backupRoom

theorem metadataManagerInit_fresh (copies : Copies media len primary backup) :
    (metadataManagerInit serializer env media).Fresh where
  invalid := rfl
  primaryVolume := volumeIndexFind_of_contents copies.primaryHolds
  backupVolume := volumeIndexFind_of_contents copies.backupHolds

theorem MetadataManager.load_reliable {subject : MetadataManager serializer}
    (reliable : env.Reliable) (holds : media.contents volumeId = some contents)
    (room : subject.metadataLen ≤ contents.length)
    (fits : subject.metadataLen ≤ serializer.maxSize) :
    (subject.load crc32 env media volumeId).1 =
        (if crcMatches crc32 (contents.take subject.metadataLen) then .success else .unknown) ∧
      (subject.load crc32 env media volumeId).2.1.isValid =
        crcMatches crc32 (contents.take subject.metadataLen) ∧
      (subject.load crc32 env media volumeId).2.1.metadata = contents.take subject.metadataLen := by
  have size : subject.metadataLen ≤ subject.metadataCache.length := by
    rw [subject.cacheSize]
    exact fits
  have loaded := @loadAndCheckMetadata_reliable crc32 _ _ _ _ _ _ reliable holds room size
  refine ⟨loaded.1, ?_, loaded.2⟩
  show ((loadAndCheckMetadata crc32 env media volumeId subject.metadataCache
    subject.metadataLen).1 == .success) = _
  rw [loaded.1]
  cases crcMatches crc32 (contents.take subject.metadataLen) <;> rfl

/-- A manager with valid metadata in its cache, and its two volumes. -/
structure MetadataManager.Holds (subject : MetadataManager serializer) (metadata : Bytes)
    (len : Nat) : Prop where
  valid : subject.isValid = true
  length : subject.metadataLen = len
  cached : subject.metadata = metadata
  primaryVolume : subject.primaryMetadataVolume = some bankedVolumeIdPrimaryMetadata
  backupVolume : subject.backupMetadataVolume = some bankedVolumeIdBackupMetadata

theorem MetadataManager.Holds.crcField_cache {subject : MetadataManager serializer}
    {metadata : Bytes} (holds : subject.Holds metadata len) (room : 4 ≤ len) :
    crcField subject.metadataCache = crcField metadata := by
  rw [← holds.cached, MetadataManager.metadata, holds.length, crcField_take room]

theorem repairCopy_copyOf (reliable : env.Reliable) {contents metadata : Bytes} {status : FwuStatus}
    (holds : media.contents volumeId = some contents) (room : len ≤ contents.length)
    (size : metadata.length = len) (good : status = .success → contents.take len = metadata) :
    copyOf (repairCopy env media status (some volumeId) metadata) len volumeId = metadata := by
  unfold repairCopy
  split
  case isTrue success => rw [copyOf_of_contents holds, good success]
  case isFalse =>
    have stored := storeMetadata_success holds
      (storeMetadata_reliable reliable media volumeId metadata)
    exact (copyOf_of_contents stored).trans (storedContents_take _ _ _ size room)

theorem repairCopy_other (status : FwuStatus) (volumeId other : Nat) (metadata : Bytes)
    (apart : other ≠ volumeId) :
    (repairCopy env media status (some volumeId) metadata).contents other =
      media.contents other := by
  unfold repairCopy
  split
  · rfl
  · exact (storeMetadata_touches media volumeId metadata).contents_other apart

theorem metadataVolumes_apart : bankedVolumeIdBackupMetadata ≠ bankedVolumeIdPrimaryMetadata := by
  decide

theorem MetadataManager.load_contents (subject : MetadataManager serializer) (media : Media)
    (volumeId other : Nat) :
    (subject.load crc32 env media volumeId).2.2.contents other = media.contents other :=
  loadAndCheckMetadata_contents _ _ _ _ _

/-- Comparing the backup with a valid cache changes neither the cache nor the volumes, and
passes only a copy with the same CRC. -/
theorem checkBackup_valid {subject : MetadataManager serializer} {metadata : Bytes}
    (reliable : env.Reliable) (holds : subject.Holds metadata len) (header : 4 ≤ len)
    (backupHolds : media.contents bankedVolumeIdBackupMetadata = some backup)
    (room : len ≤ backup.length) :
    (checkBackup crc32 env subject media).2.1 = subject ∧
      (∀ other, (checkBackup crc32 env subject media).2.2.contents other = media.contents other) ∧
      ((checkBackup crc32 env subject media).1 = .success →
        crcMatches crc32 (backup.take len) = true ∧ crcField backup = crcField metadata) := by
  unfold checkBackup
  rw [holds.backupVolume]
  dsimp only
  rw [if_pos holds.valid]
  split
  · have size : subject.metadataLen ≤ ((List.range subject.metadataLen).map env.heap).length := by
      simp
    rw [holds.length] at size ⊢
    have loaded := @loadAndCheckMetadata_reliable crc32 _ _ _ _ _ _ reliable backupHolds room size
    refine ⟨rfl, fun other => loadAndCheckMetadata_contents _ _ _ _ _, ?_⟩
    rw [loaded.1, holds.crcField_cache header]
    cases passes : crcMatches crc32 (backup.take len) with
    | false =>
      intro success
      simp at success
    | true =>
      intro success
      refine ⟨rfl, ?_⟩
      by_contra different
      rw [← crcField_take header, ← loaded.2, crcField_take header] at different
      simp [different] at success
  · exact ⟨rfl, fun _ => rfl, fun impossible => nomatch impossible⟩

variable {cut : Nat} {torn : VolumeFailure}

/-- A failure without effect. -/
def noEffect : VolumeFailure where
  error := .io
  leaves := id
  keepsSize _ := rfl

/-- Power is lost during call number `cut`, which leaves whatever `torn` says; no later call
does anything. -/
def powerCut (cut : Nat) (torn : VolumeFailure) : VolumeFault := fun number _ =>
  if number < cut then none else if number = cut then some torn else some noEffect

theorem powerCut_before {number : Nat} (call : VolumeCall) (before : number < cut) :
    powerCut cut torn number call = none := by
  rw [powerCut, if_pos before]

theorem powerCut_after {number : Nat} (call : VolumeCall) (after : cut ≤ number) :
    ∃ failure, powerCut cut torn number call = some failure := by
  unfold powerCut
  rw [if_neg (by omega)]
  split
  · exact ⟨_, rfl⟩
  · exact ⟨_, rfl⟩

/-- How far the store of one copy gets before the power is lost. -/
inductive CutStore (cut : Nat) (media after : Media) (volumeId : Nat) (contents data : Bytes) :
    Prop
  | untouched (early : cut ≤ media.calls) (same : after.contents volumeId = some contents)
      (passed : cut ≤ after.calls) : CutStore cut media after volumeId contents data
  | interrupted (begun : media.calls < cut) (unfinished : cut < media.calls + 3)
      (passed : cut ≤ after.calls) : CutStore cut media after volumeId contents data
  | complete (finished : media.calls + 3 ≤ cut)
      (stored : after.contents volumeId = some (storedContents contents.length data))
      (calls : after.calls = media.calls + 4) : CutStore cut media after volumeId contents data

theorem storeMetadata_calls (data : Bytes)
    (opened : (volumeOpen env.fault media volumeId).1 = .ok ()) :
    media.calls + 3 ≤ (storeMetadata env media volumeId data).2.calls ∧
      ((storeMetadata env media volumeId data).1 = .success →
        (storeMetadata env media volumeId data).2.calls = media.calls + 4) := by
  unfold storeMetadata
  dsimp only
  rw [opened]
  dsimp only
  split
  · refine ⟨?_, fun impossible => nomatch impossible⟩
    simp only [volumeClose, volumeErase, volumeOpen, Media.calls_call]
    omega
  · constructor
    · simp only [volumeClose, volumeWrite, volumeErase, volumeOpen, Media.calls_call]
      omega
    · intro _
      simp only [volumeClose, volumeWrite, volumeErase, volumeOpen, Media.calls_call]

theorem storeMetadata_works (data : Bytes)
    (works : ∀ number < media.calls + 3, ∀ call, env.fault number call = none) :
    (volumeOpen env.fault media volumeId).1 = .ok () ∧
      (storeMetadata env media volumeId data).1 = .success := by
  have openCalls : (volumeOpen env.fault media volumeId).2.calls = media.calls + 1 :=
    Media.calls_call _ _ _ _ _
  have eraseCalls :
      (volumeErase env.fault (volumeOpen env.fault media volumeId).2 volumeId).2.calls =
        media.calls + 2 := by
    rw [volumeErase, Media.calls_call, openCalls]
  obtain ⟨_, opened⟩ : ∃ value, (volumeOpen env.fault media volumeId).1 = .ok value :=
    Media.call_answers (works _ (by omega) _)
  obtain ⟨_, erased⟩ : ∃ value,
      (volumeErase env.fault (volumeOpen env.fault media volumeId).2 volumeId).1 = .ok value :=
    Media.call_answers (works _ (by omega) _)
  obtain ⟨_, written⟩ : ∃ value, (volumeWrite env.fault
      (volumeErase env.fault (volumeOpen env.fault media volumeId).2 volumeId).2 volumeId
      data).1 = .ok value :=
    Media.call_answers (works _ (by omega) _)
  refine ⟨opened, ?_⟩
  unfold storeMetadata
  dsimp only
  rw [opened]
  rw [erased]
  rw [written]
  rfl

theorem storeMetadata_cut (loses : env.fault = powerCut cut torn)
    (data : Bytes) (holds : media.contents volumeId = some contents) :
    CutStore cut media (storeMetadata env media volumeId data).2 volumeId contents data := by
  have calls : (volumeOpen env.fault media volumeId).2.calls = media.calls + 1 :=
    Media.calls_call _ _ _ _ _
  by_cases early : cut ≤ media.calls
  · obtain ⟨failure, fails⟩ := @powerCut_after cut torn _ ⟨volumeId, .opened⟩ early
    have opened : (volumeOpen env.fault media volumeId).1 = .error failure.error := by
      apply Media.call_refuses
      rw [loses]
      exact fails
    have stopped : (storeMetadata env media volumeId data).2 =
        (volumeOpen env.fault media volumeId).2 := by
      rw [storeMetadata]
      rw [opened]
    rw [stopped]
    exact .untouched early ((volumeOpen_contents _ _ _ _).trans holds) (by omega)
  · by_cases late : media.calls + 3 ≤ cut
    · have works := @storeMetadata_works env media volumeId data (by
        intro number before call
        rw [loses]
        exact powerCut_before call (by omega))
      exact .complete late (storeMetadata_success holds works.2)
        ((storeMetadata_calls data works.1).2 works.2)
    · obtain ⟨_, opened⟩ : ∃ value, (volumeOpen env.fault media volumeId).1 = .ok value := by
        apply Media.call_answers
        rw [loses]
        exact powerCut_before _ (by omega)
      have enough := (storeMetadata_calls data opened).1
      exact .interrupted (by omega) (by omega) (by omega)

/-- The two copies, first as they were and then as a power failure left them. -/
inductive CrashedCopies (calls cut : Nat) (new primary backup : Bytes) : Bytes → Bytes → Prop
  | before (early : cut ≤ calls) : CrashedCopies calls cut new primary backup primary backup
  | primaryInterrupted (begun : calls < cut) (unfinished : cut < calls + 3) (torn : Bytes) :
      CrashedCopies calls cut new primary backup torn backup
  | between (written : calls + 3 ≤ cut) :
      CrashedCopies calls cut new primary backup (storedContents primary.length new) backup
  | backupInterrupted (begun : calls + 4 < cut) (unfinished : cut < calls + 7) (torn : Bytes) :
      CrashedCopies calls cut new primary backup (storedContents primary.length new) torn
  | done (written : calls + 7 ≤ cut) :
      CrashedCopies calls cut new primary backup (storedContents primary.length new)
        (storedContents backup.length new)

/-- Storing the two copies one after the other under a power failure. -/
theorem storeBoth_cut (loses : env.fault = powerCut cut torn) {new : Bytes}
    (copies : Copies media len primary backup) :
    let first := (storeMetadata env media bankedVolumeIdPrimaryMetadata new).2
    let second := (storeMetadata env first bankedVolumeIdBackupMetadata new).2
    ∃ primaryAfter backupAfter, Copies second len primaryAfter backupAfter ∧
      CrashedCopies media.calls cut new primary backup primaryAfter backupAfter := by
  intro first second
  obtain ⟨primaryHolds, backupHolds, primaryRoom, backupRoom⟩ := copies
  have firstTouches : Media.Touches _ media first := storeMetadata_touches _ _ _
  have secondTouches : Media.Touches _ first second := storeMetadata_touches _ _ _
  have length : ∀ {ids : Nat → Prop} {before after : Media} {volumeId : Nat} {bytes : Bytes},
      Media.Touches ids before after → before.contents volumeId = some bytes →
      len ≤ bytes.length → ∃ later, after.contents volumeId = some later ∧ len ≤ later.length := by
    intro ids before after volumeId bytes touches holds room
    obtain ⟨volume, present, rfl⟩ := Media.contents_some holds
    obtain ⟨later, found, size⟩ := touches.present present
    exact ⟨later.contents, Media.contents_of_volumes found, Nat.le_trans room (Nat.le_of_eq size.symm)⟩
  have backupFirst : first.contents bankedVolumeIdBackupMetadata = some backup :=
    (firstTouches.contents_other metadataVolumes_apart).trans backupHolds
  have primaryKept : second.contents bankedVolumeIdPrimaryMetadata =
      first.contents bankedVolumeIdPrimaryMetadata :=
    secondTouches.contents_other metadataVolumes_apart.symm
  have storedRoom (size : Nat) (room : len ≤ size) : len ≤ (storedContents size new).length := by
    rwa [length_storedContents]
  have primaryStore : CutStore cut media first bankedVolumeIdPrimaryMetadata primary new :=
    storeMetadata_cut loses new primaryHolds
  have backupStore : CutStore cut first second bankedVolumeIdBackupMetadata backup new :=
    storeMetadata_cut loses new backupFirst
  cases primaryStore with
  | untouched early same passed =>
    cases backupStore with
    | untouched _ backupSame _ =>
      exact ⟨_, _, ⟨primaryKept.trans same, backupSame, primaryRoom, backupRoom⟩, .before early⟩
    | interrupted begun _ _ => omega
    | complete finished _ _ => omega
  | interrupted begun unfinished passed =>
    obtain ⟨torn, tornHolds, tornRoom⟩ := length firstTouches primaryHolds primaryRoom
    cases backupStore with
    | untouched _ backupSame _ =>
      exact ⟨_, _, ⟨primaryKept.trans tornHolds, backupSame, tornRoom, backupRoom⟩,
        .primaryInterrupted begun unfinished torn⟩
    | interrupted late _ _ => omega
    | complete finished _ _ => omega
  | complete finished stored calls =>
    have primaryLater := primaryKept.trans stored
    cases backupStore with
    | untouched _ backupSame _ =>
      exact ⟨_, _, ⟨primaryLater, backupSame, storedRoom _ primaryRoom, backupRoom⟩,
        .between finished⟩
    | interrupted begun unfinished _ =>
      obtain ⟨torn, tornHolds, tornRoom⟩ := length secondTouches backupFirst backupRoom
      exact ⟨_, _, ⟨primaryLater, tornHolds, storedRoom _ primaryRoom, tornRoom⟩,
        .backupInterrupted (by omega) (by omega) torn⟩
    | complete both backupStored _ =>
      exact ⟨_, _, ⟨primaryLater, backupStored, storedRoom _ primaryRoom,
        storedRoom _ backupRoom⟩, .done (by omega)⟩

/-- A manager whose view of what is stored is right: both volumes hold `old`, with a good CRC
that the manager knows. -/
structure MetadataManager.Synced (crc32 : Bytes → BitVec 32) (subject : MetadataManager serializer)
    (media : Media) (old : Bytes) : Prop where
  valid : subject.isValid = true
  primaryVolume : subject.primaryMetadataVolume = some bankedVolumeIdPrimaryMetadata
  backupVolume : subject.backupMetadataVolume = some bankedVolumeIdBackupMetadata
  storedCrc : subject.storedCrc = crcField old
  passes : crcMatches crc32 old = true
  primary : ∃ contents, media.contents bankedVolumeIdPrimaryMetadata = some contents ∧
    old.length ≤ contents.length ∧ contents.take old.length = old
  backup : ∃ contents, media.contents bankedVolumeIdBackupMetadata = some contents ∧
    old.length ≤ contents.length ∧ contents.take old.length = old

/-- The outcome of a check and repair that agrees on `metadata`: they are in the cache and in
both volumes, and the manager knows their CRC. -/
structure Agreed (crc32 : Bytes → BitVec 32) (len : Nat)
    (result : FwuStatus × MetadataManager serializer × Media) (metadata : Bytes) : Prop where
  success : result.1 = .success
  cached : result.2.1.metadata = metadata
  primary : copyOf result.2.2 len bankedVolumeIdPrimaryMetadata = metadata
  backup : copyOf result.2.2 len bankedVolumeIdBackupMetadata = metadata
  storedCrc : result.2.1.storedCrc = crc32 (metadata.drop 4)

def interruptedCopy (calls cut : Nat) : Option Nat :=
  if calls < cut ∧ cut < calls + 3 then some bankedVolumeIdPrimaryMetadata
  else if calls + 4 < cut ∧ cut < calls + 7 then some bankedVolumeIdBackupMetadata
  else none

theorem crcField_of_matches {metadata : Bytes} (passes : crcMatches crc32 metadata = true) :
    crcField metadata = crc32 (metadata.drop 4) := by
  rw [crcMatches, beq_iff_eq] at passes
  exact passes.symm

section

variable {subject : MetadataManager serializer} {metadata : Bytes} (reliable : env.Reliable)
  (fresh : subject.Fresh) (sized : serializer.size fwDir = len)

include reliable fresh sized

/-- Once the checks leave valid metadata in the cache, the copies that did not pass are
repaired. -/
theorem agreed_of_checks {first second : FwuStatus} {loaded checked : MetadataManager serializer}
    {loadedMedia checkedMedia : Media}
    (primaryCheck : checkPrimary crc32 env (subject.sized len) media = (first, loaded, loadedMedia))
    (backupCheck : checkBackup crc32 env loaded loadedMedia = (second, checked, checkedMedia))
    (valid : checked.Holds metadata len) (copies : Copies checkedMedia len primary backup)
    (size : metadata.length = len) (passes : crcMatches crc32 metadata = true)
    (primaryGood : first = .success → primary.take len = metadata)
    (backupGood : second = .success → backup.take len = metadata) :
    Agreed crc32 len (metadataManagerCheckAndRepair crc32 env subject media fwDir) metadata := by
  have repaired : metadataManagerCheckAndRepair crc32 env subject media fwDir =
      (.success, { checked with storedCrc := crcField checked.metadataCache },
        repairCopy env
          (repairCopy env checkedMedia first (some bankedVolumeIdPrimaryMetadata) metadata)
          second (some bankedVolumeIdBackupMetadata) metadata) := by
    unfold metadataManagerCheckAndRepair
    rw [if_neg (by simp [fresh.invalid]), if_neg (by simp [fresh.primaryVolume]), sized]
    dsimp only
    rw [primaryCheck]
    rw [backupCheck]
    rw [if_pos valid.valid, valid.primaryVolume, valid.backupVolume, valid.cached]
  rw [repaired]
  refine ⟨rfl, valid.cached, ?_, ?_, ?_⟩
  · unfold copyOf
    rw [repairCopy_other _ _ _ _ metadataVolumes_apart.symm]
    exact repairCopy_copyOf reliable copies.primaryHolds copies.primaryRoom size primaryGood
  · refine repairCopy_copyOf reliable ?_ copies.backupRoom size backupGood
    rw [repairCopy_other _ _ _ _ metadataVolumes_apart]
    exact copies.backupHolds
  · have header : 4 ≤ len := sized ▸ serializer.holdsCrc fwDir
    exact (valid.crcField_cache header).trans (crcField_of_matches passes)

theorem checkPrimary_fresh (copies : Copies media len primary backup) :
    ∃ loaded loadedMedia,
      checkPrimary crc32 env (subject.sized len) media =
        (if crcMatches crc32 (primary.take len) then .success else .unknown, loaded, loadedMedia) ∧
      loaded.isValid = crcMatches crc32 (primary.take len) ∧ loaded.metadataLen = len ∧
      loaded.metadata = primary.take len ∧
      loaded.primaryMetadataVolume = some bankedVolumeIdPrimaryMetadata ∧
      loaded.backupMetadataVolume = some bankedVolumeIdBackupMetadata ∧
      Copies loadedMedia len primary backup := by
  have load := @MetadataManager.load_reliable _ crc32 _ _ _ _ (subject.sized len) reliable
    copies.primaryHolds copies.primaryRoom (sized ▸ serializer.sizeBound fwDir)
  have volume : (subject.sized len).primaryMetadataVolume = some bankedVolumeIdPrimaryMetadata :=
    fresh.primaryVolume
  refine ⟨_, ((subject.sized len).load crc32 env media bankedVolumeIdPrimaryMetadata).2.2, ?_,
    load.2.1, rfl, load.2.2, fresh.primaryVolume, fresh.backupVolume,
    copies.of_contents (MetadataManager.load_contents _ _ _)⟩
  unfold checkPrimary
  rw [volume]
  exact Prod.ext load.1 rfl

variable (copies : Copies media len primary backup) (passes : crcMatches crc32 metadata = true)

include copies passes

/-- A good primary copy is what the boot agrees on, unless the backup holds other metadata
with the same CRC. -/
theorem agreed_of_primary (copy : primary.take len = metadata)
    (same : crcMatches crc32 (backup.take len) = true → crcField backup = crcField metadata →
      backup.take len = metadata) :
    Agreed crc32 len (metadataManagerCheckAndRepair crc32 env subject media fwDir) metadata := by
  have header : 4 ≤ len := sized ▸ serializer.holdsCrc fwDir
  obtain ⟨loaded, loadedMedia, primaryCheck, valid, length, cached, primaryVolume, backupVolume,
    loadedCopies⟩ := @checkPrimary_fresh _ crc32 _ _ _ _ _ _ _ reliable fresh sized copies
  rw [copy] at valid cached
  have holds : loaded.Holds metadata len :=
    ⟨valid.trans passes, length, cached, primaryVolume, backupVolume⟩
  obtain ⟨kept, checkedContents, sameCrc⟩ := @checkBackup_valid _ crc32 _ _ _ _ _ _ reliable holds
    header loadedCopies.backupHolds copies.backupRoom
  have backupCheck : checkBackup crc32 env loaded loadedMedia =
      ((checkBackup crc32 env loaded loadedMedia).1, loaded,
        (checkBackup crc32 env loaded loadedMedia).2.2) := Prod.ext rfl (Prod.ext kept rfl)
  exact agreed_of_checks reliable fresh sized primaryCheck backupCheck holds
    (loadedCopies.of_contents checkedContents) (copy ▸ List.length_take_of_le copies.primaryRoom)
    passes (fun _ => copy) fun good => same (sameCrc good).1 (sameCrc good).2

/-- With a corrupt primary the backup is what the boot agrees on. -/
theorem agreed_of_backup (corrupt : crcMatches crc32 (primary.take len) = false)
    (copy : backup.take len = metadata) :
    Agreed crc32 len (metadataManagerCheckAndRepair crc32 env subject media fwDir) metadata := by
  obtain ⟨loaded, loadedMedia, primaryCheck, valid, length, _, primaryVolume, backupVolume,
    loadedCopies⟩ := @checkPrimary_fresh _ crc32 _ _ _ _ _ _ _ reliable fresh sized copies
  rw [corrupt] at valid
  rw [if_neg (by simp [corrupt])] at primaryCheck
  have load := @MetadataManager.load_reliable _ crc32 _ _ _ _ loaded reliable
    loadedCopies.backupHolds (length ▸ copies.backupRoom)
    (length ▸ sized ▸ serializer.sizeBound fwDir)
  rw [length, copy, if_pos passes, passes] at load
  have backupCheck : checkBackup crc32 env loaded loadedMedia =
      (.success, (loaded.load crc32 env loadedMedia bankedVolumeIdBackupMetadata).2) := by
    unfold checkBackup
    rw [backupVolume]
    dsimp only
    rw [if_neg (by simp [valid])]
    exact Prod.ext load.1 rfl
  exact agreed_of_checks reliable fresh sized primaryCheck backupCheck
    ⟨load.2.1, length, load.2.2, primaryVolume, backupVolume⟩
    (loadedCopies.of_contents (MetadataManager.load_contents _ _ _))
    (copy ▸ List.length_take_of_le copies.backupRoom) passes nofun fun _ => copy

end

/-- Power may be lost in any volume call of an update. If an interrupted copy fails its CRC
check, the next check and repair succeeds, agrees on exactly the old or exactly the new metadata
in the cache and both volumes, and on the new ones once the primary had been written. -/
theorem metadataManagerUpdate_crashConsistent (crc32 : Bytes → BitVec 32)
    (subject : MetadataManager serializer) (media : Media) (old : Bytes)
    (synced : subject.Synced crc32 media old) (env : Env) (activeIndex previousActiveIndex : Nat)
    (fwDir : FwDirectory) (bankTracker : BankTracker) (sameSize : old.length = serializer.size fwDir)
    (cut : Nat) (torn : VolumeFailure) (loses : env.fault = powerCut cut torn)
    (rebootEnv : Env) (reliable : rebootEnv.Reliable) (rebootDir : FwDirectory)
    (sameDirectory : serializer.size rebootDir = serializer.size fwDir) :
    let updated := subject.serialized crc32 env activeIndex previousActiveIndex fwDir bankTracker
    let crashed := (metadataManagerUpdate crc32 env subject media activeIndex previousActiveIndex
      fwDir bankTracker).2.2
    (storeUnneeded subject updated = false → ∀ volumeId,
      interruptedCopy media.calls cut = some volumeId →
        crcMatches crc32 (copyOf crashed old.length volumeId) = false) →
    ∃ metadata,
      Agreed crc32 old.length (metadataManagerCheckAndRepair crc32 rebootEnv
        (metadataManagerInit serializer rebootEnv crashed) crashed rebootDir) metadata ∧
      (metadata = old ∨ metadata = updated.metadata) ∧
      (storeUnneeded subject updated = false ∧ media.calls + 3 ≤ cut →
        metadata = updated.metadata) := by
  intro updated crashed interruptedFails
  have sized : serializer.size rebootDir = old.length := sameDirectory.trans sameSize.symm
  obtain ⟨primary, primaryHolds, primaryRoom, primaryCopy⟩ := synced.primary
  obtain ⟨backup, backupHolds, backupRoom, backupCopy⟩ := synced.backup
  have copies : Copies media old.length primary backup :=
    ⟨primaryHolds, backupHolds, primaryRoom, backupRoom⟩
  cases unneeded : storeUnneeded subject updated with
  | true =>
    have kept : crashed = media := by
      show (metadataManagerUpdate crc32 env subject media activeIndex previousActiveIndex
        fwDir bankTracker).2.2 = media
      unfold metadataManagerUpdate
      rw [if_pos unneeded]
    rw [kept]
    refine ⟨old, ?_, .inl rfl, fun impossible => nomatch impossible.1⟩
    exact agreed_of_primary reliable (metadataManagerInit_fresh copies) sized copies synced.passes
      primaryCopy fun _ _ => backupCopy
  | false =>
    have stores : crashed = (storeMetadata env
        (storeMetadata env media bankedVolumeIdPrimaryMetadata updated.metadata).2
        bankedVolumeIdBackupMetadata updated.metadata).2 := by
      have primaryVolume : updated.primaryMetadataVolume = some bankedVolumeIdPrimaryMetadata :=
        synced.primaryVolume
      have backupVolume : updated.backupMetadataVolume = some bankedVolumeIdBackupMetadata :=
        synced.backupVolume
      show (metadataManagerUpdate crc32 env subject media activeIndex previousActiveIndex
        fwDir bankTracker).2.2 = _
      unfold metadataManagerUpdate
      rw [if_neg (by rw [unneeded]; decide)]
      rw [primaryVolume, backupVolume]
      rfl
    have passes : crcMatches crc32 updated.metadata = true := crcMatches_serialized
    have newLength : updated.metadata.length = old.length :=
      length_serialized_metadata.trans sameSize.symm
    have header : 4 ≤ old.length := sameSize ▸ serializer.holdsCrc fwDir
    have otherCrc : crcField old ≠ crcField updated.metadata := by
      intro same
      have field : crcField updated.metadata = crcField updated.metadataCache := by
        rw [MetadataManager.metadata, serialized_metadataLen]
        exact crcField_take (serializer.holdsCrc fwDir)
      have skipped : storeUnneeded subject updated = true := by
        rw [storeUnneeded, synced.valid, synced.storedCrc, same, field]
        simp
      rw [unneeded] at skipped
      cases skipped
    obtain ⟨primaryAfter, backupAfter, after, crash⟩ := storeBoth_cut loses copies
    rw [← stores] at after
    have fresh : (metadataManagerInit serializer rebootEnv crashed).Fresh :=
      metadataManagerInit_fresh after
    have tornFails := interruptedFails unneeded
    have newCopy (size : Nat) (room : old.length ≤ size) :
        (storedContents size updated.metadata).take old.length = updated.metadata :=
      storedContents_take _ _ _ newLength room
    cases crash with
    | before early =>
      refine ⟨old, ?_, .inl rfl, fun written => absurd written.2 (by omega)⟩
      exact agreed_of_primary reliable fresh sized after synced.passes primaryCopy
        fun _ _ => backupCopy
    | primaryInterrupted begun unfinished =>
      refine ⟨old, ?_, .inl rfl, fun written => absurd written.2 (by omega)⟩
      have corrupt := tornFails bankedVolumeIdPrimaryMetadata (by
        rw [interruptedCopy, if_pos ⟨begun, unfinished⟩])
      rw [copyOf_of_contents after.primaryHolds] at corrupt
      exact agreed_of_backup reliable fresh sized after synced.passes corrupt backupCopy
    | between written =>
      refine ⟨updated.metadata, ?_, .inr rfl, fun _ => rfl⟩
      refine agreed_of_primary reliable fresh sized after passes (newCopy _ primaryRoom) ?_
      intro _ sameCrc
      rw [← crcField_take header, backupCopy] at sameCrc
      exact absurd sameCrc otherCrc
    | backupInterrupted begun unfinished =>
      refine ⟨updated.metadata, ?_, .inr rfl, fun _ => rfl⟩
      have corrupt := tornFails bankedVolumeIdBackupMetadata (by
        rw [interruptedCopy, if_neg (by omega), if_pos ⟨begun, unfinished⟩])
      rw [copyOf_of_contents after.backupHolds] at corrupt
      refine agreed_of_primary reliable fresh sized after passes (newCopy _ primaryRoom) ?_
      intro good
      rw [corrupt] at good
      cases good
    | done written =>
      refine ⟨updated.metadata, ?_, .inr rfl, fun _ => rfl⟩
      exact agreed_of_primary reliable fresh sized after passes (newCopy _ primaryRoom)
        fun _ _ => newCopy _ backupRoom

/-- A checksum for examples: one more than the sum of the bytes. -/
def byteSum (bytes : Bytes) : BitVec 32 :=
  BitVec.ofNat 32 (bytes.foldl (fun sum byte => sum + byte.toNat) 1)

def sampleMetadata : Bytes := leBytes 4 2 ++ (leBytes 4 1 ++ (leBytes 4 0 ++ leBytes 4 0))

def sampleMedia : Media where
  volumes volumeId :=
    if volumeId = bankedVolumeIdPrimaryMetadata ∨ volumeId = bankedVolumeIdBackupMetadata then
      some ⟨sampleMetadata ++ [0xff, 0xff], 0⟩
    else none
  calls := 0
  writes := []

def sampleManager : MetadataManager metadataSerializerV1 where
  primaryMetadataVolume := some bankedVolumeIdPrimaryMetadata
  backupMetadataVolume := some bankedVolumeIdBackupMetadata
  isDirty := false
  isValid := true
  storedCrc := 2
  metadataLen := 16
  metadataCache := List.replicate metadataSerializerV1.maxSize 0
  cacheSize := List.length_replicate

def sampleTorn : VolumeFailure where
  error := .io
  leaves volume := { volume with contents := List.replicate volume.size 0 }
  keepsSize volume := by simp [Volume.size]

theorem sampleManager_synced : sampleManager.Synced byteSum sampleMedia sampleMetadata where
  valid := rfl
  primaryVolume := rfl
  backupVolume := rfl
  storedCrc := by decide +kernel
  passes := by decide +kernel
  primary := ⟨_, rfl, by decide, by decide⟩
  backup := ⟨_, rfl, by decide, by decide⟩

theorem metadataManagerUpdate_crashConsistent_erasing :
    ∃ metadata,
      Agreed byteSum sampleMetadata.length (metadataManagerCheckAndRepair byteSum Env.calm
        (metadataManagerInit metadataSerializerV1 Env.calm
          (metadataManagerUpdate byteSum { Env.calm with fault := powerCut 1 sampleTorn }
            sampleManager sampleMedia 1 0 fwDirectoryInit bankTrackerInit).2.2)
        (metadataManagerUpdate byteSum { Env.calm with fault := powerCut 1 sampleTorn }
          sampleManager sampleMedia 1 0 fwDirectoryInit bankTrackerInit).2.2 fwDirectoryInit)
        metadata ∧
      (metadata = sampleMetadata ∨ metadata = (sampleManager.serialized byteSum
        { Env.calm with fault := powerCut 1 sampleTorn } 1 0 fwDirectoryInit
          bankTrackerInit).metadata) := by
  have interrupted : ∀ volumeId, interruptedCopy sampleMedia.calls 1 = some volumeId →
      crcMatches byteSum (copyOf (metadataManagerUpdate byteSum
        { Env.calm with fault := powerCut 1 sampleTorn } sampleManager sampleMedia 1 0
          fwDirectoryInit bankTrackerInit).2.2 sampleMetadata.length volumeId) = false := by
    intro volumeId here
    have primary : volumeId = bankedVolumeIdPrimaryMetadata := by
      exact (Option.some.inj here).symm
    rw [primary]
    decide +kernel
  obtain ⟨metadata, agreed, either, _⟩ := metadataManagerUpdate_crashConsistent byteSum
    sampleManager sampleMedia sampleMetadata sampleManager_synced
    { Env.calm with fault := powerCut 1 sampleTorn } 1 0 fwDirectoryInit bankTrackerInit
    (by decide) 1 sampleTorn rfl Env.calm (fun _ _ => rfl) fwDirectoryInit rfl
    (fun _ => interrupted)
  exact ⟨metadata, agreed, either⟩

end Fwu
