import TrustedServices.SmmVariable.Store

/- The two stored copies of the index, and a sync that may fail at any call. -/
namespace SmmVariable

open Lib ObjectStore

theorem eq_mk_of_fst {α β : Type} {result : α × β} {status : α} (first : result.1 = status) :
    result = (status, result.2) :=
  Prod.ext first rfl

/-- A copy of which the first `kept` bytes are written. -/
def writtenCopy (buffer : Bytes) (kept : Nat) : Object :=
  ⟨buffer.take kept, buffer.length⟩

/-- What a failed sync may leave: the old copy, no copy, or the bytes written so
far, which are none or at least one shared memory buffer. -/
def CutCopy (config : BuildConfig) (uid : Nat) (buffer : Bytes) (before after : ObjectStore) : Prop :=
  after = before ∨ after = before.erase uid ∨
    ∃ kept < buffer.length, (kept = 0 ∨ config.sharedMemorySize ≤ kept) ∧
      after = before.insert uid (writtenCopy buffer kept)

section

variable (config : BuildConfig) (fault : Fault BackendCall)

theorem setExtended_writtenCopy (uid : Nat) (buffer : Bytes) (offset width : Nat)
    (objects : ObjectStore) (present : objects uid = some (writtenCopy buffer offset))
    (inside : offset + width ≤ buffer.length) :
    ObjectStore.setExtended uid offset (slice buffer offset width) objects =
      .ok (objects.insert uid (writtenCopy buffer (offset + width))) := by
  have size : (buffer.take offset).length = offset := by
    rw [List.length_take]
    omega
  have extended : overwrite (buffer.take offset) offset (slice buffer offset width) =
      buffer.take (offset + width) := by
    have appended := overwrite_end (buffer.take offset) (slice buffer offset width)
    rw [size] at appended
    rw [appended, List.take_add, slice]
  have room : ¬ buffer.length < offset + (slice buffer offset width).length := by
    rw [length_slice _ _ _ inside]
    omega
  simp only [ObjectStore.setExtended, present, writtenCopy, if_neg room, extended]

/-- The write loop keeps a prefix of the buffer, and all of it on success. -/
theorem writeIndexChunks_keeps (uid : Nat) (buffer : Bytes) (fuel offset : Nat)
    (backend : FaultyStore) (present : backend.objects uid = some (writtenCopy buffer offset))
    (unfinished : offset < buffer.length) (enough : buffer.length - offset < fuel) :
    let result := writeIndexChunks config fault uid buffer fuel offset (buffer.length - offset) backend
    ∃ kept ≤ buffer.length,
      result.2.objects = backend.objects.insert uid (writtenCopy buffer kept) ∧
      ((result.1 = .ok () ∧ kept = buffer.length) ∨
        ((∃ error count, result.1 = .error error ∧
            fault count ⟨.syncVariableIndex, .setExtended, uid⟩ = some error) ∧
          kept < buffer.length ∧ (kept = offset ∨ offset + config.sharedMemorySize ≤ kept))) := by
  induction fuel generalizing offset backend with
  | zero => omega
  | succ fuel ih =>
    have chunk := config.sharedMemoryHoldsCounter
    have inside : offset + min (buffer.length - offset) config.sharedMemorySize ≤ buffer.length := by
      omega
    have extends_ := setExtended_writtenCopy uid buffer offset _ backend.objects present inside
    rw [writeIndexChunks]
    obtain ⟨objects, _, effect, result⟩ | ⟨error, source, result⟩ := FaultyStore.write_cases fault
      ⟨.syncVariableIndex, .setExtended, uid⟩ (ObjectStore.setExtended uid offset
        (slice buffer offset (min (buffer.length - offset) config.sharedMemorySize))) backend
    · obtain rfl := Except.ok.inj (extends_.symm.trans effect)
      rw [result]
      dsimp only
      split
      · refine ⟨buffer.length, le_refl _, ?_, .inl ⟨rfl, rfl⟩⟩
        show backend.objects.insert uid _ = _
        congr 2
        omega
      · have width : min (buffer.length - offset) config.sharedMemorySize =
            config.sharedMemorySize := by omega
        rw [width]
        have next := ih (offset + config.sharedMemorySize) ⟨backend.objects.insert uid
          (writtenCopy buffer (offset + config.sharedMemorySize)), backend.calls + 1⟩
          (insert_self _ _ _) (by omega) (by omega)
        rw [← Nat.sub_sub] at next
        obtain ⟨kept, bound, written, cases_⟩ := next
        refine ⟨kept, bound, ?_, ?_⟩
        · rw [written, insert_insert]
        · rcases cases_ with ⟨done, full⟩ | ⟨failed, short, reached⟩
          · exact .inl ⟨done, full⟩
          · exact .inr ⟨failed, short, .inr (by omega)⟩
    · rw [result]
      have injected : fault backend.calls ⟨.syncVariableIndex, .setExtended, uid⟩ = some error := by
        refine source.resolve_right fun refused => ?_
        cases extends_.symm.trans refused
      refine ⟨offset, by omega, ?_, .inr ⟨⟨error, _, rfl, injected⟩, unfinished, .inl rfl⟩⟩
      exact (insert_present present).symm

/-- What a sync leaves of the copy it writes. It fails only if one of its calls
does. -/
theorem writeVariableIndex_outcome (uid : Nat) (buffer : Bytes) (backend : FaultyStore)
    (nonempty : 0 < buffer.length) :
    let result := writeVariableIndex config fault uid buffer backend
    (result.1 = .ok () ∧
      result.2.objects = backend.objects.insert uid (writtenCopy buffer buffer.length)) ∨
    ((∃ error, result.1 = .error error) ∧
      (∃ count op error, fault count ⟨.syncVariableIndex, op, uid⟩ = some error) ∧
      CutCopy config uid buffer backend.objects result.2.objects) := by
  rw [writeVariableIndex]
  have removal := FaultyStore.write_remove fault ⟨.syncVariableIndex, .remove, uid⟩ uid backend
  generalize backend.write fault ⟨.syncVariableIndex, .remove, uid⟩ (ObjectStore.remove uid) =
    removed at removal ⊢
  split_ifs with refused
  · have inserts : ∀ object, removed.2.objects.insert uid object =
        backend.objects.insert uid object := by
      intro object
      rcases removal with ⟨_, erased⟩ | ⟨_, _, same, _⟩
      · rw [erased, insert_erase]
      · rw [same]
    have creation := FaultyStore.write_create fault ⟨.syncVariableIndex, .create, uid⟩ uid
      buffer.length removed.2
    generalize removed.2.write fault ⟨.syncVariableIndex, .create, uid⟩
      (ObjectStore.create uid buffer.length) = created at creation ⊢
    obtain ⟨status, created⟩ := created
    rcases creation with ⟨rfl, reserved⟩ | ⟨error, rfl, unchanged, source⟩
    · rw [inserts] at reserved
      obtain ⟨kept, bound, written, progress⟩ := writeIndexChunks_keeps config fault uid buffer
        (buffer.length + 1) 0 created
        (by rw [reserved, insert_self, writtenCopy, List.take_zero]) nonempty (by omega)
      rw [reserved, insert_insert] at written
      rcases progress with ⟨done, full⟩ | ⟨⟨error, count, failed, injected⟩, short, reached⟩
      · rw [full] at written
        exact .inl ⟨done, written⟩
      · rw [Nat.zero_add] at reached
        exact .inr ⟨⟨error, failed⟩, ⟨count, _, error, injected⟩,
          .inr (.inr ⟨kept, short, reached, written⟩)⟩
    · rcases removal with ⟨_, erased⟩ | ⟨reason, _, same, removalSource⟩
      · rcases source with injected | present
        · exact .inr ⟨⟨error, rfl⟩, ⟨_, _, _, injected⟩, .inr (.inl (by rw [unchanged, erased]))⟩
        · exact absurd (by rw [erased, erase_self]) present
      · refine .inr ⟨⟨error, rfl⟩, ?_, .inl (by rw [unchanged, same])⟩
        rcases source with injected | present
        · exact ⟨_, _, _, injected⟩
        · rcases removalSource with injected | ⟨_, absent⟩
          · exact ⟨_, _, _, injected⟩
          · exact absurd (by rw [same, absent]) present
  · rcases removal with ⟨done, _⟩ | ⟨error, failed, same, injected | ⟨missing, _⟩⟩
    · exact absurd (.inl done) refused
    · exact .inr ⟨⟨error, failed⟩, ⟨_, _, error, injected⟩, .inl same⟩
    · exact absurd (.inr (by rw [failed, missing])) refused

end

section

variable (index : VariableIndex)

def VariableIndex.dump : Bytes :=
  leBytes 4 (index.counter + 1).toNat ++ dumpRecords index.entries

theorem VariableIndex.length_dump : index.dump.length = 4 + (dumpRecords index.entries).length := by
  simp [dump]

theorem VariableIndex.length_dump_le : index.dump.length ≤ variableIndexMaxDumpSize index := by
  have bound := length_dumpRecords_le index.entries
  rw [index.length_dump, variableIndexMaxDumpSize, sizeofVariableMetadata,
    sizeofVariableConstraints, maxVariables]
  omega

def VariableIndex.clean : VariableIndex :=
  { index with entries := index.entries.map VariableEntry.clean }

end

/-- A sync cleans the dirty flags whatever comes of it. It writes nothing, or the
whole dump, or fails because one of its calls does. -/
theorem syncVariableIndex_cases (config : BuildConfig) (env : Env) (store : UefiVariableStore)
    (room : variableIndexMaxDumpSize store.variableIndex ≤ store.indexSyncBufferSize) :
    let index := store.variableIndex
    let uid := nextIndexUid store.activeVariableIndexUid
    (index.entries.any (·.dirty) = false ∧
      syncVariableIndex config env store = (.success, { store with variableIndex := index.clean })) ∨
    (index.entries.any (·.dirty) = true ∧ ∃ backend,
      backend.objects = (store.objects true).insert uid (writtenCopy index.dump index.dump.length) ∧
      syncVariableIndex config env store =
        (.success,
         { store with
           persistentStore.storageBackend := backend
           variableIndex := variableIndexConfirmWrite index.clean
           activeVariableIndexUid := uid })) ∨
    (index.entries.any (·.dirty) = true ∧
      (∃ count op error, env.fault true count ⟨.syncVariableIndex, op, uid⟩ = some error) ∧
      ∃ status backend, status ≠ .success ∧
        CutCopy config uid index.dump (store.objects true) backend.objects ∧
        syncVariableIndex config env store =
          (status,
           { store with
             persistentStore.storageBackend := backend
             variableIndex := index.clean })) := by
  have nonempty : 0 < store.dump.length := by
    rw [VariableIndex.length_dump]
    omega
  have outcome := writeVariableIndex_outcome config (env.fault true)
    (nextIndexUid store.activeVariableIndexUid) store.dump
    store.persistentStore.storageBackend nonempty
  rw [syncVariableIndex, variableIndexDump_eq _ _ room]
  dsimp only
  cases dirty : store.entries.any (·.dirty) with
  | false => exact .inl ⟨rfl, rfl⟩
  | true =>
    refine .inr ?_
    rw [VariableIndex.dump] at outcome
    generalize writeVariableIndex config (env.fault true)
      (nextIndexUid store.activeVariableIndexUid)
      (leBytes 4 (store.counter + 1).toNat ++ dumpRecords store.entries)
      store.persistentStore.storageBackend = written at outcome ⊢
    obtain ⟨status, backend⟩ := written
    rcases outcome with ⟨rfl, objects⟩ | ⟨⟨error, rfl⟩, injected, cut⟩
    · exact .inl ⟨rfl, backend, objects, rfl⟩
    · exact .inr ⟨rfl, injected, _, backend, psaToEfiStorageStatus_error error, cut, rfl⟩

end SmmVariable
