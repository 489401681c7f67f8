import TrustedServices.SmmVariable.IndexLoading

/- A power failure in a sync of the variable index, and the next start-up. -/
namespace SmmVariable

open Lib VariableEntry VariableIndex ObjectStore

/-- The index that start-up restores from a complete dump. -/
def VariableIndex.saved (index : VariableIndex) : VariableIndex :=
  let kept := (index.entries.filter isDumped).map restored
  ⟨index.counter + 1, kept ++ List.replicate (index.maxVariables - kept.length) .zero⟩

/-- The entries that a dump saves fit their fixed-width image. -/
def VariableIndex.Stored (index : VariableIndex) : Prop :=
  ∀ entry ∈ index.entries, entry.isDumped = true → entry.info.metadata.Stored

variable {index : VariableIndex} {config : BuildConfig} {old : VariableIndex}

theorem VariableIndex.Stored.filter (stored : index.Stored) :
    ∀ entry ∈ index.entries.filter isDumped, entry.info.metadata.Stored := by
  intro entry member
  obtain ⟨inTable, saved⟩ := List.mem_filter.mp member
  exact stored entry inTable saved

/-- Restoring the first bytes of a dump, the counter among them. -/
theorem variableIndexRestore_take (index : VariableIndex) (stored : index.Stored)
    (counter : BitVec 32) (kept : Nat) (counted : 4 ≤ kept) :
    let cut := (variableIndexRestore ⟨counter, (variableIndexInit index.maxVariables).entries⟩
      (index.dump.take kept)).1
    cut.counter = index.counter + 1 ∧
      ∃ front rest, front <+: index.entries.filter isDumped ∧
        cut.entries = front.map restored ++ rest ∧
        (∀ entry ∈ rest, entry.inUse = false ∧ entry.isVariableSet = false) ∧
        front.length + rest.length = index.maxVariables ∧
        (kept < index.dump.length →
          front.length < (index.entries.filter isDumped).length) := by
  have room : (index.entries.filter isDumped).length ≤ index.maxVariables :=
    List.length_filter_le _ _
  have image := length_leBytes 4 (index.counter + 1).toNat
  have taken : index.dump.take kept = leBytes 4 (index.counter + 1).toNat ++
      (dumpRecords index.entries).take (kept - 4) := by
    rw [VariableIndex.dump, List.take_append, List.take_of_length_le (by omega), image]
  obtain ⟨front, rest, isFront, entries, idle, size, cut⟩ :=
    restoreLoop_take (index.entries.filter isDumped) stored.filter index.maxVariables
      room (kept - 4)
  rw [taken, variableIndexRestore_counted]
  refine ⟨rfl, front, rest, isFront, entries, idle, size, ?_⟩
  intro short
  rw [length_dump, dumpRecords] at short
  exact cut (by omega)

theorem variableIndexRestore_dump (index : VariableIndex) (stored : index.Stored)
    (counter : BitVec 32) :
    (variableIndexRestore ⟨counter, (variableIndexInit index.maxVariables).entries⟩ index.dump).1 =
      index.saved := by
  have room : (index.entries.filter isDumped).length ≤ index.maxVariables :=
    List.length_filter_le _ _
  have whole := restoreLoop_records _ (fun entry member => (stored.filter entry member).held)
    index.maxVariables [] room
  rw [List.append_nil, restoreLoop_nil] at whole
  rw [VariableIndex.dump, variableIndexRestore_counted, VariableIndex.saved]
  simp only [variableIndexInit, dumpRecords, whole, List.length_map]

/-- A sync that fails before it has written a first buffer leaves the old index. -/
theorem LoadsIndex.of_cutCopy {maxVariables active : Nat}
    {objects after : ObjectStore} {buffer : Bytes}
    (loads : LoadsIndex maxVariables objects active index)
    (cut : CutCopy config (nextIndexUid active) buffer objects after)
    (fits : buffer.length ≤ config.sharedMemorySize) :
    LoadsIndex maxVariables after active index := by
  have apart : active ≠ nextIndexUid active := (nextIndexUid_ne active).symm
  rcases cut with rfl | rfl | ⟨kept, short, rfl | reached, rfl⟩
  · exact loads
  · exact loads.of_other_missing (erase_other _ _ _ apart) (by rw [erase_self, probeOf])
  · exact loads.of_other_missing (insert_other _ _ _ _ apart) (by simp [probeOf, writtenCopy])
  · omega

/-- Once a first buffer is written, its counter makes the new copy the current
one, complete or not. -/
theorem LoadsIndex.of_writtenCopy {active : Nat} {objects : ObjectStore}
    {loaded : VariableIndex} (loads : LoadsIndex index.maxVariables objects active loaded)
    (counted : loaded.counter = index.counter) (kept : Nat) (started : 4 ≤ kept) :
    LoadsIndex index.maxVariables
      (objects.insert (nextIndexUid active) (writtenCopy index.dump kept)) (nextIndexUid active)
      (variableIndexRestore ⟨index.counter + 1, (variableIndexInit index.maxVariables).entries⟩
        (index.dump.take kept)).1 := by
  have image := length_leBytes 4 (index.counter + 1).toNat
  have long : 4 ≤ index.dump.length := by
    rw [index.length_dump]
    omega
  have front : slice (index.dump.take kept) 0 4 = leBytes 4 (index.counter + 1).toNat := by
    rw [VariableIndex.dump, List.take_append, List.take_of_length_le (by omega)]
    exact slice_leBytes_front _ _ _
  have word : BitVec.ofNat 32 (leNat (leBytes 4 (index.counter + 1).toNat)) = index.counter + 1 :=
    leNat_leBytes_bitVec 4 _
  have bound := index.length_dump_le
  have next := loads.of_next_counter
    (insert_other objects _ _ (writtenCopy index.dump kept) (nextIndexUid_ne active).symm)
    (insert_self _ _ _)
    (by
      rw [writtenCopy]
      intro empty
      rw [← List.length_eq_zero_iff, List.length_take] at empty
      omega)
    (by rw [writtenCopy, front, word, counted])
    (by
      rw [writtenCopy, List.length_take]
      simp only [variableIndexMaxDumpSize, variableIndexInit, VariableIndex.maxVariables,
        List.length_replicate] at bound ⊢
      omega)
  rw [counted] at next
  exact next

/-- The third call of a sync writes the first buffer. If the power then fails,
that buffer is all there is of a longer dump. -/
theorem writeVariableIndex_firstBuffer (config : BuildConfig) (uid : Nat) (buffer : Bytes)
    (backend : FaultyStore) (long : config.sharedMemorySize < buffer.length) :
    (writeVariableIndex config (powerFailure (backend.calls + 3)) uid buffer backend).2.objects =
      backend.objects.insert uid (writtenCopy buffer config.sharedMemorySize) := by
  generalize faultEq : (powerFailure (backend.calls + 3) : Fault BackendCall) = fault
  have works : ∀ count call, count < backend.calls + 3 → fault count call = none := by
    intro count call early
    rw [← faultEq, powerFailure, if_pos early]
  have fails : ∀ call, fault (backend.calls + 3) call = some .hardwareFailure := by
    intro call
    rw [← faultEq, powerFailure, if_neg (by omega)]
  rw [writeVariableIndex]
  have removal := FaultyStore.write_remove fault ⟨.syncVariableIndex, .remove, uid⟩ uid backend
  have removedCalls := FaultyStore.write_calls fault ⟨.syncVariableIndex, .remove, uid⟩
    (ObjectStore.remove uid) backend
  generalize backend.write fault ⟨.syncVariableIndex, .remove, uid⟩ (ObjectStore.remove uid) =
    removed at removal removedCalls ⊢
  have cleared : removed.2.objects = backend.objects.erase uid ∧
      (removed.1 = .ok () ∨ removed.1 = .error .doesNotExist) := by
    rcases removal with ⟨done, erased⟩ | ⟨error, failed, same, injected | ⟨missing, absent⟩⟩
    · exact ⟨erased, .inl done⟩
    · rw [works _ _ (by omega)] at injected
      cases injected
    · exact ⟨by rw [same, erase_absent absent], .inr (by rw [failed, missing])⟩
  rw [if_pos cleared.2]
  have created := FaultyStore.write_works fault ⟨.syncVariableIndex, .create, uid⟩
    (ObjectStore.create uid buffer.length) removed.2
    (backend.objects.insert uid (writtenCopy buffer 0)) (works _ _ (by omega))
    (by
      rw [cleared.1, ObjectStore.create, erase_self, insert_erase]
      rfl)
  rw [created]
  dsimp only
  have width : min buffer.length config.sharedMemorySize = config.sharedMemorySize := by omega
  have extended := setExtended_writtenCopy uid buffer 0 config.sharedMemorySize
    (backend.objects.insert uid (writtenCopy buffer 0)) (insert_self _ _ _) (by omega)
  rw [insert_insert, Nat.zero_add] at extended
  have written := FaultyStore.write_works fault ⟨.syncVariableIndex, .setExtended, uid⟩
    (ObjectStore.setExtended uid 0 (slice buffer 0 config.sharedMemorySize))
    ⟨backend.objects.insert uid (writtenCopy buffer 0), removed.2.calls + 1⟩ _
    (works _ _ (by dsimp only; omega)) extended
  obtain ⟨more, enough⟩ : ∃ more, buffer.length = more + 1 := ⟨buffer.length - 1, by omega⟩
  rw [writeIndexChunks, width, written]
  rw [if_neg (by omega), enough, writeIndexChunks]
  simp only [FaultyStore.write, show removed.2.calls + 1 + 1 = backend.calls + 3 by omega, fails]

/-- Start-up after a sync in `env` restores the index as it was, or as it was to be. -/
def RestoresOldOrNew (config : BuildConfig) (calm : Env) (volatileStore : FaultyStore)
    (old : VariableIndex) (env : Env) (store : UefiVariableStore) : Prop :=
  let crashed := (syncVariableIndex config env store).2
  let next := loadVariableIndex config calm
    (initialStore config store.maxVariables crashed.persistentStore.storageBackend volatileStore)
  next.1 = .success ∧
    (next.2.variableIndex = old ∨ next.2.variableIndex = store.variableIndex.saved)

section

variable {calm : Env} (works : IndexCallsWork (calm.fault true)) (volatileStore : FaultyStore)

include works

/-- A sync whose dump is one write is atomic, whichever of its calls fail. -/
theorem restoresOldOrNew_of_fits (env : Env) {store : UefiVariableStore}
    (loads : LoadsIndex store.maxVariables (store.objects true)
      store.activeVariableIndexUid old) (counted : old.counter = store.counter)
    (room : store.indexSyncBufferSize = variableIndexMaxDumpSize store.variableIndex)
    (stored : store.variableIndex.Stored) (fits : store.entries.any (·.dirty) = true →
      store.dump.length ≤ config.sharedMemorySize) :
    RestoresOldOrNew config calm volatileStore old env store := by
  rw [RestoresOldOrNew]
  rcases syncVariableIndex_cases config env store (le_of_eq room.symm) with
    ⟨_, unwritten⟩ | ⟨_, backend, objects, written⟩ |
    ⟨dirty, _, status, backend, _, cut, failed⟩
  · rw [unwritten]
    obtain ⟨success, _, index⟩ := loadVariableIndex_loads config works
      store.persistentStore.storageBackend volatileStore loads
    exact ⟨success, .inl index⟩
  · rw [written]
    have complete := loads.of_writtenCopy counted store.dump.length (by rw [length_dump]; omega)
    rw [List.take_length, variableIndexRestore_dump _ stored, ← objects] at complete
    obtain ⟨success, _, index⟩ := loadVariableIndex_loads config works backend volatileStore
      complete
    exact ⟨success, .inr index⟩
  · rw [failed]
    obtain ⟨success, _, index⟩ := loadVariableIndex_loads config works backend volatileStore
      (loads.of_cutCopy cut (fits dirty))
    exact ⟨success, .inl index⟩

/-- A longer dump is not: after its first buffer the copy counts as current, but
holds neither index. -/
theorem not_restoresOldOrNew_of_long {env : Env} {store : UefiVariableStore}
    (loads : LoadsIndex store.maxVariables (store.objects true)
      store.activeVariableIndexUid old) (counted : old.counter = store.counter)
    (room : store.indexSyncBufferSize = variableIndexMaxDumpSize store.variableIndex)
    (stored : store.variableIndex.Stored) (dirty : store.entries.any (·.dirty) = true)
    (long : config.sharedMemorySize < store.dump.length)
    (fails : env.fault true = powerFailure (store.persistentStore.storageBackend.calls + 3)) :
    ¬ RestoresOldOrNew config calm volatileStore old env store := by
  have chunk := config.sharedMemoryHoldsCounter
  have written := writeVariableIndex_firstBuffer config
    (nextIndexUid store.activeVariableIndexUid) store.dump
    store.persistentStore.storageBackend long
  have objects : (syncVariableIndex config env store).2.persistentStore.storageBackend.objects =
      (store.objects true).insert (nextIndexUid store.activeVariableIndexUid)
        (writtenCopy store.dump config.sharedMemorySize) := by
    rw [syncVariableIndex, variableIndexDump_eq _ _ (le_of_eq room.symm)]
    dsimp only
    rw [if_neg (by simp), if_pos dirty, fails]
    refine Eq.trans ?_ written
    split <;> rfl
  have cut := loads.of_writtenCopy counted config.sharedMemorySize chunk
  rw [← objects] at cut
  obtain ⟨_, _, index⟩ := loadVariableIndex_loads config works _ volatileStore cut
  obtain ⟨counter, front, rest, _, entries, idle, _, fewer⟩ := variableIndexRestore_take
    store.variableIndex stored (store.counter + 1) config.sharedMemorySize chunk
  rintro ⟨_, isOld | isNew⟩
  · have ahead := congrArg VariableIndex.counter (index.symm.trans isOld)
    rw [counter, counted] at ahead
    have wrapped := congrArg BitVec.toNat ahead
    simp at wrapped
    omega
  · have same := congrArg (fun index => index.entries.countP (·.inUse)) (index.symm.trans isNew)
    have front_ : ∀ list : List VariableEntry,
        (list.map restored).countP (·.inUse) = list.length := by
      intro list
      rw [List.countP_map, List.countP_eq_length.mpr (by simp [restored])]
    have behind : rest.countP (·.inUse) = 0 := by
      rw [List.countP_eq_zero]
      intro entry member
      simp [(idle entry member).1]
    have zeros : ∀ count, (List.replicate count VariableEntry.zero).countP (·.inUse) = 0 := by
      intro count
      rw [List.countP_eq_zero]
      intro entry member
      rw [List.eq_of_mem_replicate member]
      decide
    simp only [entries, VariableIndex.saved, List.countP_append, front_, behind, zeros] at same
    omega

end

/-- The two copies make a sync atomic under a power failure at any call exactly
if the dump, when there is something to write, fits one shared memory buffer. -/
theorem syncVariableIndex_crashConsistent_iff (config : BuildConfig) (calm : Env)
    (works : IndexCallsWork (calm.fault true)) (volatileStore : FaultyStore)
    (store previous : UefiVariableStore) (loaded : loadVariableIndex config calm
      (initialStore config store.maxVariables store.persistentStore.storageBackend
        volatileStore) = (.success, previous))
    (sameActive : previous.activeVariableIndexUid = store.activeVariableIndexUid)
    (sameCounter : previous.counter = store.counter)
    (room : store.indexSyncBufferSize = variableIndexMaxDumpSize store.variableIndex)
    (stored : store.variableIndex.Stored) :
    (∀ env limit, env.fault true = powerFailure limit →
        RestoresOldOrNew config calm volatileStore previous.variableIndex env store) ↔
      (store.entries.any (·.dirty) = true →
        4 + (dumpRecords store.entries).length ≤ config.sharedMemorySize) := by
  have loads := loadsIndex_of_success config works store.persistentStore.storageBackend volatileStore
    (by rw [loaded])
  rw [loaded] at loads
  dsimp only at loads
  rw [sameActive] at loads
  rw [← store.variableIndex.length_dump]
  constructor
  · intro atomic dirty
    by_contra long
    exact not_restoresOldOrNew_of_long works volatileStore loads sameCounter room stored dirty
      (by omega) rfl
      (atomic { calm with fault := fun _ => powerFailure _ } _ rfl)
  · intro fits env limit _
    exact restoresOldOrNew_of_fits works volatileStore env loads sameCounter room stored fits

section

variable (number : Nat) (dirty : Bool)

/-- A non-volatile variable of the boot phase that is named by a letter. -/
def letterEntry : VariableEntry where
  info :=
    { metadata :=
        { guid := .zero, timestamp := .zero, fingerprint := 0, nameSize := 4
          name := [UInt8.ofNat (0x41 + number), 0, 0, 0]
          attributes := efiVariableNonVolatile ||| efiVariableBootserviceAccess
          uid := number + 1 }
      checkConstraints := .zero
      isVariableSet := true
      isConstraintsSet := false }
  inUse := true
  dirty := dirty

theorem letterEntry_stored (few : number < 26) : (letterEntry number dirty).info.metadata.Stored :=
  ⟨rfl, by simp [letterEntry, variableIndexMaxNameBytes], by simp only [letterEntry]; omega⟩

theorem letterEntry_isDumped : (letterEntry number dirty).isDumped = true := by
  simp [letterEntry, isDumped, isNonVolatile, hasAny, efiVariableNonVolatile,
    efiVariableBootserviceAccess]

end

section

variable (count : Nat)

/-- The index that the last of `count + 1` letter variables was saved with. -/
def letterIndex : VariableIndex :=
  ⟨BitVec.ofNat 32 count, (List.range (count + 1)).map (letterEntry · false) ++ [.zero]⟩

/-- The store that has saved these variables and is about to save one more. -/
def letterStore : UefiVariableStore :=
  { initialStore (.standard true) (count + 2)
      ⟨ObjectStore.empty.insert smmVariableIndexStorageAUid
        (writtenCopy (letterIndex count).dump (letterIndex count).dump.length), 0⟩
      ⟨ObjectStore.empty, 0⟩ with
    activeVariableIndexUid := smmVariableIndexStorageAUid
    variableIndex :=
      ⟨BitVec.ofNat 32 count + 1,
        (List.range (count + 1)).map (letterEntry · false) ++ [letterEntry (count + 1) true]⟩ }

theorem letterStore_maxVariables : (letterStore count).maxVariables = count + 2 := by
  simp [letterStore, VariableIndex.maxVariables]

theorem letterStore_room : (letterStore count).indexSyncBufferSize =
      variableIndexMaxDumpSize (letterStore count).variableIndex := by
  simp [letterStore, initialStore, variableIndexMaxDumpSize, variableIndexInit,
    VariableIndex.maxVariables]

theorem letterStore_stored (few : count < 25) : (letterStore count).variableIndex.Stored := by
  intro entry member _
  simp only [letterStore, List.mem_append, List.mem_map, List.mem_range, List.mem_singleton] at member
  rcases member with ⟨number, inside, rfl⟩ | rfl
  · exact letterEntry_stored _ _ (by omega)
  · exact letterEntry_stored _ _ (by omega)

theorem letterStore_loads (few : count < 25) :
    LoadsIndex (letterStore count).maxVariables ((letterStore count).objects true)
      smmVariableIndexStorageAUid (letterIndex count).saved := by
  have stored : (letterIndex count).Stored := by
    intro entry member dumped
    simp only [letterIndex, List.mem_append, List.mem_map, List.mem_range,
      List.mem_singleton] at member
    rcases member with ⟨number, inside, rfl⟩ | rfl
    · exact letterEntry_stored _ _ (by omega)
    · cases dumped
  have size : (letterStore count).maxVariables = (letterIndex count).maxVariables := by
    simp [letterStore, letterIndex, VariableIndex.maxVariables]
  have copy : (letterStore count).objects true smmVariableIndexStorageAUid =
      some ⟨(letterIndex count).dump, (letterIndex count).dump.length⟩ := by
    simp [letterStore, initialStore, UefiVariableStore.objects, UefiVariableStore.delegate,
      writtenCopy]
  have probe : probeOf ((letterStore count).objects true smmVariableIndexStorageAUid) =
      .found ((letterIndex count).counter + 1) := by
    exact congrArg _ (leNat_leBytes_bitVec 4 _)
  have bound := (letterIndex count).length_dump_le
  rw [size, ← variableIndexRestore_dump _ stored ((letterIndex count).counter + 1)]
  refine .stored (currentIndex_alone (.inl rfl) probe rfl) copy ?_
  simpa [variableIndexMaxDumpSize, VariableIndex.maxVariables, variableIndexInit] using bound

theorem letterStore_records :
    (dumpRecords (letterStore count).entries).length = 217 * (count + 2) := by
  rw [length_dumpRecords_eq]
  · simp [letterStore]
  · intro entry member
    simp only [letterStore, List.mem_append, List.mem_map, List.mem_singleton] at member
    rcases member with ⟨number, _, rfl⟩ | rfl <;> exact ⟨letterEntry_isDumped _ _, rfl⟩

end

/-- Two variables fit one buffer: saving the second one is atomic. -/
theorem letterStore_crashConsistent :
    (∀ env limit, env.fault true = powerFailure limit →
        RestoresOldOrNew (.standard true) .calm ⟨.empty, 0⟩ (letterIndex 0).saved env
          (letterStore 0)) ↔
      ((letterStore 0).entries.any (·.dirty) = true →
        4 + (dumpRecords (letterStore 0).entries).length ≤ 4096) := by
  have calls : IndexCallsWork (Env.calm.fault true) := fun _ _ _ => rfl
  obtain ⟨previous, loaded, active, index⟩ : ∃ previous,
      loadVariableIndex (.standard true) .calm (initialStore (.standard true)
        (letterStore 0).maxVariables (letterStore 0).persistentStore.storageBackend
        ⟨.empty, 0⟩) = (.success, previous) ∧
      previous.activeVariableIndexUid = smmVariableIndexStorageAUid ∧
      previous.variableIndex = (letterIndex 0).saved := by
    obtain ⟨success, active, index⟩ := loadVariableIndex_loads (.standard true) calls
      (letterStore 0).persistentStore.storageBackend ⟨.empty, 0⟩ (letterStore_loads 0 (by decide))
    exact ⟨_, eq_mk_of_fst success, active, index⟩
  rw [← index]
  exact syncVariableIndex_crashConsistent_iff (.standard true) .calm calls ⟨.empty, 0⟩
    (letterStore 0) previous loaded active (by rw [index]; rfl) (letterStore_room 0)
    (letterStore_stored 0 (by decide))

/-- With eighteen variables saved, a power failure while the nineteenth is saved
makes the next start-up restore neither eighteen nor nineteen of them. -/
theorem syncVariableIndex_torn :
    let loaded := loadVariableIndex (.standard true) .calm
      (initialStore (.standard true) 19 (letterStore 17).persistentStore.storageBackend ⟨.empty, 0⟩)
    loaded.1 = .success ∧ loaded.2.variableIndex = (letterIndex 17).saved ∧
      ¬ RestoresOldOrNew (.standard true) .calm ⟨.empty, 0⟩ (letterIndex 17).saved
        { Env.calm with fault := fun _ => powerFailure 3 } (letterStore 17) := by
  have calls : IndexCallsWork (Env.calm.fault true) := fun _ _ _ => rfl
  have loads := letterStore_loads 17 (by decide)
  obtain ⟨success, _, index⟩ := loadVariableIndex_loads (.standard true) calls
    (letterStore 17).persistentStore.storageBackend ⟨.empty, 0⟩ loads
  rw [letterStore_maxVariables] at success index
  simp only [Nat.reduceAdd] at success index
  refine ⟨success, index, not_restoresOldOrNew_of_long calls ⟨.empty, 0⟩ loads rfl
    (letterStore_room 17) (letterStore_stored 17 (by decide)) ?_ ?_ rfl⟩
  · simp [letterStore, letterEntry]
  · rw [length_dump, letterStore_records]
    decide

end SmmVariable
