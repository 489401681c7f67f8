import TrustedServices.SmmVariable.IndexStorage

/- Start-up: which stored copy of the index is current, and what is restored. -/
namespace SmmVariable

open Lib UefiVariableStore

def isIndexUid (uid : Nat) : Prop :=
  uid = smmVariableIndexStorageAUid ∨ uid = smmVariableIndexStorageBUid

/-- No access to either copy of the index fails. -/
def IndexCallsWork (fault : Fault BackendCall) : Prop :=
  ∀ count call, isIndexUid call.uid → fault count call = none

/-- What a copy tells `get_active_variable_uid`. -/
def probeOf : Option Object → IndexProbe
  | none => .missing
  | some object =>
    if object.data = [] then .missing
    else .found (BitVec.ofNat 32 (leNat (slice object.data 0 4)))

/-- The copy that is current, and its counter. -/
def currentIndex (objects : ObjectStore) : Except StorageError (Nat × BitVec 32) :=
  chooseVariableIndex (probeOf (objects smmVariableIndexStorageAUid))
    (probeOf (objects smmVariableIndexStorageBUid))

/-- Looking for the current copy removes empty copies and nothing else. -/
def DropsEmptyCopies (objects after : ObjectStore) : Prop :=
  ∀ uid, after uid = objects uid ∨
    (isIndexUid uid ∧ after uid = none ∧ ∃ capacity, objects uid = some ⟨[], capacity⟩)

theorem DropsEmptyCopies.refl (objects : ObjectStore) : DropsEmptyCopies objects objects :=
  fun _ => .inl rfl

theorem DropsEmptyCopies.trans {first second third : ObjectStore}
    (before : DropsEmptyCopies first second) (after : DropsEmptyCopies second third) :
    DropsEmptyCopies first third := by
  intro uid
  rcases after uid with same | ⟨isIndex, gone, capacity, empty⟩
  · rw [same]
    exact before uid
  · rcases before uid with same | dropped
    · exact .inr ⟨isIndex, gone, capacity, by rw [← same, empty]⟩
    · rw [dropped.2.1] at empty
      cases empty

theorem DropsEmptyCopies.probe {objects after : ObjectStore}
    (drops : DropsEmptyCopies objects after) (uid : Nat) :
    probeOf (after uid) = probeOf (objects uid) := by
  rcases drops uid with same | ⟨_, gone, capacity, empty⟩
  · rw [same]
  · simp [gone, empty, probeOf]

variable {uid : Nat} {counter : BitVec 32}

theorem DropsEmptyCopies.keeps {objects after : ObjectStore}
    (drops : DropsEmptyCopies objects after) {object : Object}
    (present : objects uid = some object) (nonempty : object.data ≠ []) :
    after uid = some object := by
  rcases drops uid with same | ⟨_, _, capacity, empty⟩
  · rw [same, present]
  · rw [present, Option.some.injEq] at empty
    rw [empty] at nonempty
    exact absurd rfl nonempty

theorem probeOf_found {stored : Option Object} (found : probeOf stored = .found counter) :
    ∃ object, stored = some object ∧ object.data ≠ [] ∧
      counter = BitVec.ofNat 32 (leNat (slice object.data 0 4)) := by
  cases stored with
  | none => cases found
  | some object =>
    rw [probeOf] at found
    split_ifs at found ⊢ with nonempty
    exact ⟨object, rfl, nonempty, (IndexProbe.found.inj found).symm⟩

theorem chooseVariableIndex_ok {probeA probeB : IndexProbe}
    (chosen : chooseVariableIndex probeA probeB = .ok (uid, counter)) :
    (uid = smmVariableIndexStorageAUid ∧ probeA = .found counter) ∨
      (uid = smmVariableIndexStorageBUid ∧ probeB = .found counter) := by
  rw [chooseVariableIndex.eq_def] at chosen
  split at chosen
  · cases chosen
  · obtain ⟨rfl, rfl⟩ := Prod.mk.inj (Except.ok.inj chosen)
    exact .inr ⟨rfl, rfl⟩
  · obtain ⟨rfl, rfl⟩ := Prod.mk.inj (Except.ok.inj chosen)
    exact .inl ⟨rfl, rfl⟩
  · split_ifs at chosen ⊢
    · obtain ⟨rfl, rfl⟩ := Prod.mk.inj (Except.ok.inj chosen)
      exact .inr ⟨rfl, rfl⟩
    · obtain ⟨rfl, rfl⟩ := Prod.mk.inj (Except.ok.inj chosen)
      exact .inl ⟨rfl, rfl⟩
  · cases chosen

theorem currentIndex_ok {objects : ObjectStore}
    (current : currentIndex objects = .ok (uid, counter)) :
    isIndexUid uid ∧ probeOf (objects uid) = .found counter := by
  rcases chooseVariableIndex_ok current with ⟨rfl, found⟩ | ⟨rfl, found⟩
  · exact ⟨.inl rfl, found⟩
  · exact ⟨.inr rfl, found⟩

section

variable (fault : Fault BackendCall)

/-- Some access to a copy of the index fails. -/
def IndexCallFails : Prop :=
  ∃ count call error, isIndexUid call.uid ∧ fault count call = some error

section

variable {fault : Fault BackendCall}

theorem indexCallFails_of_ne_none {count : Nat} {call : BackendCall}
    (isIndex : isIndexUid call.uid) (fails : fault count call ≠ none) : IndexCallFails fault := by
  obtain ⟨error, reason⟩ := Option.ne_none_iff_exists'.mp fails
  exact ⟨count, call, error, isIndex, reason⟩

theorem indexCallsWork_of_works
    (works : ∀ count call, fault count call = none) : IndexCallsWork fault :=
  fun count call _ => works count call

theorem IndexCallsWork.not_fails (works : IndexCallsWork fault) : ¬ IndexCallFails fault := by
  rintro ⟨count, call, error, isIndex, fails⟩
  rw [works count call isIndex] at fails
  cases fails

end

/-- Probing a copy tells what is stored, or that it could not be found out. -/
theorem probeVariableIndex_cases (uid : Nat) (isIndex : isIndexUid uid) (backend : FaultyStore) :
    DropsEmptyCopies backend.objects (probeVariableIndex fault uid backend).2.objects ∧
      ((probeVariableIndex fault uid backend).1 = probeOf (backend.objects uid) ∨
        (IndexCallFails fault ∧
          ∀ counter, (probeVariableIndex fault uid backend).1 ≠ .found counter)) := by
  have read := FaultyStore.read_result fault ⟨.getActiveVariableUid, .get, uid⟩
    (ObjectStore.get uid 0 4) backend
  have reads : ∀ value, (backend.read fault ⟨.getActiveVariableUid, .get, uid⟩
      (ObjectStore.get uid 0 4)).1 = .ok value →
      fault backend.calls ⟨.getActiveVariableUid, .get, uid⟩ = none ∧
        ObjectStore.get uid 0 4 backend.objects = .ok value := fun _ => FaultyStore.read_ok
  have frame := FaultyStore.read_objects fault ⟨.getActiveVariableUid, .get, uid⟩
    (ObjectStore.get uid 0 4) backend
  rw [probeVariableIndex]
  generalize backend.read fault ⟨.getActiveVariableUid, .get, uid⟩ (ObjectStore.get uid 0 4) =
    got at read reads frame ⊢
  obtain ⟨status, got⟩ := got
  cases status with
  | error error =>
    have unchanged : DropsEmptyCopies backend.objects got.objects := by
      rw [frame]
      exact .refl _
    by_cases fails : fault backend.calls ⟨.getActiveVariableUid, .get, uid⟩ = none
    · have stored := read fails
      rw [ObjectStore.get] at stored
      split at stored
      · rename_i absent
        obtain rfl := Except.error.inj stored
        exact ⟨unchanged, .inl (by rw [absent]; rfl)⟩
      · cases stored
    · refine ⟨?_, .inr ⟨indexCallFails_of_ne_none isIndex fails, ?_⟩⟩
      · cases error <;> exact unchanged
      · cases error <;> rintro _ ⟨⟩
  | ok data =>
    have stored := (reads data rfl).2
    rw [ObjectStore.get] at stored
    split at stored
    · cases stored
    · rename_i object present
      rw [if_neg (Nat.not_lt_zero _), Except.ok.injEq, slice, List.drop_zero] at stored
      obtain ⟨image, capacity⟩ := object
      cases image with
      | nil =>
        rw [List.take_nil] at stored
        subst stored
        have removal := FaultyStore.write_remove fault ⟨.getActiveVariableUid, .remove, uid⟩ uid got
        generalize got.write fault ⟨.getActiveVariableUid, .remove, uid⟩
          (ObjectStore.remove uid) = removed at removal ⊢
        obtain ⟨status, removed⟩ := removed
        rcases removal with ⟨rfl, erased⟩ | ⟨error, rfl, same, injected | ⟨_, absent⟩⟩
        · refine ⟨?_, .inl (by rw [present]; rfl)⟩
          rw [erased, frame]
          intro other
          by_cases same : other = uid
          · rw [same]
            exact .inr ⟨isIndex, ObjectStore.erase_self _ _, capacity, present⟩
          · exact .inl (ObjectStore.erase_other _ _ _ same)
        · refine ⟨?_, .inr ⟨⟨_, _, _, isIndex, injected⟩, by rintro _ ⟨⟩⟩⟩
          rw [same, frame]
          exact .refl _
        · rw [frame, present] at absent
          cases absent
      | cons byte rest =>
        rw [List.take_succ_cons] at stored
        subst stored
        refine ⟨?_, .inl ?_⟩
        · rw [frame]
          exact .refl _
        · simp [present, probeOf, slice]

theorem getActiveVariableUid_cases (backend : FaultyStore) :
    DropsEmptyCopies backend.objects (getActiveVariableUid fault backend).2.objects ∧
      ((getActiveVariableUid fault backend).1 = currentIndex backend.objects ∨
        (IndexCallFails fault ∧
          ∀ uid counter, (getActiveVariableUid fault backend).1 = .ok (uid, counter) →
            isIndexUid uid ∧ probeOf (backend.objects uid) = .found counter)) := by
  obtain ⟨dropsA, probeA⟩ := probeVariableIndex_cases fault smmVariableIndexStorageAUid (.inl rfl)
    backend
  have readable : ∀ stored, probeOf stored ≠ .erroneous := by
    intro stored
    cases stored with
    | none => exact nofun
    | some object => rw [probeOf]; split <;> exact nofun
  rw [getActiveVariableUid]
  generalize probeVariableIndex fault smmVariableIndexStorageAUid backend = resultA
    at dropsA probeA ⊢
  obtain ⟨foundA, afterA⟩ := resultA
  split_ifs with erroneous
  · refine ⟨dropsA, .inr ⟨?_, nofun⟩⟩
    rcases probeA with stored | ⟨fails, _⟩
    · exact absurd (stored ▸ erroneous) (readable _)
    · exact fails
  · obtain ⟨dropsB, probeB⟩ := probeVariableIndex_cases fault smmVariableIndexStorageBUid (.inr rfl)
      afterA
    rw [dropsA.probe] at probeB
    refine ⟨dropsA.trans dropsB, ?_⟩
    by_cases fails : IndexCallFails fault
    · refine .inr ⟨fails, ?_⟩
      intro uid counter chosen
      rcases chooseVariableIndex_ok chosen with ⟨rfl, found⟩ | ⟨rfl, found⟩
      · rcases probeA with stored | ⟨_, unread⟩
        · exact ⟨.inl rfl, stored.symm.trans found⟩
        · exact absurd found (unread counter)
      · rcases probeB with stored | ⟨_, unread⟩
        · exact ⟨.inr rfl, stored.symm.trans found⟩
        · exact absurd found (unread counter)
    · refine .inl ?_
      rw [currentIndex, ← probeA.resolve_right fun failed => fails failed.1,
        ← probeB.resolve_right fun failed => fails failed.1]

/-- The read loop returns the rest of the copy, or fails. -/
theorem readIndexChunks_cases (config : BuildConfig) (uid : Nat) (isIndex : isIndexUid uid)
    (object : Object) (fuel offset : Nat) (backend : FaultyStore)
    (present : backend.objects uid = some object) (inside : offset ≤ object.data.length)
    (enough : object.data.length - offset < fuel) :
    (readIndexChunks config fault uid fuel offset backend).2.objects = backend.objects ∧
      ((readIndexChunks config fault uid fuel offset backend).1 = .ok (object.data.drop offset) ∨
        (IndexCallFails fault ∧
          ∃ error, (readIndexChunks config fault uid fuel offset backend).1 = .error error)) := by
  induction fuel generalizing offset backend with
  | zero => omega
  | succ fuel ih =>
    have chunk := config.sharedMemoryHoldsCounter
    have read := FaultyStore.read_result fault ⟨.loadVariableIndex, .get, uid⟩
      (ObjectStore.get uid offset config.sharedMemorySize) backend
    have frame := FaultyStore.read_objects fault ⟨.loadVariableIndex, .get, uid⟩
      (ObjectStore.get uid offset config.sharedMemorySize) backend
    have reads : ∀ value, (backend.read fault ⟨.loadVariableIndex, .get, uid⟩
        (ObjectStore.get uid offset config.sharedMemorySize)).1 = .ok value →
        fault backend.calls ⟨.loadVariableIndex, .get, uid⟩ = none ∧
          ObjectStore.get uid offset config.sharedMemorySize backend.objects = .ok value :=
      fun _ => FaultyStore.read_ok
    rw [readIndexChunks]
    generalize backend.read fault ⟨.loadVariableIndex, .get, uid⟩
      (ObjectStore.get uid offset config.sharedMemorySize) = got at read reads frame ⊢
    obtain ⟨status, got⟩ := got
    have stored : ObjectStore.get uid offset config.sharedMemorySize backend.objects =
        .ok (slice object.data offset config.sharedMemorySize) := by
      simp only [ObjectStore.get, present, Nat.not_lt.mpr inside, ↓reduceIte]
    cases status with
    | error error =>
      refine ⟨frame, .inr ⟨?_, error, rfl⟩⟩
      by_cases fails : fault backend.calls ⟨.loadVariableIndex, .get, uid⟩ = none
      · have contradiction := read fails
        rw [stored] at contradiction
        cases contradiction
      · exact indexCallFails_of_ne_none isIndex fails
    | ok data =>
      have value := (reads data rfl).2
      rw [stored, Except.ok.injEq] at value
      subst value
      dsimp only
      have whole : (object.data.drop offset).length = object.data.length - offset :=
        List.length_drop
      split_ifs with full
      · rw [slice, List.length_take, whole] at full
        have width : (slice object.data offset config.sharedMemorySize).length =
            config.sharedMemorySize := length_slice _ _ _ (by omega)
        rw [width]
        obtain ⟨rest, outcome⟩ := ih (offset + config.sharedMemorySize) got
          (by rw [frame, present]) (by omega) (by omega)
        refine ⟨by rw [rest, frame], ?_⟩
        rcases outcome with done | ⟨injected, error, failed⟩
        · exact .inl (by
            rw [done, Except.map, slice, ← List.drop_drop, List.take_append_drop])
        · exact .inr ⟨injected, error, by rw [failed]; rfl⟩
      · rw [slice, List.length_take, whole] at full
        refine ⟨frame, .inl ?_⟩
        rw [slice, List.take_of_length_le (by omega)]

end

section

variable (config : BuildConfig) (env : Env) (store : UefiVariableStore)

/-- Reading a copy that is there restores its bytes. Whether they fit the buffer
is not known if their size could not be read. -/
theorem readVariableIndex_cases (uid : Nat) (isIndex : isIndexUid uid) (object : Object)
    (present : store.objects true uid = some object) :
    let result := readVariableIndex config env store uid
    result.2.objects true = store.objects true ∧
      result.2.activeVariableIndexUid = store.activeVariableIndexUid ∧
      ((result.1 = .success ∧
          (object.data.length ≤ store.indexSyncBufferSize ∨ IndexCallFails (env.fault true)) ∧
          result.2.variableIndex = (variableIndexRestore store.variableIndex object.data).1) ∨
        (result.1 = .loadError ∧
          (store.indexSyncBufferSize < object.data.length ∨ IndexCallFails (env.fault true)))) := by
  have info : (store.backendRead env true .loadVariableIndex .getInfo uid
        (ObjectStore.getInfo uid)).1 = .ok object.data.length ∨ IndexCallFails (env.fault true) := by
    by_cases works : env.fault true store.persistentStore.storageBackend.calls
        ⟨.loadVariableIndex, .getInfo, uid⟩ = none
    · refine .inl ((FaultyStore.read_result _ _ _ _ works).trans ?_)
      rw [ObjectStore.getInfo, show store.persistentStore.storageBackend.objects uid = some object
        from present]
    · exact .inr (indexCallFails_of_ne_none isIndex works)
  have informed := store.backendRead_objects env true .loadVariableIndex .getInfo uid
    (ObjectStore.getInfo uid) true
  have read := readIndexChunks_cases (env.fault true) config uid isIndex object
    (loadFuel (store.objects true) uid) 0
    (store.backendRead env true .loadVariableIndex .getInfo uid
      (ObjectStore.getInfo uid)).2.persistentStore.storageBackend
    (by rw [← present, ← informed]; rfl) (Nat.zero_le _) (by simp [loadFuel, present])
  rw [readVariableIndex]
  simp only [informed, backendRead_indexSyncBufferSize]
  split_ifs with fits
  · refine ⟨by simp, by simp, .inr ⟨rfl, ?_⟩⟩
    rcases info with known | fails
    · rw [known] at fits
      exact .inl fits
    · exact .inr fails
  · obtain ⟨frame, outcome⟩ := read
    rcases outcome with done | ⟨fails, error, failed⟩
    · simp only [done, List.drop_zero, setBackend_variableIndex,
        backendRead_variableIndex,
        setBackend_activeVariableIndexUid,
        backendRead_activeVariableIndexUid]
      refine ⟨frame.trans informed, trivial, .inl ⟨trivial, ?_, trivial⟩⟩
      rcases info with known | fails
      · rw [known] at fits
        exact .inl (Nat.not_lt.mp fits)
      · exact .inr fails
    · simp only [failed, setBackend_activeVariableIndexUid, backendRead_activeVariableIndexUid]
      exact ⟨frame.trans informed, trivial, .inr ⟨trivial, .inr fails⟩⟩

/-- How start-up ends, with or without errors: it takes the index for missing, or
reads a copy that is there. -/
theorem loadVariableIndex_cases : let result := loadVariableIndex config env store
    DropsEmptyCopies (store.objects true) (result.2.objects true) ∧
    ((∃ error, (currentIndex (store.objects true) = .error error ∨ IndexCallFails (env.fault true)) ∧
        result.1 = (if error = .doesNotExist then .success else .loadError) ∧
        result.2.variableIndex = ⟨0, store.entries⟩ ∧
        result.2.activeVariableIndexUid = smmVariableIndexStorageAUid) ∨
      (∃ uid counter object,
        (currentIndex (store.objects true) = .ok (uid, counter) ∨ IndexCallFails (env.fault true)) ∧
        isIndexUid uid ∧ store.objects true uid = some object ∧ object.data ≠ [] ∧
        result.2.activeVariableIndexUid = uid ∧
        ((result.1 = .success ∧
            (object.data.length ≤ store.indexSyncBufferSize ∨ IndexCallFails (env.fault true)) ∧
            result.2.variableIndex =
              (variableIndexRestore ⟨counter, store.entries⟩ object.data).1) ∨
          (result.1 = .loadError ∧ (store.indexSyncBufferSize < object.data.length ∨
            IndexCallFails (env.fault true)))))) := by
  obtain ⟨drops, chosen⟩ := getActiveVariableUid_cases (env.fault true)
    store.persistentStore.storageBackend
  rw [loadVariableIndex]
  generalize getActiveVariableUid (env.fault true) store.persistentStore.storageBackend =
    active at chosen drops ⊢
  obtain ⟨status, backend⟩ := active
  cases status with
  | error error =>
    refine ⟨drops, .inl ⟨error, ?_, rfl, by simp, rfl⟩⟩
    exact chosen.imp Eq.symm And.left
  | ok choice =>
    obtain ⟨uid, counter⟩ := choice
    have found : isIndexUid uid ∧ probeOf (store.objects true uid) = .found counter := by
      rcases chosen with current | ⟨_, real⟩
      · exact currentIndex_ok current.symm
      · exact real uid counter rfl
    obtain ⟨object, present, nonempty, _⟩ := probeOf_found found.2
    obtain ⟨frame, active, outcome⟩ := readVariableIndex_cases config env
      { store.setBackend true backend with
        activeVariableIndexUid := uid
        variableIndex.counter := counter }
      uid found.1 object (drops.keeps present nonempty)
    refine ⟨?_, .inr ⟨uid, counter, object, chosen.imp Eq.symm And.left, found.1, present, nonempty,
      active, ?_⟩⟩
    · rw [frame]
      exact drops
    · simpa using outcome

end

/-- The active copy and the index that start-up loads from the stored copies. -/
inductive LoadsIndex (limit : Nat) (objects : ObjectStore) : Nat → VariableIndex → Prop
  | fresh (missing : currentIndex objects = .error .doesNotExist) :
      LoadsIndex limit objects smmVariableIndexStorageAUid (variableIndexInit limit)
  | stored {uid : Nat} {counter : BitVec 32} {object : Object}
      (current : currentIndex objects = .ok (uid, counter)) (present : objects uid = some object)
      (fits : object.data.length ≤ variableIndexMaxDumpSize (variableIndexInit limit)) :
      LoadsIndex limit objects uid
        (variableIndexRestore ⟨counter, (variableIndexInit limit).entries⟩ object.data).1

section

variable (config : BuildConfig) {env : Env} (works : IndexCallsWork (env.fault true))
  {limit : Nat} (persistent volatile : FaultyStore)

include works in
theorem loadVariableIndex_loads {active : Nat} {index : VariableIndex}
    (loads : LoadsIndex limit persistent.objects active index) :
    let result := loadVariableIndex config env
      (initialStore config limit persistent volatile)
    result.1 = .success ∧ result.2.activeVariableIndexUid = active ∧
      result.2.variableIndex = index := by
  have noFailure := works.not_fails
  have outcome := (loadVariableIndex_cases config env
    (initialStore config limit persistent volatile)).2
  simp only [noFailure, or_false, show (initialStore config limit persistent volatile).objects
    true = persistent.objects from rfl] at outcome
  cases loads with
  | fresh missing =>
    rcases outcome with ⟨error, current, status, index, active⟩ | ⟨_, _, _, current, _⟩
    · rw [missing, Except.error.injEq] at current
      subst current
      exact ⟨status, active, index⟩
    · rw [missing] at current
      cases current
  | stored current present fits =>
    rcases outcome with ⟨_, other, _⟩ | ⟨_, _, _, other, _, found, _, chosen, read⟩
    · rw [current] at other
      cases other
    · rw [current] at other
      obtain ⟨rfl, rfl⟩ := Prod.mk.inj (Except.ok.inj other)
      rw [present, Option.some.injEq] at found
      subst found
      rcases read with ⟨success, _, index⟩ | ⟨_, large⟩
      · exact ⟨success, chosen, index⟩
      · exact absurd large (Nat.not_lt.mpr fits)

include works in
theorem loadsIndex_of_success (success : (loadVariableIndex config env
      (initialStore config limit persistent volatile)).1 = .success) :
    let result := (loadVariableIndex config env
      (initialStore config limit persistent volatile)).2
    LoadsIndex limit persistent.objects result.activeVariableIndexUid result.variableIndex := by
  have noFailure := works.not_fails
  have outcome := (loadVariableIndex_cases config env
    (initialStore config limit persistent volatile)).2
  simp only [noFailure, or_false, show (initialStore config limit persistent volatile).objects
    true = persistent.objects from rfl] at outcome
  dsimp only
  rcases outcome with ⟨error, current, status, index, active⟩ |
    ⟨uid, counter, object, current, _, present, _, chosen, read⟩
  · by_cases missing : error = .doesNotExist
    · rw [index, active]
      exact .fresh (by rw [current, missing])
    · rw [if_neg missing, success] at status
      cases status
  · rcases read with ⟨_, fits, index⟩ | ⟨failed, _⟩
    · rw [index, chosen]
      exact .stored current present fits
    · rw [failed] at success
      cases success

end

theorem nextIndexUid_ne (uid : Nat) : nextIndexUid uid ≠ uid := by
  rw [nextIndexUid]
  split
  · rename_i same
    rw [same]
    decide
  · rename_i other
    exact fun same => other same.symm

theorem isIndexUid_nextIndexUid (uid : Nat) : isIndexUid (nextIndexUid uid) := by
  rw [nextIndexUid]
  split
  · exact .inr rfl
  · exact .inl rfl

theorem currentIndex_missing {objects : ObjectStore}
    (missing : currentIndex objects = .error .doesNotExist) :
    probeOf (objects smmVariableIndexStorageAUid) = .missing ∧
      probeOf (objects smmVariableIndexStorageBUid) = .missing := by
  rw [currentIndex, chooseVariableIndex.eq_def] at missing
  split at missing
  · exact ⟨by assumption, by assumption⟩
  · cases missing
  · cases missing
  · split at missing
    · cases missing
    · split at missing <;> cases missing
  · cases missing

/-- A copy without a counterpart is current, whichever it is. -/
theorem currentIndex_alone {objects : ObjectStore}
    (isIndex : isIndexUid uid) (found : probeOf (objects uid) = .found counter)
    (missing : probeOf (objects (nextIndexUid uid)) = .missing) :
    currentIndex objects = .ok (uid, counter) := by
  rcases isIndex with rfl | rfl
  · rw [currentIndex, found, show smmVariableIndexStorageBUid =
      nextIndexUid smmVariableIndexStorageAUid from rfl, missing, chooseVariableIndex]
  · rw [currentIndex, found, show smmVariableIndexStorageAUid =
      nextIndexUid smmVariableIndexStorageBUid from rfl, missing, chooseVariableIndex]

/-- Of two copies the one that counts one further is current, also where the
counter wraps around. -/
theorem currentIndex_later {objects : ObjectStore}
    (isIndex : isIndexUid uid) (found : probeOf (objects uid) = .found counter)
    (later : probeOf (objects (nextIndexUid uid)) = .found (counter + 1)) :
    currentIndex objects = .ok (nextIndexUid uid, counter + 1) := by
  rcases isIndex with rfl | rfl
  · rw [currentIndex, found, show smmVariableIndexStorageBUid =
      nextIndexUid smmVariableIndexStorageAUid from rfl, later, chooseVariableIndex, if_pos rfl]
    rfl
  · have apart : counter + 1 + 1 ≠ counter := by
      intro wrapped
      have := congrArg BitVec.toNat wrapped
      simp at this
      omega
    rw [currentIndex, found, show smmVariableIndexStorageAUid =
      nextIndexUid smmVariableIndexStorageBUid from rfl, later, chooseVariableIndex,
      if_neg apart, if_pos rfl]
    rfl

namespace LoadsIndex

variable {limit : Nat} {objects after : ObjectStore} {active : Nat} {index : VariableIndex}

section

variable (loads : LoadsIndex limit objects active index)

include loads

theorem counter_eq
    (current : currentIndex objects = .ok (active, counter)) : index.counter = counter := by
  cases loads with
  | fresh missing =>
    rw [missing] at current
    cases current
  | stored chosen present _ =>
    rw [chosen] at current
    obtain ⟨_, rfl⟩ := Prod.mk.inj (Except.ok.inj current)
    obtain ⟨object, same, _, read⟩ := probeOf_found (currentIndex_ok chosen).2
    rw [present, Option.some.injEq] at same
    rw [variableIndexRestore]
    split
    · rw [read, same]
    · rfl

theorem of_other_missing (same : after active = objects active)
    (missing : probeOf (after (nextIndexUid active)) = .missing) :
    LoadsIndex limit after active index := by
  cases loads with
  | fresh empty =>
    refine .fresh ?_
    rw [currentIndex, same, (currentIndex_missing empty).1, show smmVariableIndexStorageBUid =
      nextIndexUid smmVariableIndexStorageAUid from rfl, missing, chooseVariableIndex]
  | stored current present fits =>
    obtain ⟨isIndex, found⟩ := currentIndex_ok current
    exact .stored (currentIndex_alone isIndex (by rw [same, found]) missing)
      (by rw [same, present]) fits

/-- A copy with the next counter becomes the active one. -/
theorem of_next_counter (same : after active = objects active) {object : Object}
    (present : after (nextIndexUid active) = some object) (nonempty : object.data ≠ [])
    (next : BitVec.ofNat 32 (leNat (slice object.data 0 4)) = index.counter + 1)
    (fits : object.data.length ≤ variableIndexMaxDumpSize (variableIndexInit limit)) :
    LoadsIndex limit after (nextIndexUid active)
      (variableIndexRestore ⟨index.counter + 1, (variableIndexInit limit).entries⟩
        object.data).1 := by
  have found : probeOf (after (nextIndexUid active)) = .found (index.counter + 1) := by
    rw [present, probeOf, if_neg nonempty, next]
  refine .stored ?_ present fits
  cases hypothesis : currentIndex objects with
  | error error =>
    cases loads with
    | fresh empty =>
      refine currentIndex_alone (isIndexUid_nextIndexUid _) found ?_
      rw [show nextIndexUid (nextIndexUid smmVariableIndexStorageAUid) =
        smmVariableIndexStorageAUid from rfl, same]
      exact (currentIndex_missing empty).1
    | stored current _ _ =>
      rw [current] at hypothesis
      cases hypothesis
  | ok choice =>
    obtain ⟨uid, counter⟩ := choice
    have chosen : uid = active := by
      cases loads with
      | fresh empty =>
        rw [empty] at hypothesis
        cases hypothesis
      | stored current _ _ =>
        rw [current] at hypothesis
        exact (Prod.mk.inj (Except.ok.inj hypothesis)).1.symm
    subst chosen
    have counted := loads.counter_eq hypothesis
    rw [counted] at found ⊢
    obtain ⟨isIndex, old⟩ := currentIndex_ok hypothesis
    exact currentIndex_later isIndex (by rw [same, old]) found

end

end LoadsIndex

end SmmVariable
