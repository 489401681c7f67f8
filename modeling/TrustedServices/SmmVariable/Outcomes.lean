import TrustedServices.SmmVariable.Effects

/- Every way in which a sync, a purge, a store and a SetVariable request can end. -/
namespace SmmVariable

open Lib VariableEntry VariableIndex

/-- What removing the data of a variable may do; its status is ignored. -/
inductive RemoveOutcome (env : Env) (view : StoreView) (info : VariableInfo) : StoreView → Prop
  | removed :
      RemoveOutcome env view info
        (view.withObjects (isNonVolatile info.attributes)
          ((view.objects (isNonVolatile info.attributes)).put info.uid none))
  | failed (injected : ∃ count error, env.fault (isNonVolatile info.attributes) count
        ⟨.removeVariableData, .remove, info.uid⟩ = some error) :
      RemoveOutcome env view info view

inductive SyncOutcome (config : BuildConfig) (fault : Fault BackendCall) (view : StoreView) :
    EfiStatus → StoreView → Prop
  | unwritten (clean : view.entries.any (·.dirty) = false) :
      SyncOutcome config fault view .success (view.withIndex view.variableIndex.clean)
  | written (dirty : view.entries.any (·.dirty) = true) :
      SyncOutcome config fault view .success
        ({ view with
            variableIndex := variableIndexConfirmWrite view.variableIndex.clean
            activeVariableIndexUid := nextIndexUid view.activeVariableIndexUid }.withObjects true
          ((view.objects true).insert (nextIndexUid view.activeVariableIndexUid)
            (writtenCopy view.dump view.dump.length)))
  | failed {status : EfiStatus} {after : ObjectStore}
      (dirty : view.entries.any (·.dirty) = true)
      (injected : ∃ count op error, fault count
        ⟨.syncVariableIndex, op, nextIndexUid view.activeVariableIndexUid⟩ = some error)
      (error : status ≠ .success)
      (cut : CutCopy config (nextIndexUid view.activeVariableIndexUid) view.dump
        (view.objects true) after) :
      SyncOutcome config fault view status
        ((view.withIndex view.variableIndex.clean).withObjects true after)

/-- What the purge does to one entry. -/
inductive PurgeStep (fault : Fault BackendCall) (objects : ObjectStore) (entry : VariableEntry) :
    VariableEntry → Prop
  | kept (present : entry.isDumped = true → objects entry.uid ≠ none) :
      PurgeStep fault objects entry entry
  | cleared (dumped : entry.isDumped = true)
      (lost : objects entry.uid = none ∨ ∃ count error, fault count
        ⟨.purgeOrphanIndexEntries, .getInfo, entry.uid⟩ = some error) :
      PurgeStep fault objects entry entry.withoutVariable

/-- What a purge may do: nothing, or clear entries and sync. -/
inductive PurgeOutcome (config : BuildConfig) (fault : Fault BackendCall) (view : StoreView) :
    StoreView → Prop
  | kept (present : ∀ entry ∈ view.entries, entry.isDumped = true →
        view.objects true entry.uid ≠ none) :
      PurgeOutcome config fault view view
  | cleared {entries : List VariableEntry} {status : EfiStatus} {after : StoreView}
      (steps : List.Forall₂ (PurgeStep fault (view.objects true)) view.entries entries)
      (sync : SyncOutcome config fault
        (view.withIndex { view.variableIndex with entries := entries }) status after) :
      PurgeOutcome config fault view after

/-- What storing a request's data may do. A failure on the persistent side is
followed by a purge. -/
inductive StoreOutcome (config : BuildConfig) (env : Env) (view : StoreView)
    (info : VariableInfo) (request : AccessVariable) : EfiStatus → StoreView → Prop
  | stored (extended : hasAny request.attributes efiVariableAppendWrite = true →
        request.data.length ≠ 0 →
        view.objects (isNonVolatile info.attributes) info.uid ≠ none) :
      StoreOutcome config env view info request .success
        (view.withObjects (isNonVolatile info.attributes)
          ((view.objects (isNonVolatile info.attributes)).put info.uid
            (writtenObject request (view.objects (isNonVolatile info.attributes) info.uid))))
  | refused {status : EfiStatus} (error : status ≠ .success)
      (unfit : ¬ WriteFits env view info request)
      (isVolatile : (view.settings (isNonVolatile info.attributes)).1 = false) :
      StoreOutcome config env view info request status view
  | purged {status : EfiStatus} {after : StoreView} (error : status ≠ .success)
      (unfit : ¬ WriteFits env view info request)
      (isNv : (view.settings (isNonVolatile info.attributes)).1 = true)
      (purge : PurgeOutcome config (env.fault true) view after) :
      StoreOutcome config env view info request status after

section

variable (config : BuildConfig) (env : Env) (store : UefiVariableStore)

theorem removeVariableData_outcome (info : VariableInfo) (isSet : info.isVariableSet = true) :
    RemoveOutcome env store.view info (removeVariableData env store info).2.view := by
  rcases removeVariableData_view env store info isSet with removed | ⟨same, injected⟩
  · rw [removed]
    exact .removed
  · rw [same]
    exact .failed injected

theorem syncVariableIndex_outcome (room : store.view.HasRoom) :
    SyncOutcome config (env.fault true) store.view (syncVariableIndex config env store).1
      (syncVariableIndex config env store).2.view := by
  rcases syncVariableIndex_cases config env store room with
    ⟨clean, result⟩ | ⟨dirty, backend, written, result⟩ |
    ⟨dirty, injected, status, backend, error, cut, result⟩
  · rw [result]
    exact .unwritten clean
  · rw [result]
    have outcome : SyncOutcome config (env.fault true) store.view _ _ := .written dirty
    rw [show store.view.objects true = store.objects true from rfl,
      show store.view.activeVariableIndexUid = store.activeVariableIndexUid from rfl,
      show store.view.variableIndex = store.variableIndex from rfl, ← written] at outcome
    have view := view_setBackend
      { store with
        variableIndex := variableIndexConfirmWrite store.variableIndex.clean
        activeVariableIndexUid := nextIndexUid store.activeVariableIndexUid } true backend
    exact view ▸ outcome
  · rw [result]
    have view := view_setBackend { store with variableIndex := store.variableIndex.clean } true backend
    have outcome : SyncOutcome config (env.fault true) store.view _ _ :=
      .failed dirty injected error cut
    exact view ▸ outcome

theorem purgeLoop_steps (fault : Fault BackendCall) (entries : List VariableEntry)
    (backend : FaultyStore) :
    let result := purgeLoop fault entries backend
    List.Forall₂ (PurgeStep fault backend.objects) entries result.1 ∧
      result.2.2.objects = backend.objects ∧
      (result.2.1 = false → result.1 = entries ∧ ∀ entry ∈ entries, entry.isDumped = true →
        backend.objects entry.uid ≠ none) := by
  induction entries generalizing backend with
  | nil => exact ⟨.nil, rfl, fun _ => ⟨rfl, by rintro _ ⟨⟩⟩⟩
  | cons entry rest ih =>
    rw [purgeLoop]
    split
    · rename_i dumped
      dsimp only
      obtain ⟨steps, objects, unchanged⟩ := ih (backend.read fault
        ⟨.purgeOrphanIndexEntries, .getInfo, entry.uid⟩
        (ObjectStore.getInfo entry.uid)).2
      cases outcome : (backend.read fault
          ⟨.purgeOrphanIndexEntries, .getInfo, entry.uid⟩
          (ObjectStore.getInfo entry.uid)).1 with
      | ok size =>
        have present : backend.objects entry.uid ≠ none := by
          intro absent
          have found := (FaultyStore.read_ok outcome).2
          rw [ObjectStore.getInfo, absent] at found
          cases found
        refine ⟨.cons (.kept fun _ => present) steps, objects, fun none => ?_⟩
        obtain ⟨same, others⟩ := unchanged none
        refine ⟨congrArg (entry :: ·) same, ?_⟩
        intro other member
        rcases List.mem_cons.mp member with rfl | member
        · exact fun _ => present
        · exact others other member
      | error error =>
        refine ⟨.cons (.cleared dumped ?_) steps, objects, by rintro ⟨⟩⟩
        by_cases works : fault backend.calls ⟨.purgeOrphanIndexEntries, .getInfo, entry.uid⟩ = none
        · rw [FaultyStore.read_result _ _ _ _ works, ObjectStore.getInfo] at outcome
          split at outcome
          · rename_i absent
            exact .inl absent
          · cases outcome
        · obtain ⟨injected, reason⟩ := Option.ne_none_iff_exists'.mp works
          exact .inr ⟨_, injected, reason⟩
    · rename_i unsaved
      obtain ⟨steps, objects, unchanged⟩ := ih backend
      refine ⟨.cons (.kept fun dumped => absurd dumped unsaved) steps, objects, fun none => ?_⟩
      obtain ⟨same, others⟩ := unchanged none
      refine ⟨congrArg (entry :: ·) same, ?_⟩
      intro other member dumped
      rcases List.mem_cons.mp member with rfl | member
      · exact absurd dumped unsaved
      · exact others other member dumped

theorem purgeOrphanIndexEntries_outcome (room : store.view.HasRoom) :
    PurgeOutcome config (env.fault true) store.view
      (purgeOrphanIndexEntries config env store).view := by
  obtain ⟨steps, objects, unchanged⟩ := purgeLoop_steps (env.fault true)
    store.entries store.persistentStore.storageBackend
  rw [purgeOrphanIndexEntries]
  generalize purgeLoop (env.fault true) store.entries
    store.persistentStore.storageBackend = purged at steps objects unchanged ⊢
  obtain ⟨entries, any, backend⟩ := purged
  have view := view_setBackend { store with variableIndex.entries := entries } true backend
  rw [objects] at view
  have same : (({ store with variableIndex.entries := entries } : UefiVariableStore).setBackend true
      backend).view = store.view.withIndex { store.variableIndex with entries := entries } :=
    view.trans (StoreView.withObjects_self _ true)
  cases any with
  | true =>
    have sized := steps.length_eq
    have outcome := syncVariableIndex_outcome config env
      (({ store with variableIndex.entries := entries } : UefiVariableStore).setBackend true
        backend)
      (by
        rw [same]
        simp only [StoreView.HasRoom, variableIndexMaxDumpSize, maxVariables,
          StoreView.withIndex] at room ⊢
        rw [← sized]
        exact room)
    rw [same] at outcome
    exact .cleared steps outcome
  | false =>
    obtain ⟨rfl, present⟩ := unchanged rfl
    simp only [Bool.false_eq_true, ↓reduceIte]
    rw [same]
    exact .kept present

theorem storeVariableData_outcome (info : VariableInfo) (request : AccessVariable)
    (room : store.view.HasRoom) :
    StoreOutcome config env store.view info request
      (storeVariableData config env store info request).1
      (storeVariableData config env store info request).2.view := by
  have written := writeVariableData_view env store info request
  have unfit : ∀ error, (writeVariableData env store info request).1 = .error error →
      ¬ WriteFits env store.view info request := by
    intro error failed fits
    rw [writeVariableData_works fits] at failed
    cases failed
  rw [storeVariableData]
  generalize writeVariableData env store info request = result at written unfit ⊢
  obtain ⟨status, after⟩ := result
  rcases written with ⟨rfl, extended, view⟩ | ⟨error, rfl, same⟩
  · rw [view]
    exact .stored extended
  · dsimp only at same ⊢
    have flag : (after.delegate (isNonVolatile info.attributes)).isNv =
        (store.view.settings (isNonVolatile info.attributes)).1 := by
      rw [← same]
      rfl
    split_ifs with isNv
    · have purge := purgeOrphanIndexEntries_outcome config env after (by rw [same]; exact room)
      rw [same] at purge
      exact .purged (psaToEfiStorageStatus_error _) (unfit _ rfl) (by rw [← flag, isNv]) purge
    · rw [same]
      exact .refused (psaToEfiStorageStatus_error _) (unfit _ rfl) (by rw [← flag]; simpa using isNv)

end

inductive MaybeSynced (config : BuildConfig) (fault : Fault BackendCall) (view : StoreView) :
    Bool → EfiStatus → StoreView → Prop
  | skipped : MaybeSynced config fault view false .success view
  | synced {status : EfiStatus} {after : StoreView} (sync : SyncOutcome config fault view status after) :
      MaybeSynced config fault view true status after

/-- How a request ends that does not return early: sync, store, and free the
entry if it is unused. -/
inductive FinishOutcome (config : BuildConfig) (env : Env) (view : StoreView)
    (pos : Nat) (shouldSyncIndex : Bool) (timestamp : EfiTime) (fingerprint : BitVec 256)
    (request : AccessVariable) : EfiStatus → StoreView → Prop
  | unstored {status : EfiStatus} {middle : StoreView}
      (sync : MaybeSynced config (env.fault true) view shouldSyncIndex status middle)
      (skipped : (middle.entry pos).isVariableSet = false ∨ status ≠ .success) :
      FinishOutcome config env view pos shouldSyncIndex timestamp fingerprint request status
        (middle.modifyEntry pos withoutUnused)
  | stored {status : EfiStatus} {middle after : StoreView}
      (sync : MaybeSynced config (env.fault true) view shouldSyncIndex .success middle)
      (isSet : (middle.entry pos).isVariableSet = true)
      (store : StoreOutcome config env
        (middle.modifyEntry pos fun entry => entry.withAuthentication timestamp fingerprint)
        ((middle.modifyEntry pos fun entry =>
          entry.withAuthentication timestamp fingerprint).entry pos).info
        request status after) :
      FinishOutcome config env view pos shouldSyncIndex timestamp fingerprint request status
        (after.modifyEntry pos withoutUnused)

theorem StoreView.HasRoom.modifyEntry {view : StoreView} (room : view.HasRoom) (pos : Nat)
    (change : VariableEntry → VariableEntry) : (view.modifyEntry pos change).HasRoom := by
  simpa [HasRoom, StoreView.modifyEntry, withIndex, variableIndexMaxDumpSize,
    maxVariables] using room

theorem SyncOutcome.hasRoom {config : BuildConfig} {fault : Fault BackendCall}
    {view after : StoreView} {status : EfiStatus} (sync : SyncOutcome config fault view status after)
    (room : view.HasRoom) : after.HasRoom := by
  cases sync <;>
    simpa [StoreView.HasRoom, StoreView.withIndex, StoreView.withObjects, VariableIndex.clean,
      variableIndexConfirmWrite, variableIndexMaxDumpSize, maxVariables] using room

theorem RemoveOutcome.hasRoom {env : Env} {view after : StoreView} {info : VariableInfo}
    (removal : RemoveOutcome env view info after) (room : view.HasRoom) : after.HasRoom := by
  cases removal <;> exact room

theorem storeAndFinish_outcome (config : BuildConfig) (env : Env) (store : UefiVariableStore)
    (room : store.view.HasRoom) (pos : Nat) (shouldSyncIndex : Bool) (timestamp : EfiTime)
    (fingerprint : BitVec 256) (request : AccessVariable) :
    let result := storeAndFinish config env store pos shouldSyncIndex timestamp fingerprint request
    FinishOutcome config env store.view pos shouldSyncIndex timestamp fingerprint
      request result.1 result.2.view := by
  rw [storeAndFinish]
  have synced : MaybeSynced config (env.fault true) store.view shouldSyncIndex
        (if shouldSyncIndex then syncVariableIndex config env store else (.success, store)).1
        (if shouldSyncIndex then syncVariableIndex config env store else (.success, store)).2.view ∧
      (if shouldSyncIndex then syncVariableIndex config env store
        else (.success, store)).2.view.HasRoom := by
    cases shouldSyncIndex with
    | false => exact ⟨.skipped, room⟩
    | true =>
      have sync := syncVariableIndex_outcome config env store room
      exact ⟨.synced sync, sync.hasRoom room⟩
  generalize (if shouldSyncIndex then syncVariableIndex config env store else (.success, store)) =
    result at synced ⊢
  obtain ⟨status, middle⟩ := result
  obtain ⟨sync, middleRoom⟩ := synced
  split_ifs with stores
  · obtain ⟨isSet, rfl⟩ := stores
    have data := storeVariableData_outcome config env
      { middle with
        variableIndex := middle.variableIndex.modify pos fun entry =>
          entry.withAuthentication timestamp fingerprint }
      ((middle.variableIndex.modify pos fun entry =>
        entry.withAuthentication timestamp fingerprint).info pos)
      request (middleRoom.modifyEntry pos fun entry => entry.withAuthentication timestamp fingerprint)
    exact .stored sync isSet data
  · refine .unstored sync ?_
    by_cases isSet : (middle.entry pos).isVariableSet = true
    · exact .inr fun success => stores ⟨isSet, success⟩
    · exact .inl (Bool.eq_false_iff.mpr isSet)

/-- Whether the code authenticates a request for the variable of an entry. -/
def needsAuthentication (config : BuildConfig) (info : VariableInfo) (request : AccessVariable) :
    Bool :=
  config.authVar && hasAny
    (if info.isVariableSet then info.attributes else request.attributes)
    efiVariableTimeBasedAuthenticatedWriteAccess

def requestAuthenticated (config : BuildConfig) (env : Env) (store : UefiVariableStore)
    (info : VariableInfo) (request : AccessVariable) : Except EfiStatus Authenticated :=
  (authenticateIfNeeded env store info (needsAuthentication config info request)
    (!info.isVariableSet) request).1

inductive SetAtOutcome (config : BuildConfig) (env : Env) (store : UefiVariableStore) (pos : Nat)
    (request : AccessVariable) : EfiStatus → StoreView → Prop
  | denied {status : EfiStatus}
      (refused : checkAccessPermittedOnSet store (store.entry pos).info
        request.data.length = status)
      (error : status ≠ .success) :
      SetAtOutcome config env store pos request status (store.view.modifyEntry pos withoutUnused)
  | unauthenticated {status : EfiStatus}
      (permitted : checkAccessPermittedOnSet store (store.entry pos).info
        request.data.length = .success)
      (refused : requestAuthenticated config env store (store.entry pos).info request =
        .error status) :
      SetAtOutcome config env store pos request status store.view
  | mismatched {authenticated : Authenticated}
      (permitted : checkAccessPermittedOnSet store (store.entry pos).info
        request.data.length = .success)
      (passed : requestAuthenticated config env store (store.entry pos).info request =
        .ok authenticated)
      (isSet : (store.entry pos).isVariableSet = true)
      (keeps : isRemoveOperation { request with data := authenticated.data } = false)
      (differs : request.attributes &&& ~~~efiVariableAppendWrite ≠ (store.entry pos).attributes) :
      SetAtOutcome config env store pos request .invalidParameter store.view
  | emptied {authenticated : Authenticated}
      (permitted : checkAccessPermittedOnSet store (store.entry pos).info
        request.data.length = .success)
      (passed : requestAuthenticated config env store (store.entry pos).info request =
        .ok authenticated)
      (unset : (store.entry pos).isVariableSet = false)
      (empty : authenticated.data.length = 0) :
      SetAtOutcome config env store pos request .notFound store.view
  | deleted {authenticated : Authenticated} {status : EfiStatus} {removed after : StoreView}
      (permitted : checkAccessPermittedOnSet store (store.entry pos).info
        request.data.length = .success)
      (passed : requestAuthenticated config env store (store.entry pos).info request =
        .ok authenticated)
      (isSet : (store.entry pos).isVariableSet = true)
      (removes : isRemoveOperation { request with data := authenticated.data } = true)
      (removal : RemoveOutcome env store.view (store.entry pos).info removed)
      (finish : FinishOutcome config env
        (removed.modifyEntry pos withoutVariable) pos
        (isNonVolatile request.attributes) authenticated.timestamp authenticated.fingerprint
        { request with data := authenticated.data } status after) :
      SetAtOutcome config env store pos request status after
  | updated {authenticated : Authenticated} {status : EfiStatus} {after : StoreView}
      (permitted : checkAccessPermittedOnSet store (store.entry pos).info
        request.data.length = .success)
      (passed : requestAuthenticated config env store (store.entry pos).info request =
        .ok authenticated)
      (isSet : (store.entry pos).isVariableSet = true)
      (keeps : isRemoveOperation { request with data := authenticated.data } = false)
      (same : request.attributes &&& ~~~efiVariableAppendWrite = (store.entry pos).attributes)
      (finish : FinishOutcome config env store.view pos false
        authenticated.timestamp authenticated.fingerprint
        { request with data := authenticated.data } status after) :
      SetAtOutcome config env store pos request status after
  | created {authenticated : Authenticated} {status : EfiStatus} {after : StoreView}
      (permitted : checkAccessPermittedOnSet store (store.entry pos).info
        request.data.length = .success)
      (passed : requestAuthenticated config env store (store.entry pos).info request =
        .ok authenticated)
      (unset : (store.entry pos).isVariableSet = false)
      (nonempty : authenticated.data.length ≠ 0)
      (finish : FinishOutcome config env
        (store.view.modifyEntry pos fun entry => entry.withVariable request.attributes) pos
        (isNonVolatile request.attributes) authenticated.timestamp authenticated.fingerprint
        { request with data := authenticated.data } status after) :
      SetAtOutcome config env store pos request status after

section

variable (config : BuildConfig) (env : Env) (store : UefiVariableStore)

/-- What the authentication of a request gives is what the request goes on with, and the view
stays as it is. -/
theorem authenticateIfNeeded_request (info : VariableInfo) (request : AccessVariable)
    (needed isNew : Bool) (isNeeded : needed = needsAuthentication config info request)
    (newness : isNew = !info.isVariableSet) :
    ∃ after, authenticateIfNeeded env store info needed isNew request =
      (requestAuthenticated config env store info request, after) ∧ after.view = store.view := by
  subst isNeeded newness
  refine ⟨(authenticateIfNeeded env store info _ _ request).2, rfl, ?_⟩
  unfold authenticateIfNeeded
  split
  · exact view_authenticateVariable _ _ _ _ _ _
  · rfl

section

variable (pos : Nat) (request : AccessVariable) (room : store.view.HasRoom)

include pos request room

section

variable (permitted : checkAccessPermittedOnSet store (store.entry pos).info request.data.length =
  .success)

include permitted

theorem setExistingVariable_outcome
    (isSet : (store.entry pos).isVariableSet = true) :
    SetAtOutcome config env store pos request
      (setExistingVariable config env store pos request).1
      (setExistingVariable config env store pos request).2.view := by
  obtain ⟨after, same, view⟩ := authenticateIfNeeded_request config env store
    (store.entry pos).info request (config.authVar && hasAny
      (store.entry pos).attributes
      efiVariableTimeBasedAuthenticatedWriteAccess) false
    (by rw [needsAuthentication, if_pos isSet]) (by rw [isSet, Bool.not_true])
  rw [setExistingVariable, same]
  cases authentication : requestAuthenticated config env store (store.entry pos).info
      request with
  | error status =>
    rw [view]
    exact .unauthenticated permitted authentication
  | ok authenticated =>
    obtain ⟨timestamp, fingerprint, data⟩ := authenticated
    dsimp only
    split_ifs with keeps differs same
    · have removal := removeVariableData_outcome env after (store.entry pos).info isSet
      rw [view] at removal
      generalize (removeVariableData env after (store.entry pos).info).2 = removed at removal ⊢
      have finish := storeAndFinish_outcome config env
        { removed with variableIndex := variableIndexClearVariable removed.variableIndex pos }
        ((removal.hasRoom room).modifyEntry pos withoutVariable) pos
        (isNonVolatile request.attributes) timestamp fingerprint { request with data := data }
      exact .deleted permitted authentication isSet keeps removal finish
    · rw [view]
      refine .mismatched permitted authentication isSet (Bool.eq_false_iff.mpr keeps) ?_
      intro same
      exact differs (by rw [← same, without_append_or])
    · rw [view]
      exact .mismatched permitted authentication isSet (Bool.eq_false_iff.mpr keeps) same
    · have finish := storeAndFinish_outcome config env after (by rw [view]; exact room) pos
        false timestamp fingerprint { request with data := data }
      rw [view] at finish
      exact .updated permitted authentication isSet (Bool.eq_false_iff.mpr keeps)
        (not_not.mp same) finish

theorem setNewVariable_outcome
    (unset : (store.entry pos).isVariableSet = false) :
    SetAtOutcome config env store pos request
      (setNewVariable config env store pos request).1
      (setNewVariable config env store pos request).2.view := by
  obtain ⟨after, same, view⟩ := authenticateIfNeeded_request config env store
    (store.entry pos).info request (config.authVar && hasAny request.attributes
      efiVariableTimeBasedAuthenticatedWriteAccess) true
    (by rw [needsAuthentication, unset]; rfl) (by rw [unset, Bool.not_false])
  rw [setNewVariable, same]
  cases authentication : requestAuthenticated config env store (store.entry pos).info
      request with
  | error status =>
    rw [view]
    exact .unauthenticated permitted authentication
  | ok authenticated =>
    obtain ⟨timestamp, fingerprint, data⟩ := authenticated
    dsimp only
    split_ifs with nonempty
    · have afterRoom : after.view.HasRoom := by rw [view]; exact room
      have finish := storeAndFinish_outcome config env
        { after with
          variableIndex := variableIndexSetVariable after.variableIndex pos request.attributes }
        (afterRoom.modifyEntry pos fun entry => entry.withVariable request.attributes) pos
        (isNonVolatile request.attributes) timestamp fingerprint { request with data := data }
      rw [show ({ after with
          variableIndex := variableIndexSetVariable after.variableIndex pos
            request.attributes } : UefiVariableStore).view = after.view.modifyEntry pos
          fun entry => entry.withVariable request.attributes from rfl, view] at finish
      exact .created permitted authentication unset nonempty finish
    · rw [view]
      exact .emptied permitted authentication unset (not_not.mp nonempty)

end

theorem setVariableAt_outcome :
    SetAtOutcome config env store pos request (setVariableAt config env store pos request).1
      (setVariableAt config env store pos request).2.view := by
  rw [setVariableAt]
  split
  · rename_i permitted
    split_ifs with unset
    · exact setExistingVariable_outcome config env store pos request room permitted unset
    · exact setNewVariable_outcome config env store pos request room permitted
        (Bool.eq_false_iff.mpr unset)
  · rename_i refused
    exact .denied rfl refused

end

end

inductive SetOutcome (config : BuildConfig) (env : Env) (store : UefiVariableStore)
    (request : AccessVariable) : EfiStatus → StoreView → Prop
  | invalid {status : EfiStatus} (error : status ≠ .success) :
      SetOutcome config env store request status store.view
  | full (absent : variableIndexFind store.variableIndex request.guid request.name = none)
      (refused : (addEntry store.variableIndex request.guid request.name).2 = none) :
      SetOutcome config env store request .outOfResources
        (store.view.withIndex (addEntry store.variableIndex request.guid request.name).1)
  | found {pos : Nat} {status : EfiStatus} {after : StoreView}
      (terminated : checkNameTerminator request.name = .success)
      (capable : checkCapabilities request.attributes = .success)
      (at_ : variableIndexFind store.variableIndex request.guid request.name = some pos)
      (outcome : SetAtOutcome config env store pos request status after) :
      SetOutcome config env store request status after
  | added {pos : Nat} {status : EfiStatus} {after : StoreView}
      (terminated : checkNameTerminator request.name = .success)
      (capable : checkCapabilities request.attributes = .success)
      (absent : variableIndexFind store.variableIndex request.guid request.name = none)
      (nonempty : request.data.length ≠ 0)
      (at_ : (addEntry store.variableIndex request.guid request.name).2 = some pos)
      (outcome : SetAtOutcome config env
        { store with variableIndex := (addEntry store.variableIndex request.guid request.name).1 }
        pos request status after) :
      SetOutcome config env store request status after

theorem addEntry_length (index : VariableIndex) (guid : EfiGuid) (name : Bytes) :
    (addEntry index guid name).1.entries.length = index.entries.length := by
  rw [addEntry]
  split
  · split
    · dsimp only
      split <;> simp
    · rfl
  · rfl

theorem uefiVariableStoreSetVariable_outcome (config : BuildConfig) (env : Env)
    (store : UefiVariableStore) (request : AccessVariable) (room : store.view.HasRoom) :
    SetOutcome config env store request (uefiVariableStoreSetVariable config env store request).1
      (uefiVariableStoreSetVariable config env store request).2.view := by
  rw [uefiVariableStoreSetVariable]
  split
  · rename_i error
    exact .invalid error
  · rename_i terminated
    split
    · rename_i error
      exact .invalid error
    · rename_i capable
      split
      · rename_i pos found
        exact .found (not_not.mp terminated) (not_not.mp capable) found
          (setVariableAt_outcome config env store pos request room)
      · rename_i absent
        split_ifs with nonempty
        · dsimp only
          split
          · rename_i pos added
            refine .added (not_not.mp terminated) (not_not.mp capable) absent nonempty added
              (setVariableAt_outcome config env _ pos request ?_)
            simp only [StoreView.HasRoom, UefiVariableStore.view, variableIndexMaxDumpSize,
              maxVariables, addEntry_length] at room ⊢
            exact room
          · rename_i refused
            exact .full absent refused
        · exact .invalid (by rintro ⟨⟩)

end SmmVariable
