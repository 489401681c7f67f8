import TrustedServices.SmmVariable.Refinement
import TrustedServices.SmmVariable.SavedIndex

/- What a power cycle keeps of the non-volatile variables. -/
namespace SmmVariable

open Lib VariableEntry VariableIndex

section

variable {config : BuildConfig} {fault : Fault BackendCall} {names : Bytes → Prop}
  {limit pos : Nat} {current : BitVec 32 → EfiGuid × Bytes → Prop} {view after : StoreView}
  {status : EfiStatus}

theorem StoreView.awaitsSync_modifyEntry
    (loads : ∃ loaded, LoadsIndex limit (view.objects true) view.activeVariableIndexUid loaded ∧
      loaded.counter = view.counter)
    (inside : pos < view.entries.length) (change : VariableEntry → VariableEntry)
    (dirty : (change (view.entry pos)).dirty = true) :
    (view.modifyEntry pos change).AwaitsSync limit := by
  refine ⟨loads, ?_⟩
  rw [List.any_eq_true]
  refine ⟨change (view.entry pos), ?_, dirty⟩
  rw [← view.variableIndex.entry_modify_self pos change inside]
  exact entry_mem (view.inside_modifyEntry inside pos change)

theorem VariableEntry.dirty_withoutVariable {entry : VariableEntry}
    (isNv : isNonVolatile entry.attributes = true) :
    entry.withoutVariable.dirty = true := by
  unfold withoutVariable markDirty
  rw [if_pos isNv]

theorem VariableEntry.dirty_withVariable (entry : VariableEntry) {attributes : Attributes}
    (isNv : isNonVolatile attributes = true) : (entry.withVariable attributes).dirty = true := by
  unfold withVariable markDirty
  rw [if_pos isNv]

theorem purgeSteps_dirty {objects : ObjectStore} {before entries : List VariableEntry}
    (steps : List.Forall₂ (PurgeStep fault objects) before entries) :
    entries = before ∨ entries.any (·.dirty) = true := by
  induction steps with
  | nil => exact .inl rfl
  | cons step _ ih =>
    rw [List.any_cons, Bool.or_eq_true]
    cases step with
    | kept _ =>
      rcases ih with same | dirty
      · exact .inl (by rw [same])
      · exact .inr (.inr dirty)
    | cleared dumped _ =>
      exact .inr (.inl (dirty_withoutVariable ((isDumped_iff _).mp dumped).2))

theorem PurgeOutcome.saved (purge : PurgeOutcome config fault view after)
    (works : IndexCallsWork fault) (valid : view.WellFormed names limit)
    (saved : view.Saved limit current) :
    after.Saved limit current := by
  cases purge with
  | kept _ => exact saved
  | @cleared entries _ _ steps sync =>
    have follows : (view.withIndex { view.variableIndex with entries := entries }).WellFormed
        names limit :=
      valid.follows (follows_of_forall₂ (steps.imp fun _ _ step => step.follows))
    refine (sync.saved works follows ?_).2
    rcases purgeSteps_dirty steps with rfl | dirty
    · exact .inl saved
    · exact .inr ⟨saved.loads, dirty⟩

theorem StoreOutcome.saved {env : Env} {request : AccessVariable}
    (store : StoreOutcome config env view (view.entry pos).info request status after)
    (works : IndexCallsWork (env.fault true)) (valid : view.WellFormed names limit)
    (isSet : (view.entry pos).isSet = true)
    (saved : view.Saved limit current) : after.Saved limit current := by
  have data := valid.data_uid pos ((isSet_iff _).mp isSet).1
  cases store with
  | stored _ =>
    exact saved.put valid _ (fun isNv => (isDumped_iff _).mpr ⟨isSet, isNv⟩) data _
  | refused _ _ _ => exact saved
  | purged _ _ _ purge => exact purge.saved works valid saved

variable {shouldSyncIndex : Bool}

theorem MaybeSynced.saved (sync : MaybeSynced config fault view shouldSyncIndex status after)
    (works : IndexCallsWork fault) (valid : view.WellFormed names limit)
    (ready : view.Saved limit current ∨
      shouldSyncIndex = true ∧ view.AwaitsSync limit) : after.Saved limit current := by
  cases sync with
  | skipped =>
    rcases ready with saved | ⟨needed, _⟩
    · exact saved
    · cases needed
  | synced sync => exact (sync.saved works valid (ready.imp_right And.right)).2

theorem FinishOutcome.saved {env : Env} {timestamp : EfiTime}
    {fingerprint : BitVec 256} {request : AccessVariable}
    (finish : FinishOutcome config env view pos shouldSyncIndex timestamp fingerprint request
      status after)
    (works : IndexCallsWork (env.fault true)) (valid : view.WellFormed names limit)
    (outdated : ∀ counter, ¬ current counter (view.entry pos).key)
    (ready : view.Saved limit current ∨
      shouldSyncIndex = true ∧ view.AwaitsSync limit) : after.Saved limit current := by
  cases finish with
  | unstored sync _ =>
    exact (sync.saved works valid ready).modifyEntry _ (keepsRecord_withoutUnused _)
  | @stored middle _ sync isSet store =>
    have synced := sync.saved works valid ready
    have validMiddle := sync.wellFormed valid
    have used := validMiddle.inUse_of_set isSet
    have inside := inside_of_inUse used
    have entry := middle.entry_modifyEntry inside fun entry =>
      entry.withAuthentication timestamp fingerprint
    have recorded := synced.modifyEntry (fun entry =>
      entry.withAuthentication timestamp fingerprint)
      (keepsRecord_withAuthentication _ timestamp fingerprint (by
        have info := (sync.info_eq pos).2
        rw [info]
        exact outdated _))
    have validRecorded := validMiddle.modifyEntry pos
      (fun entry => entry.withAuthentication timestamp fingerprint)
      (follows_withAuthentication _ _ _)
    refine (store.saved works validRecorded ?_ recorded).modifyEntry _ (keepsRecord_withoutUnused _)
    rw [entry]
    exact (isSet_iff _).mpr ⟨used, isSet⟩

end

/-- The calls on the copies of the index work, and so does the removal of data by requests that do
not sync the index. -/
structure Steady (env : Env) (request : AccessVariable) : Prop where
  index : IndexCallsWork (env.fault true)
  removal : isNonVolatile request.attributes = false → ∀ count uid,
    env.fault true count ⟨.removeVariableData, .remove, uid⟩ = none

section

variable {config : BuildConfig} {env : Env} {names : Bytes → Prop} {limit pos : Nat}
  {current : BitVec 32 → EfiGuid × Bytes → Prop} {store : UefiVariableStore}
  {request : AccessVariable} {status : EfiStatus} {after : StoreView}

/-- A deletion is saved by the sync, or the record is left without data. -/
theorem RemoveOutcome.saved {removed : StoreView}
    (removal : RemoveOutcome env store.view (store.entry pos).info removed)
    (steady : Steady env request) (valid : store.view.WellFormed names limit)
    (saved : store.view.Saved limit current)
    (isSet : (store.entry pos).isVariableSet = true) :
    let cleared := removed.modifyEntry pos withoutVariable
    cleared.Saved limit current ∨
      isNonVolatile request.attributes = true ∧ cleared.AwaitsSync limit := by
  have used : (store.entry pos).inUse = true := valid.inUse_of_set isSet
  have data := valid.data_uid pos used
  have inside := inside_of_inUse used
  have unset : (store.entry pos).withoutVariable.isDumped = false := by
    unfold isDumped
    rw [info_withoutVariable, Bool.and_false, Bool.false_and]
  by_cases isNv : isNonVolatile (store.entry pos).attributes = true
  · by_cases synced : isNonVolatile request.attributes = true
    · refine .inr ⟨synced, StoreView.awaitsSync_modifyEntry ?_ ?_ _ ?_⟩
      · obtain ⟨loaded, loads, counted⟩ := saved.loads
        cases removal with
        | failed _ => exact ⟨loaded, loads, counted⟩
        | removed =>
          refine ⟨loaded, loads.congr fun uid isIndex => ?_, counted⟩
          have apart : uid ≠ (store.entry pos).uid := fun same => data (same ▸ isIndex)
          rw [isNv]
          simp [StoreView.withObjects, apart]
      · rw [removal.variableIndex_eq]
        exact inside
      · rw [removal.variableIndex_eq]
        exact dirty_withoutVariable isNv
    · cases removal with
      | failed injected =>
        obtain ⟨count, error, fails⟩ := injected
        rw [isNv, steady.removal (Bool.eq_false_iff.mpr synced)] at fails
        cases fails
      | removed =>
        rw [isNv]
        exact .inl (saved.delete inside data)
  · have unsaved : (store.entry pos).isDumped = false := by
      unfold isDumped
      rw [Bool.eq_false_iff.mpr isNv, Bool.and_false]
    have kept : removed.Saved limit current := by
      cases removal with
      | failed _ => exact saved
      | removed =>
        exact saved.put valid _ (fun holds => absurd holds isNv) data _
    refine .inl (kept.modifyEntry _ ?_)
    rw [removal.variableIndex_eq]
    exact keepsRecord_of_unsaved unsaved unset

theorem SetAtOutcome.saved (outcome : SetAtOutcome config env store pos request status after)
    (steady : Steady env request) (valid : store.view.WellFormed names limit)
    (used : (store.entry pos).inUse = true)
    (outdated : ∀ counter, ¬ current counter (store.entry pos).key)
    (saved : store.view.Saved limit current) : after.Saved limit current := by
  have inside := inside_of_inUse used
  cases outcome with
  | denied _ _ => exact saved.modifyEntry _ (keepsRecord_withoutUnused _)
  | unauthenticated _ _ => exact saved
  | mismatched _ _ _ _ _ => exact saved
  | emptied _ _ _ _ => exact saved
  | @deleted authenticated _ removed _ permitted passed isSet removes removal finish =>
    have cleared := removal.saved steady valid saved isSet
    have validCleared := (removal.wellFormed valid (valid.data_uid pos used)).modifyEntry pos _
      (follows_withoutVariable _)
    refine finish.saved steady.index validCleared ?_ cleared
    unfold VariableEntry.key at outdated ⊢
    rw [(removal.cleared inside).2.2]
    exact outdated
  | updated _ _ _ _ _ finish => exact finish.saved steady.index valid outdated (.inl saved)
  | created _ _ unset _ finish =>
    have validSet := valid.modifyEntry pos (fun entry => entry.withVariable request.attributes)
      (follows_withVariable _ _ used)
    refine finish.saved steady.index validSet ?_ ?_
    · unfold VariableEntry.key at outdated ⊢
      rw [store.view.entry_modifyEntry inside, info_withVariable]
      exact outdated
    · by_cases isNv : isNonVolatile request.attributes = true
      · exact .inr ⟨isNv, StoreView.awaitsSync_modifyEntry saved.loads inside _
          (dirty_withVariable _ isNv)⟩
      · refine .inl (saved.modifyEntry _ (keepsRecord_of_unsaved ?_ ?_))
        · unfold isDumped
          have unset_ : (store.view.entry pos).isVariableSet = false := unset
          rw [unset_, Bool.and_false, Bool.false_and]
        · unfold isDumped
          rw [info_withVariable]
          rw [Bool.eq_false_iff.mpr isNv, Bool.and_false]

theorem addEntry_saved {view : StoreView} (saved : view.Saved limit current) (guid : EfiGuid)
    (name : Bytes) :
    (view.withIndex (addEntry view.variableIndex guid name).1).Saved limit current := by
  have idle : ∀ {pos : Nat}, findFree view.variableIndex = some pos →
      (view.entry pos).isDumped = false := by
    intro pos free
    unfold isDumped
    rw [(findFree_some free).2, Bool.false_and, Bool.false_and]
  rw [addEntry]
  split
  · split
    · rename_i pos free
      dsimp only
      split
      · refine saved.modifyEntry _ (keepsRecord_of_unsaved (idle free) ?_)
        have unused := (findFree_some free).2
        unfold isDumped
        rw [unused, Bool.false_and, Bool.false_and]
      · exact saved.modifyEntry _ (keepsRecord_of_unsaved (idle free) rfl)
    · exact saved
  · exact saved

theorem SetOutcome.saved (outcome : SetOutcome config env store request status after)
    (steady : Steady env request)
    (valid : store.view.WellFormed Terminated limit)
    (outdated : ∀ counter, ¬ current counter (request.guid, request.name))
    (saved : store.view.Saved limit current) : after.Saved limit current := by
  cases outcome with
  | invalid _ => exact saved
  | full _ _ => exact addEntry_saved saved request.guid request.name
  | found _ _ at_ outcome =>
    obtain ⟨used, sameGuid, sameName⟩ := names_of_findVariable at_
    refine outcome.saved steady valid used ?_ saved
    unfold VariableEntry.key
    rw [sameGuid, sameName]
    exact outdated
  | @added pos _ _ terminated _ absent _ at_ outcome =>
    obtain ⟨extended, entry⟩ := addEntry_extends valid terminated absent at_
    refine outcome.saved steady extended ?_ ?_ (addEntry_saved saved request.guid request.name)
    · rw [entry]
      rfl
    · rw [entry]
      exact outdated

theorem PropertyOutcome.saved {fault : Fault BackendCall} {view : StoreView}
    {property : VarCheckVariableProperty}
    (outcome : PropertyOutcome config fault view pos property status after)
    (works : IndexCallsWork fault) (valid : view.WellFormed names limit)
    (saved : view.Saved limit current) :
    after.Saved limit current := by
  cases outcome with
  | refused _ => exact saved.modifyEntry _ (keepsRecord_withoutUnused _)
  | @constrained constraints _ _ _ sync =>
    have constrained := saved.modifyEntry (fun entry => entry.withConstraints constraints)
      (keepsRecord_withConstraints (view.entry pos) _)
    have validConstrained := valid.modifyEntry pos
      (fun entry => entry.withConstraints constraints)
      (follows_withConstraints _ _)
    exact (sync.saved works validConstrained (.inl constrained)).2.modifyEntry _
      (keepsRecord_withoutUnused _)

section

variable (works : IndexCallsWork (env.fault true))
  (valid : store.view.WellFormed Terminated limit) (saved : store.view.Saved limit current)

include works valid saved

theorem setVarCheckProperty_saved
    (guid : EfiGuid) (name : Bytes) (property : VarCheckVariableProperty) :
    (uefiVariableStoreSetVarCheckProperty config env store guid name property).2.view.Saved
      limit current := by
  have added := addEntry_saved saved guid name
  unfold uefiVariableStoreSetVarCheckProperty
  split_ifs with terminated
  · exact saved
  · split
    · exact (setVarCheckPropertyAt_outcome config env store valid.hasRoom _ property).saved works
        valid saved
    · rename_i absent
      dsimp only
      split
      · rename_i pos taken
        have extended := (addEntry_extends valid (not_not.mp terminated) absent taken).1
        exact (setVarCheckPropertyAt_outcome config env
          { store with variableIndex := (addEntry store.variableIndex guid name).1 }
          extended.hasRoom pos property).saved works extended added
      · exact added

theorem serve_saved (request : Request) (other : ∀ variable_, request ≠ .setVariable variable_) :
    (serve config env store request).view.Saved limit current := by
  cases request with
  | setVariable variable_ => exact absurd rfl (other variable_)
  | setVarCheckProperty guid name property =>
    exact setVarCheckProperty_saved works valid saved guid name property
  | getVariable guid name dataSize maxDataLen =>
    rw [serve, view_getVariable]
    exact saved
  | queryVariableInfo attributes =>
    rw [serve, view_queryVariableInfo]
    exact saved
  | setStorageLimits attributes totalCapacity maxVariableSize =>
    rw [serve, uefiVariableStoreSetStorageLimits]
    split <;> exact saved.congr rfl rfl rfl fun _ => keepsRecord_of_info rfl rfl
  | exitBootService =>
    exact saved.congr rfl rfl rfl fun _ => keepsRecord_of_info rfl rfl

end

variable {persistent : FaultyStore}

/-- Start-up from a well-formed copy of the index. -/
theorem loadVariableIndex_saved (works : IndexCallsWork (env.fault true))
    {loaded : UefiVariableStore}
    (load : loadVariableIndex config env (initialStore config limit persistent .fresh) =
      (.success, loaded)) : loaded.view.Saved limit current := by
  have loads := loadsIndex_of_success config works persistent .fresh (by rw [load])
  have drops := (loadVariableIndex_cases config env (initialStore config limit persistent .fresh)).1
  rw [load] at loads drops
  refine ⟨loaded.variableIndex, loads.drops drops, rfl, ?_, ?_⟩
  · exact fun pos dumped => ⟨pos, dumped, .refl _⟩
  · exact fun at_ dumped _ => ⟨at_, dumped, rfl⟩

theorem uefiVariableStoreInit_saved (works : IndexCallsWork (env.fault true))
    (few : limit < 2 ^ 31) (copies : CopiesWellFormed names limit persistent.objects)
    (started : uefiVariableStoreInit config env limit persistent .fresh =
      (.success, store)) : store.view.Saved limit current := by
  obtain ⟨loaded, load, rfl⟩ := uefiVariableStoreInit_outcome started
  have valid := (loadVariableIndex_wellFormed config env few .fresh copies).2
  rw [load] at valid
  exact (purgeOrphanIndexEntries_outcome config env loaded (valid rfl).hasRoom).saved works
    (valid rfl) (loadVariableIndex_saved works load)

/-- Events in which the calls on the copies of the index work, and the removal of data by requests
that do not sync the index. Any other call may fail. -/
def SteadyEvent (_ : Device) : Event → Prop
  | .powerOn env => IndexCallsWork (env.fault true)
  | .powerOff => True
  | .request env (.setVariable request) => Steady env request
  | .request env _ => IndexCallsWork (env.fault true)

/-- A device that is on has saved its non-volatile variables. -/
structure Device.Durable (limit : Nat) (device : Device) : Prop where
  wellFormed : device.WellFormed Terminated limit
  saved : ∀ store, device = .running store → store.view.Saved limit fun _ _ => False

theorem Device.step_durable (few : limit < 2 ^ 31) {device : Device} {event : Event}
    (durable : device.Durable limit) (steady : SteadyEvent device event) :
    (device.step config limit event).Durable limit := by
  have wellFormed : (device.step config limit event).WellFormed Terminated limit := by
    refine device.step_wellFormed few event durable.wellFormed ?_
    cases event with
    | request env request => cases request <;> first | exact id | trivial
    | _ => trivial
  refine ⟨wellFormed, fun after ended => ?_⟩
  cases device with
  | off persistent =>
    cases event with
    | powerOn env =>
      rw [Device.step] at ended
      cases result : uefiVariableStoreInit config env limit persistent .fresh with
      | mk status store =>
        rw [result] at ended
        split at ended
        · rename_i same
          obtain ⟨rfl, rfl⟩ := Prod.mk.inj same
          obtain rfl := Device.running.inj ended
          exact uefiVariableStoreInit_saved steady few durable.wellFormed result
        · cases ended
    | powerOff => cases ended
    | request env request => cases ended
  | running store =>
    have saved := durable.saved store rfl
    cases event with
    | powerOn env =>
      obtain rfl := Device.running.inj ended
      exact saved
    | powerOff => cases ended
    | request env request =>
      obtain rfl := Device.running.inj ended
      have valid : store.view.WellFormed Terminated limit := durable.wellFormed
      cases request with
      | setVariable request =>
        exact (uefiVariableStoreSetVariable_outcome config env store request
          valid.hasRoom).saved steady valid (fun _ => id) saved
      | _ => exact serve_saved steady valid saved _ (by rintro _ ⟨⟩)

end

def VariableMap.nonVolatile (map : VariableMap) : VariableMap := fun key =>
  (map key).filter (isNonVolatile ·.1)

variable {config : BuildConfig} {limit : Nat} {names : Bytes → Prop}
  {fault : Fault BackendCall} {index : VariableIndex}

/-- A purge clears only what has no data. -/
theorem PurgeOutcome.values_eq {view after : StoreView}
    (purge : PurgeOutcome config fault view after) (works : ∀ count call, fault count call = none)
    (valid : view.WellFormed names limit) :
    after.values = view.values := by
  have validAfter := purge.wellFormed valid
  funext key
  apply Option.ext
  intro value
  rw [values_eq_some_iff validAfter.index, values_eq_some_iff valid.index]
  apply exists_congr
  intro pos
  rw [(purge.frame (pos + 1) smmVariableIndexStorageAUid).valueAt_eq (purgeFinds_of_works works) ?_
    (Nat.ne_of_lt (Nat.lt_succ_self pos))]
  intro other _ used
  have data := valid.data_uid other used
  exact ⟨fun same => data (same ▸ .inl rfl), data⟩

/-- What a purge keeps of the non-volatile variables has data. -/
theorem PurgeOutcome.kept_entry {view after : StoreView} {pos : Nat}
    (purge : PurgeOutcome config fault view after)
    (dumped : (after.entry pos).isDumped = true) :
    (after.entry pos).info = (view.entry pos).info ∧
      (view.entry pos).isDumped = true ∧
      view.objects true (view.entry pos).uid ≠ none := by
  obtain ⟨next, step, used, info⟩ := purge.step pos
  rw [isDumped_iff, isSet_iff, used, info] at dumped
  rw [info]
  cases step with
  | kept present =>
    have saved := (isDumped_iff _).mpr ⟨(isSet_iff _).mpr dumped.1, dumped.2⟩
    exact ⟨rfl, saved, present saved⟩
  | cleared _ _ =>
    rw [info_withoutVariable] at dumped
    cases dumped.1.2

theorem PurgeOutcome.isDumped_of_set {view after : StoreView} {pos : Nat}
    (purge : PurgeOutcome config fault view after)
    (allSaved : ∀ pos, (view.entry pos).isSet = true →
      (view.entry pos).isDumped = true)
    (isSet : (after.entry pos).isSet = true) :
    (after.entry pos).isDumped = true := by
  cases purge.bystander pos with
  | same inUse info =>
    have setBefore : (view.entry pos).isSet = true := by
      rw [isSet_iff, inUse, info] at isSet
      exact (isSet_iff _).mpr isSet
    rw [isDumped_iff, info]
    exact ⟨isSet, ((isDumped_iff _).mp (allSaved pos setBefore)).2⟩
  | purged _ _ info =>
    rw [isSet_iff, info] at isSet
    cases isSet.2

/-- An error-free start-up loads the saved index over the same data and purges it. -/
theorem uefiVariableStoreInit_loads (config : BuildConfig) {calm : Env} (works : calm.ErrorFree)
    (few : limit < 2 ^ 31) {persistent : FaultyStore} {active : Nat}
    (copies : CopiesWellFormed names limit persistent.objects)
    (loads : LoadsIndex limit persistent.objects active index) :
    ∃ loaded again : UefiVariableStore,
      uefiVariableStoreInit config calm limit persistent .fresh = (.success, again) ∧
      loaded.variableIndex = index ∧
      (∀ uid, ¬ isIndexUid uid → loaded.view.objects true uid = persistent.objects uid) ∧
      loaded.view.WellFormed names limit ∧ loaded.isBootService = true ∧
      PurgeOutcome config (calm.fault true) loaded.view again.view := by
  obtain ⟨success, _, sameIndex⟩ := loadVariableIndex_loads config
    (fun count call _ => works.calls true count call) persistent .fresh loads
  have drops := (loadVariableIndex_cases config calm
    (initialStore config limit persistent .fresh)).1
  have wellFormed := (loadVariableIndex_wellFormed config calm few .fresh copies).2 success
  refine ⟨_, _, ?_, sameIndex, ?_, wellFormed,
    (sameSettings_loadVariableIndex config calm _).isBootService,
    purgeOrphanIndexEntries_outcome config calm _ wellFormed.hasRoom⟩
  · unfold uefiVariableStoreInit
    simp only [works.allocations, Bool.not_true, Bool.false_eq_true, ↓reduceIte, success]
  · intro uid data
    rcases drops uid with same | dropped
    · exact same
    · exact absurd dropped.1 data

/-- Of the variables in memory, start-up restores the non-volatile ones. -/
theorem StoreView.SavedAs.values_restored {current : EfiGuid × Bytes → Prop}
    {view loaded : StoreView} (savedAs : view.SavedAs limit current index)
    (valid : view.WellFormed names limit)
    (validLoaded : loaded.WellFormed names limit) (sameIndex : loaded.variableIndex = index)
    (objects : ∀ uid, ¬ isIndexUid uid → loaded.objects true uid = view.objects true uid) :
    loaded.values = VariableMap.nonVolatile view.values := by
  have allSaved := (savedAs.loads.wellFormed valid.few valid.copies).2
  subst sameIndex
  -- An entry and its record stand for the same variable.
  have sameValue : ∀ {at_ pos : Nat}, (loaded.entry at_).isDumped = true →
      (view.entry pos).isDumped = true →
      (loaded.entry at_).info.metadata.identity =
        (view.entry pos).info.metadata.identity →
      loaded.valueAt at_ = view.valueAt pos := by
    intro at_ pos recordDumped dumped identity
    obtain ⟨recordSet, recordNv⟩ := (isDumped_iff _).mp recordDumped
    obtain ⟨isSet, isNv⟩ := (isDumped_iff _).mp dumped
    obtain ⟨key, rest⟩ := Prod.mk.inj identity
    obtain ⟨attributes, uid⟩ := Prod.mk.inj rest
    have data := valid.data_uid pos ((isSet_iff _).mp isSet).1
    have sameKey : (loaded.entry at_).key = (view.entry pos).key := key
    rw [valueAt_of_set recordSet, valueAt_of_set isSet, recordNv, isNv, uid, objects _ data,
      sameKey, attributes]
  funext key
  apply Option.ext
  intro value
  unfold VariableMap.nonVolatile
  rw [values_eq_some_iff validLoaded.index, Option.filter_eq_some_iff, values_eq_some_iff valid.index]
  constructor
  · rintro ⟨at_, found⟩
    obtain ⟨recordSet, _, attributes, present⟩ := set_of_valueAt found
    have recordDumped := allSaved at_ recordSet
    have recordNv := ((isDumped_iff _).mp recordDumped).2
    have data := validLoaded.data_uid at_ ((isSet_iff _).mp recordSet).1
    rw [recordNv, objects _ data] at present
    obtain ⟨pos, dumped, identity⟩ := savedAs.stale at_ recordDumped present
    refine ⟨⟨pos, ?_⟩, ?_⟩
    · rw [← sameValue recordDumped dumped identity]
      exact found
    · rw [← attributes] at recordNv
      exact recordNv
  · rintro ⟨⟨pos, found⟩, isNv⟩
    obtain ⟨isSet, _, attributes, _⟩ := set_of_valueAt found
    have dumped : (view.entry pos).isDumped = true := by
      rw [isDumped_iff, ← attributes]
      exact ⟨isSet, isNv⟩
    obtain ⟨at_, recordDumped, records⟩ := savedAs.kept pos dumped
    exact ⟨at_, (sameValue recordDumped dumped records.identity).trans found⟩

/-- As long as no call on the copies of the index fails, and no removal of data by a request
without the non-volatile attribute, a power cycle keeps exactly the non-volatile variables. -/
theorem nonVolatile_survives_restart (few : limit < 2 ^ 31) {persistent : FaultyStore}
    (reachable : Reachable config limit (.off persistent)) {store : UefiVariableStore}
    (reached : Reached (Device.step config limit) (.off persistent) SteadyEvent
      (.running store)) {calm : Env} (works : calm.ErrorFree) :
    ∃ again, uefiVariableStoreInit config calm limit store.persistentStore.storageBackend
        .fresh = (.success, again) ∧
      again.view.values = VariableMap.nonVolatile store.view.values ∧
      ∀ guid name dataSize maxDataLen, checkNameTerminator name = .success →
        AnswersFrom (store.view.values (guid, name)) store.isBootService dataSize maxDataLen
          (uefiVariableStoreGetVariable calm store guid name dataSize maxDataLen).1 ∧
        AnswersFrom (VariableMap.nonVolatile store.view.values (guid, name)) true dataSize maxDataLen
          (uefiVariableStoreGetVariable calm again guid name dataSize maxDataLen).1 := by
  have durable : (Device.running store).Durable limit :=
    reached.invariant (Device.Durable limit) ⟨reachable.wellFormed few, nofun⟩
      fun _ _ _ holds steady => Device.step_durable few holds steady
  have valid : store.view.WellFormed Terminated limit := durable.wellFormed
  obtain ⟨index, savedAs⟩ := durable.saved store rfl
  obtain ⟨loaded, again, started, sameIndex, objects, validLoaded, phase, purge⟩ :=
    uefiVariableStoreInit_loads config works few valid.copies savedAs.loads
  have values : again.view.values = VariableMap.nonVolatile store.view.values := by
    rw [purge.values_eq (works.calls true) validLoaded]
    exact savedAs.values_restored valid validLoaded sameIndex objects
  have phaseAgain : again.isBootService = true :=
    (purge.frame 0 0).settings.isBootService.trans phase
  refine ⟨again, started, values, ?_⟩
  intro guid name dataSize maxDataLen terminated
  rw [getVariable_answer (Env.reads_of_works works.calls),
    getVariable_answer (Env.reads_of_works works.calls),
    if_neg (not_not_intro terminated), if_neg (not_not_intro terminated)]
  refine ⟨answersFrom_readAnswer _ _ _ _ _ _, ?_⟩
  have restored := answersFrom_readAnswer again.view guid name again.isBootService dataSize maxDataLen
  rw [values] at restored
  rw [phaseAgain] at restored ⊢
  exact restored

/-- Creating a copy of the index fails, nothing else does. -/
def Env.failingSync : Env :=
  { Env.calm with
    fault := fun _ _ call =>
      if call.site = .syncVariableIndex ∧ call.op = .create then some .hardwareFailure else none }

/-- Storing the data of the first variable fails, nothing else does. -/
def Env.failingData : Env :=
  { Env.calm with
    fault := fun _ _ call =>
      if call = ⟨.storeOverwrite, .set, 1⟩ then some .hardwareFailure else none }

/-- The variable `A`, whose data is refused and then stored on a retry, survives. -/
theorem nonVolatile_survives_restart_retry :
    ∃ store again, Reachable (.standard false) 3 (.running store) ∧
      uefiVariableStoreInit (.standard false) .calm 3 store.persistentStore.storageBackend .fresh =
        (.success, again) ∧
      again.view.values (.zero, [0x41, 0, 0, 0]) = some (7#32, [1]) := by
  let request : AccessVariable := ⟨.zero, 7#32, [0x41, 0, 0, 0], [1]⟩
  have calm : IndexCallsWork (Env.calm.fault true) := fun _ _ _ => rfl
  have failing : IndexCallsWork (Env.failingData.fault true) := by
    intro count call isIndex
    apply if_neg
    rintro rfl
    rcases isIndex with same | same <;> cases same
  have isNv : isNonVolatile request.attributes ≠ false := by decide
  have steady : Steady .failingData request := ⟨failing, fun synced => absurd synced isNv⟩
  have retry : Steady .calm request := ⟨calm, fun synced => absurd synced isNv⟩
  let events : List Event := [.powerOn .calm, .request .failingData (.setVariable request),
    .request .calm (.setVariable request)]
  obtain ⟨store, running, value⟩ : ∃ store ∈ (Device.run (.standard false) 3 events).store?,
      store.view.values (.zero, [0x41, 0, 0, 0]) = some (7#32, [1]) := by
    decide +kernel
  have reached : Reached (Device.step (.standard false) 3) (.off .fresh) SteadyEvent
      (Device.run (.standard false) 3 events) := by
    refine reached_foldl _ ?_ .start
    simp only [events, List.forall_mem_cons]
    exact ⟨fun _ => calm, fun _ => steady, fun _ => retry, nofun⟩
  rw [Device.eq_running running] at reached
  obtain ⟨again, started, values, _⟩ :=
    nonVolatile_survives_restart (by decide) .start reached Env.calm_errorFree
  refine ⟨store, again, reachable_run running, started, ?_⟩
  rw [values, VariableMap.nonVolatile, value]
  rfl

/-- After a create whose sync has failed, the retry succeeds, but the variable does not survive. -/
theorem setVariable_retry_lost :
    let request : AccessVariable := ⟨.zero, 7#32, [0x41, 0, 0, 0], [1]⟩
    ∃ store, Reachable (.standard false) 3 (.running store) ∧
      let retried := uefiVariableStoreSetVariable (.standard false) .calm store request
      let again := (uefiVariableStoreInit (.standard false) .calm 3
        retried.2.persistentStore.storageBackend .fresh).2
      retried.1 = .success ∧
      (uefiVariableStoreGetVariable .calm retried.2 .zero [0x41, 0, 0, 0] 16 16).1.data = [1] ∧
      (uefiVariableStoreGetVariable .calm again .zero [0x41, 0, 0, 0] 16 16).1.status = .notFound := by
  intro request
  exact exists_reachable [.powerOn .calm, .request .failingSync (.setVariable request)]
    (by decide +kernel)

end SmmVariable
