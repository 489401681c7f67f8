import TrustedServices.Lib.Transition
import TrustedServices.SmmVariable.Frame

/- Whole runs of a device, with errors from any backend call and any allocation. -/
namespace SmmVariable

open Lib VariableEntry

inductive Request
  | setVariable (request : AccessVariable)
  | setVarCheckProperty (guid : EfiGuid) (name : Bytes) (property : VarCheckVariableProperty)
  | getVariable (guid : EfiGuid) (name : Bytes) (dataSize maxDataLen : Nat)
  | queryVariableInfo (attributes : Attributes)
  | setStorageLimits (attributes : Attributes) (totalCapacity maxVariableSize : Nat)
  | exitBootService

/-- The store after a request. The requests left out do not change it. -/
def serve (config : BuildConfig) (env : Env) (store : UefiVariableStore) :
    Request → UefiVariableStore
  | .setVariable request => (uefiVariableStoreSetVariable config env store request).2
  | .setVarCheckProperty guid name property =>
    (uefiVariableStoreSetVarCheckProperty config env store guid name property).2
  | .getVariable guid name dataSize maxDataLen =>
    (uefiVariableStoreGetVariable env store guid name dataSize maxDataLen).2
  | .queryVariableInfo attributes => (uefiVariableStoreQueryVariableInfo env store attributes).2
  | .setStorageLimits attributes totalCapacity maxVariableSize =>
    uefiVariableStoreSetStorageLimits store attributes totalCapacity maxVariableSize
  | .exitBootService => uefiVariableStoreExitBootService store

/-- A device that is off has its persistent objects only. -/
inductive Device
  | off (persistent : FaultyStore)
  | running (store : UefiVariableStore)

inductive Event
  | powerOn (env : Env)
  | powerOff
  | request (env : Env) (request : Request)

section

variable (config : BuildConfig) (limit : Nat)

/-- A device that is switched on has no volatile objects yet. -/
def Device.step : Device → Event → Device
  | .off persistent, .powerOn env =>
    match uefiVariableStoreInit config env limit persistent .fresh with
    | (.success, store) => .running store
    | (_, store) => .off store.persistentStore.storageBackend
  | .running store, .powerOff => .off store.persistentStore.storageBackend
  | .running store, .request env request => .running (serve config env store request)
  | device, _ => device

/-- The states of runs from an empty device in which `admits` allows every event. -/
abbrev RunReached (admits : Device → Event → Prop) : Device → Prop :=
  Reached (Device.step config limit) (.off .fresh) admits

def Reachable : Device → Prop :=
  RunReached config limit fun _ _ => True

def Device.run (events : List Event) : Device :=
  events.foldl (Device.step config limit) (.off .fresh)

end

def Device.store? : Device → Option UefiVariableStore
  | .off _ => none
  | .running store => some store

variable {device : Device} {config : BuildConfig} {names : Bytes → Prop}

theorem Device.eq_running {store : UefiVariableStore}
    (running : device.store? = some store) : device = .running store := by
  cases device with
  | off persistent => cases running
  | running last => rw [Option.some.inj running]

theorem reachable_run {limit : Nat} {events : List Event} {store : UefiVariableStore}
    (running : (Device.run config limit events).store? = some store) :
    Reachable config limit (.running store) := by
  have reached : Reachable config limit (Device.run config limit events) :=
    reached_foldl events (fun _ _ _ => trivial) .start
  rw [Device.eq_running running] at reached
  exact reached

/-- What holds after a run holds in a state that can be reached. -/
theorem exists_reachable {limit : Nat} (events : List Event) {holds : UefiVariableStore → Prop}
    (ran : ∃ store ∈ (Device.run config limit events).store?, holds store) :
    ∃ store, Reachable config limit (.running store) ∧ holds store := by
  obtain ⟨store, running, seen⟩ := ran
  exact ⟨store, reachable_run running, seen⟩

/-- Every name that a request may give an entry satisfies `names`. -/
def Event.Named (names : Bytes → Prop) : Event → Prop
  | .request _ (.setVariable variable_) =>
    checkNameTerminator variable_.name = .success → names variable_.name
  | .request _ (.setVarCheckProperty _ name _) =>
    checkNameTerminator name = .success → names name
  | _ => True

def Device.WellFormed (names : Bytes → Prop) (limit : Nat) : Device → Prop
  | .off persistent => CopiesWellFormed names limit persistent.objects
  | .running store => store.view.WellFormed names limit

/-- How setting check constraints on the entry at `pos` ends. -/
inductive PropertyOutcome (config : BuildConfig) (fault : Fault BackendCall) (view : StoreView)
    (pos : Nat) (property : VarCheckVariableProperty) : EfiStatus → StoreView → Prop
  | refused {status : EfiStatus} (error : variableCheckerSetConstraints property = .error status) :
      PropertyOutcome config fault view pos property status (view.modifyEntry pos withoutUnused)
  | constrained {constraints : VariableConstraints} {status : EfiStatus} {after : StoreView}
      (accepted : variableCheckerSetConstraints property = .ok constraints)
      (sync : SyncOutcome config fault
        (view.modifyEntry pos fun entry => entry.withConstraints constraints) status after) :
      PropertyOutcome config fault view pos property status (after.modifyEntry pos withoutUnused)

section

variable {config : BuildConfig} {names : Bytes → Prop} {limit : Nat}

theorem setVarCheckPropertyAt_outcome (config : BuildConfig) (env : Env) (store : UefiVariableStore)
    (room : store.view.HasRoom) (pos : Nat) (property : VarCheckVariableProperty) :
    PropertyOutcome config (env.fault true) store.view pos property
      (setVarCheckPropertyAt config env store pos property).1
      (setVarCheckPropertyAt config env store pos property).2.view := by
  rw [setVarCheckPropertyAt]
  cases checked : variableCheckerSetConstraints property with
  | error status => exact .refused checked
  | ok constraints =>
    have sync := syncVariableIndex_outcome config env
      { store with
        variableIndex := variableIndexSetConstraints store.variableIndex pos constraints }
      (room.modifyEntry pos fun entry => entry.withConstraints constraints)
    have outcome : PropertyOutcome config (env.fault true) store.view pos property _ _ :=
      .constrained checked sync
    exact outcome

theorem PropertyOutcome.wellFormed {fault : Fault BackendCall} {view after : StoreView} {pos : Nat}
    {property : VarCheckVariableProperty} {status : EfiStatus}
    (outcome : PropertyOutcome config fault view pos property status after)
    (valid : view.WellFormed names limit) : after.WellFormed names limit := by
  cases outcome with
  | refused _ => exact valid.modifyEntry pos _ (follows_withoutUnused _)
  | constrained _ sync =>
    exact (sync.wellFormed (valid.modifyEntry pos _
      (follows_withConstraints _ _))).modifyEntry pos _
      (follows_withoutUnused _)

theorem setVarCheckProperty_wellFormed (env : Env) {store : UefiVariableStore}
    (valid : store.view.WellFormed names limit) (guid : EfiGuid) {name : Bytes}
    (named : checkNameTerminator name = .success → names name) (property : VarCheckVariableProperty) :
    (uefiVariableStoreSetVarCheckProperty config env store guid name property).2.view.WellFormed
      names limit := by
  rw [uefiVariableStoreSetVarCheckProperty]
  split_ifs with terminated
  · exact valid
  · split
    · exact (setVarCheckPropertyAt_outcome config env store valid.hasRoom _ property).wellFormed valid
    · rename_i absent
      dsimp only
      split
      · rename_i pos added
        have extended := (addEntry_extends valid (named (not_not.mp terminated)) absent added).1
        exact (setVarCheckPropertyAt_outcome config env
          { store with variableIndex := (addEntry store.variableIndex guid name).1 }
          extended.hasRoom pos property).wellFormed extended
      · rename_i refused
        exact valid.follows (addEntry_follows refused)

theorem sameSettings_setBackend (store : UefiVariableStore) (isNv : Bool) (backend : FaultyStore) :
    store.view.SameSettings (store.setBackend isNv backend).view := by
  rw [view_setBackend]
  exact ⟨rfl, rfl, rfl⟩

section

variable (config : BuildConfig) (env : Env) (store : UefiVariableStore)

theorem sameSettings_readVariableIndex (uid : Nat) :
    store.view.SameSettings (readVariableIndex config env store uid).2.view := by
  have read := view_backendRead store env true .loadVariableIndex .getInfo uid
    (ObjectStore.getInfo uid)
  rw [readVariableIndex]
  generalize store.backendRead env true .loadVariableIndex .getInfo uid (ObjectStore.getInfo uid) =
    informed at read ⊢
  obtain ⟨size, informed⟩ := informed
  rw [← read]
  split
  · exact .refl _
  · generalize readIndexChunks config (env.fault true) uid _ 0 _ = loaded
    obtain ⟨status, backend⟩ := loaded
    have same := sameSettings_setBackend informed true backend
    cases status with
    | error error => exact same
    | ok data => exact ⟨same.isBootService, same.indexSyncBufferSize, same.settings⟩

theorem sameSettings_loadVariableIndex :
    store.view.SameSettings (loadVariableIndex config env store).2.view := by
  rw [loadVariableIndex]
  generalize getActiveVariableUid (env.fault true) store.persistentStore.storageBackend = active
  obtain ⟨status, backend⟩ := active
  have same := sameSettings_setBackend store true backend
  cases status with
  | error error => exact ⟨same.isBootService, same.indexSyncBufferSize, same.settings⟩
  | ok choice =>
    have read := sameSettings_readVariableIndex config env
      { store.setBackend true backend with
        activeVariableIndexUid := choice.1
        variableIndex.counter := choice.2 } choice.1
    exact same.trans ⟨read.isBootService, read.indexSyncBufferSize, read.settings⟩

theorem volatileStore_loadVariableIndex :
    (loadVariableIndex config env store).2.volatileStore = store.volatileStore := by
  unfold loadVariableIndex
  dsimp only
  split
  · rfl
  · unfold readVariableIndex
    dsimp only
    split
    · rfl
    · split <;> rfl

end

/-- The index restored from any of the stored copies is well formed. -/
theorem variableIndexRestore_wellFormed (few : limit < 2 ^ 31) (counter : BitVec 32)
    {data : Bytes} (nonempty : data ≠ []) (image : IndexImage names limit data) :
    let restored := (variableIndexRestore ⟨counter, (variableIndexInit limit).entries⟩ data).1
    restored.WellFormed names ∧ restored.maxVariables = limit := by
  rcases image with empty | ⟨index, kept, valid, rfl, counted, rfl⟩
  · exact absurd empty nonempty
  · obtain ⟨_, front, rest, isFront, entries, idle, size, _⟩ :=
      variableIndexRestore_take index (valid.stored few) counter kept counted
    generalize (variableIndexRestore ⟨counter, (variableIndexInit index.maxVariables).entries⟩
      (index.dump.take kept)).1 = restored at entries ⊢
    obtain ⟨restoredCounter, restoredEntries⟩ := restored
    subst entries
    refine ⟨restored_wellFormed valid isFront idle size _, ?_⟩
    simp only [VariableIndex.maxVariables, List.length_append, List.length_map] at size ⊢
    exact size

theorem entry_variableIndexInit (counter : BitVec 32) (limit pos : Nat) :
    VariableIndex.entry ⟨counter, (variableIndexInit limit).entries⟩ pos = .zero := by
  by_cases inside : pos < limit
  · simp [VariableIndex.entry, variableIndexInit, inside]
  · exact VariableIndex.entry_outside _ _ (by simpa [variableIndexInit] using inside)

theorem variableIndexInit_wellFormed (counter : BitVec 32) :
    VariableIndex.WellFormed names ⟨counter, (variableIndexInit limit).entries⟩ := by
  constructor
  · intro pos
    rw [entry_variableIndexInit]
    exact ⟨nofun, nofun, nofun, nofun, fun _ => rfl⟩
  · intro pos other _
    rw [entry_variableIndexInit, entry_variableIndexInit]
    exact apart_of_idle rfl

/-- Start-up over well-formed copies ends in a well-formed store. -/
theorem loadVariableIndex_wellFormed (config : BuildConfig) (env : Env) (few : limit < 2 ^ 31)
    {persistent : FaultyStore} (volatileStore : FaultyStore)
    (valid : CopiesWellFormed names limit persistent.objects) :
    let result := loadVariableIndex config env
      (initialStore config limit persistent volatileStore)
    CopiesWellFormed names limit (result.2.objects true) ∧
      (result.1 = .success → result.2.view.WellFormed names limit) := by
  have same := sameSettings_loadVariableIndex config env
    (initialStore config limit persistent volatileStore)
  obtain ⟨drops, outcome⟩ := loadVariableIndex_cases config env
    (initialStore config limit persistent volatileStore)
  generalize loadVariableIndex config env
    (initialStore config limit persistent volatileStore) = result
    at same drops outcome ⊢
  obtain ⟨status, store⟩ := result
  have copies : CopiesWellFormed names limit (store.objects true) :=
    valid.congr fun uid _ => (drops uid).imp_right fun dropped => dropped.2.1
  refine ⟨copies, fun success => ?_⟩
  have index : store.variableIndex.WellFormed names ∧
      store.maxVariables = limit := by
    rcases outcome with ⟨_, _, _, index, _⟩ |
      ⟨uid, counter, object, _, isIndex, present, nonempty, _, ⟨_, _, index⟩ | ⟨failed, _⟩⟩
    · rw [index]
      exact ⟨variableIndexInit_wellFormed 0, by
        simp [VariableIndex.maxVariables, initialStore, variableIndexInit]⟩
    · rw [index]
      exact variableIndexRestore_wellFormed few counter nonempty (valid uid isIndex object present)
    · rw [failed] at success
      cases success
  refine ⟨index.1, index.2, few, ?_, copies, ?_, ?_⟩
  · have size : store.indexSyncBufferSize =
        variableIndexMaxDumpSize (variableIndexInit limit) := same.indexSyncBufferSize
    have table := index.2
    show store.indexSyncBufferSize = variableIndexMaxDumpSize store.variableIndex
    rw [size]
    simp only [variableIndexMaxDumpSize, table]
    simp [VariableIndex.maxVariables, variableIndexInit]
  · rw [same.settings]
    rfl
  · rw [same.settings]
    rfl

variable {persistent volatileStore : FaultyStore}

theorem uefiVariableStoreInit_outcome {env : Env} {store : UefiVariableStore}
    (success : uefiVariableStoreInit config env limit persistent volatileStore =
      (.success, store)) :
    ∃ loaded, loadVariableIndex config env
        (initialStore config limit persistent volatileStore) = (.success, loaded) ∧
      store = purgeOrphanIndexEntries config env loaded := by
  rw [uefiVariableStoreInit] at success
  split_ifs at success ⊢
  · cases success
  · cases success
  · dsimp only at success
    split_ifs at success ⊢ with failed
    · exact ⟨_, eq_mk_of_fst failed, (Prod.mk.inj success).2.symm⟩
    · exact absurd (by rw [success]) failed

theorem uefiVariableStoreInit_wellFormed (env : Env) (few : limit < 2 ^ 31)
    {status : EfiStatus} {store : UefiVariableStore}
    (valid : CopiesWellFormed names limit persistent.objects)
    (result : uefiVariableStoreInit config env limit persistent volatileStore = (status, store)) :
    CopiesWellFormed names limit (store.objects true) ∧
      (status = .success → store.view.WellFormed names limit) := by
  obtain ⟨copies, index⟩ := loadVariableIndex_wellFormed config env few volatileStore valid
  by_cases success : status = .success
  · subst success
    obtain ⟨loaded, load, rfl⟩ := uefiVariableStoreInit_outcome result
    rw [load] at copies index
    have wellFormed := index rfl
    have purged := (purgeOrphanIndexEntries_outcome config env loaded
      wellFormed.hasRoom).wellFormed wellFormed
    exact ⟨purged.copies, fun _ => purged⟩
  · refine ⟨?_, fun same => absurd same success⟩
    rw [uefiVariableStoreInit] at result
    split_ifs at result ⊢
    · rw [← (Prod.mk.inj result).2]
      exact valid
    · rw [← (Prod.mk.inj result).2]
      exact valid
    · dsimp only at result
      split at result
      · exact absurd (Prod.mk.inj result).1.symm success
      · rw [result] at copies
        exact copies

end

section

variable {limit : Nat}

theorem serve_wellFormed (env : Env) {store : UefiVariableStore}
    (valid : store.view.WellFormed names limit) (request : Request)
    (named : (Event.request env request).Named names) :
    (serve config env store request).view.WellFormed names limit := by
  cases request with
  | setVariable variable_ =>
    exact (uefiVariableStoreSetVariable_outcome config env store variable_
      valid.hasRoom).wellFormed valid named
  | setVarCheckProperty guid name property =>
    exact setVarCheckProperty_wellFormed env valid guid named property
  | getVariable guid name dataSize maxDataLen =>
    rw [serve, view_getVariable]
    exact valid
  | queryVariableInfo attributes =>
    rw [serve, view_queryVariableInfo]
    exact valid
  | setStorageLimits attributes totalCapacity maxVariableSize =>
    rw [serve, uefiVariableStoreSetStorageLimits]
    split <;> exact { valid with }
  | exitBootService => exact { valid with }

theorem Device.step_wellFormed (few : limit < 2 ^ 31) (device : Device) (event : Event)
    (valid : device.WellFormed names limit) (named : event.Named names) :
    (device.step config limit event).WellFormed names limit := by
  cases device with
  | off persistent =>
    cases event with
    | powerOn env =>
      rw [Device.step]
      cases result : uefiVariableStoreInit config env limit persistent .fresh with
      | mk status store =>
        obtain ⟨copies, running⟩ := uefiVariableStoreInit_wellFormed env few valid result
        cases status <;> first | exact running rfl | exact copies
    | powerOff => exact valid
    | request env request => exact valid
  | running store =>
    cases event with
    | powerOn env => exact valid
    | powerOff => exact StoreView.WellFormed.copies valid
    | request env request => exact serve_wellFormed env valid request named

/-- Every state of every run is well formed, whatever fails on the way. -/
theorem RunReached.wellFormed {admits : Device → Event → Prop} (few : limit < 2 ^ 31)
    (named : ∀ device event, admits device event → event.Named names)
    (reached : RunReached config limit admits device) : device.WellFormed names limit := by
  refine reached.invariant (Device.WellFormed names limit) ?_ ?_
  · exact fun uid _ object present => nomatch present
  · exact fun device event _ valid admitted =>
      device.step_wellFormed few event valid (named device event admitted)

/-- Every name in the index has passed the check for its terminator. -/
theorem Reachable.wellFormed (few : limit < 2 ^ 31)
    (reachable : Reachable config limit device) :
    device.WellFormed Terminated limit := by
  refine RunReached.wellFormed few (fun _ event _ => ?_) reachable
  cases event with
  | request env request => cases request <;> first | exact id | trivial
  | _ => trivial

end

end SmmVariable
