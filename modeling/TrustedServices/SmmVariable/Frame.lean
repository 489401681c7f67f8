import TrustedServices.SmmVariable.Invariant

/- What a SetVariable request leaves alone. -/
namespace SmmVariable

open Lib VariableEntry VariableIndex StoreView

/-- What start-up and the requests for variables leave alone. -/
structure StoreView.SameSettings (before after : StoreView) : Prop where
  isBootService : after.isBootService = before.isBootService
  indexSyncBufferSize : after.indexSyncBufferSize = before.indexSyncBufferSize
  settings : after.settings = before.settings

theorem StoreView.SameSettings.refl (view : StoreView) : view.SameSettings view := ⟨rfl, rfl, rfl⟩

theorem StoreView.SameSettings.trans {first second third : StoreView}
    (before : first.SameSettings second) (after : second.SameSettings third) :
    first.SameSettings third :=
  ⟨after.isBootService.trans before.isBootService,
    after.indexSyncBufferSize.trans before.indexSyncBufferSize,
    after.settings.trans before.settings⟩

/-- The purge takes the variable of an entry for lost. -/
def TakenForLost (fault : Fault BackendCall) (objects : ObjectStore) (entry : VariableEntry) : Prop :=
  entry.isDumped = true ∧
    (objects entry.uid = none ∨ ∃ count error, fault count
      ⟨.purgeOrphanIndexEntries, .getInfo, entry.uid⟩ = some error)

/-- What becomes of an entry that a request is not about. -/
inductive Bystander (fault : Fault BackendCall) (objects : ObjectStore)
    (before after : VariableEntry) : Prop
  | same (inUse : after.inUse = before.inUse) (info : after.info = before.info)
  | purged (lost : TakenForLost fault objects before) (inUse : after.inUse = before.inUse)
      (info : after.info = { before.info with isVariableSet := false })

variable {fault : Fault BackendCall}

section

variable {objects : ObjectStore} {before after : VariableEntry}
  (bystander : Bystander fault objects before after)

include bystander

theorem Bystander.inUse_eq : after.inUse = before.inUse := by
  cases bystander <;> assumption

theorem Bystander.metadata_eq : after.info.metadata = before.info.metadata := by
  cases bystander with
  | same _ info => rw [info]
  | purged _ _ info => rw [info]

end

structure StoreView.Frame (fault : Fault BackendCall) (pos uid : Nat) (before after : StoreView) :
    Prop where
  settings : before.SameSettings after
  size : after.maxVariables = before.maxVariables
  entries : ∀ other, other ≠ pos → Bystander fault (before.objects true)
    (before.entry other) (after.entry other)
  objects : ∀ isNv other, other ≠ uid → ¬ isIndexUid other →
    after.objects isNv other = before.objects isNv other

/-- The other entries in use have other UIDs, none of them that of a copy of the index. -/
def StoreView.Separate (view : StoreView) (pos uid : Nat) : Prop :=
  ∀ other, other ≠ pos → (view.entry other).inUse = true →
    (view.entry other).uid ≠ uid ∧
      ¬ isIndexUid (view.entry other).uid

variable {config : BuildConfig} {fault : Fault BackendCall} {pos uid : Nat}
  {view before middle after : StoreView} {status : EfiStatus}

theorem StoreView.WellFormed.separate {names : Bytes → Prop} {limit : Nat}
    (valid : view.WellFormed names limit)
    (used : (view.entry pos).inUse = true) :
    view.Separate pos (view.entry pos).uid := by
  intro other distinct otherUsed
  exact ⟨(valid.index.apart other pos distinct otherUsed used).2, valid.data_uid other otherUsed⟩

theorem StoreView.Frame.refl (fault : Fault BackendCall) (pos uid : Nat) (view : StoreView) :
    view.Frame fault pos uid view :=
  ⟨.refl _, rfl, fun _ _ => .same rfl rfl, fun _ _ _ _ => rfl⟩

theorem StoreView.Frame.trans (first : before.Frame fault pos uid middle)
    (separate : before.Separate pos uid) (second : middle.Frame fault pos uid after) :
    before.Frame fault pos uid after where
  settings := first.settings.trans second.settings
  size := second.size.trans first.size
  objects isNv other distinct data :=
    (second.objects isNv other distinct data).trans (first.objects isNv other distinct data)
  entries other distinct := by
    have firstStep := first.entries other distinct
    have secondStep := second.entries other distinct
    have inUse := secondStep.inUse_eq.trans firstStep.inUse_eq
    cases firstStep with
    | purged lost used info =>
      cases secondStep with
      | same _ laterInfo => exact .purged lost inUse (laterInfo.trans info)
      | purged laterLost _ _ =>
        have unset := laterLost.1
        unfold isDumped at unset
        rw [info] at unset
        simp at unset
    | same used info =>
      cases secondStep with
      | same _ laterInfo => exact .same inUse (laterInfo.trans info)
      | purged laterLost _ laterInfo =>
        obtain ⟨dumped, reason⟩ := laterLost
        rw [info] at reason laterInfo
        have dumpedBefore : (before.entry other).isDumped = true := by
          unfold isDumped at dumped ⊢
          rwa [info, used] at dumped
        have isUsed : (before.entry other).inUse = true := by
          unfold isDumped at dumpedBefore
          simp only [Bool.and_eq_true] at dumpedBefore
          exact dumpedBefore.1.1
        obtain ⟨otherUid, data⟩ := separate other distinct isUsed
        rw [first.objects true _ otherUid data] at reason
        exact .purged ⟨dumpedBefore, reason⟩ inUse laterInfo

theorem StoreView.Frame.separate (frame : before.Frame fault pos uid after)
    (separate : before.Separate pos uid) : after.Separate pos uid := by
  intro other distinct used
  have step := frame.entries other distinct
  rw [step.inUse_eq] at used
  rw [step.metadata_eq]
  exact separate other distinct used

section

variable (fault : Fault BackendCall) (pos uid : Nat) (view : StoreView)

theorem StoreView.frame_modifyEntry (change : VariableEntry → VariableEntry) :
    view.Frame fault pos uid (view.modifyEntry pos change) where
  settings := ⟨rfl, rfl, rfl⟩
  size := by simp [modifyEntry, withIndex, VariableIndex.maxVariables]
  entries other distinct := by
    have same : (view.modifyEntry pos change).entry other =
        view.entry other := entry_modify_other _ _ _ _ distinct
    rw [same]
    exact .same rfl rfl
  objects _ _ _ _ := rfl

theorem StoreView.frame_put (isNv : Bool) (value : Option Object) :
    view.Frame fault pos uid (view.withObjects isNv ((view.objects isNv).put uid value)) where
  settings := ⟨rfl, rfl, rfl⟩
  size := rfl
  entries _ _ := .same rfl rfl
  objects backend other distinct _ := by
    by_cases same : backend = isNv
    · subst same
      simp [withObjects, distinct]
    · simp [withObjects, same]

end

section

variable (sync : SyncOutcome config fault view status after)

include sync

theorem SyncOutcome.entry_eq (pos : Nat) : after.entry pos = (view.entry pos).clean := by
  rw [← entry_clean]
  cases sync <;> rfl

theorem SyncOutcome.objects_eq (isNv : Bool)
    (data : ¬ isIndexUid uid) : after.objects isNv uid = view.objects isNv uid := by
  have apart : uid ≠ nextIndexUid view.activeVariableIndexUid :=
    fun same => data (same ▸ isIndexUid_nextIndexUid _)
  cases sync with
  | unwritten _ => rfl
  | written _ =>
    cases isNv with
    | true => simp [withObjects, apart]
    | false => simp [withObjects]
  | failed _ _ _ cut =>
    cases isNv with
    | false => simp [withObjects, withIndex]
    | true =>
      rcases cut with rfl | rfl | ⟨kept, _, _, rfl⟩ <;>
        simp [withObjects, withIndex, apart]

theorem SyncOutcome.sameSettings : view.SameSettings after := by
  cases sync <;> exact ⟨rfl, rfl, rfl⟩

theorem SyncOutcome.size_eq : after.maxVariables = view.maxVariables := by
  cases sync <;> simp [withObjects, withIndex, VariableIndex.maxVariables,
    VariableIndex.clean, variableIndexConfirmWrite]

theorem SyncOutcome.frame (pos uid : Nat) :
    view.Frame fault pos uid after where
  settings := sync.sameSettings
  size := sync.size_eq
  entries other _ := by
    rw [sync.entry_eq]
    exact .same rfl rfl
  objects isNv _ _ data := sync.objects_eq isNv data

end

variable {shouldSyncIndex : Bool} {env : Env}

section

variable (sync : MaybeSynced config fault view shouldSyncIndex status after)

include sync

theorem MaybeSynced.frame (pos uid : Nat) : view.Frame fault pos uid after := by
  cases sync with
  | skipped => exact .refl _ _ _ _
  | synced sync => exact sync.frame pos uid

theorem MaybeSynced.info_eq (pos : Nat) :
    (after.entry pos).inUse = (view.entry pos).inUse ∧
      (after.entry pos).info = (view.entry pos).info := by
  cases sync with
  | skipped => exact ⟨rfl, rfl⟩
  | synced sync =>
    rw [sync.entry_eq]
    exact ⟨rfl, rfl⟩

theorem MaybeSynced.objects_eq (isNv : Bool)
    (data : ¬ isIndexUid uid) : after.objects isNv uid = view.objects isNv uid := by
  cases sync with
  | skipped => rfl
  | synced sync => exact sync.objects_eq isNv data

theorem MaybeSynced.inside (inside : pos < view.entries.length) : pos < after.entries.length := by
  have size := (sync.frame pos 0).size
  unfold VariableIndex.maxVariables at size
  omega

end

theorem PurgeStep.bystander {objects : ObjectStore} {first next : VariableEntry}
    (step : PurgeStep fault objects first next) : Bystander fault objects first next := by
  cases step with
  | kept _ => exact .same rfl rfl
  | cleared dumped lost =>
    refine .purged ⟨dumped, lost⟩ ?_ ?_ <;>
      (unfold VariableEntry.withoutVariable markDirty; split <;> rfl)

/-- What a purge does to an entry, but for the mark that it is to be written. -/
theorem PurgeOutcome.step (purge : PurgeOutcome config fault view after) (pos : Nat) :
    ∃ next, PurgeStep fault (view.objects true) (view.entry pos) next ∧
      (after.entry pos).inUse = next.inUse ∧ (after.entry pos).info = next.info := by
  cases purge with
  | kept present =>
    refine ⟨_, .kept fun dumped => present _ (entry_mem (inside_of_inUse ?_)) dumped, rfl, rfl⟩
    simp only [isDumped, Bool.and_eq_true] at dumped
    exact dumped.1.1
  | @cleared entries _ _ steps sync =>
    refine ⟨VariableIndex.entry { view.variableIndex with entries := entries } pos,
      forall_entry_of_forall₂ steps (.kept fun dumped => absurd dumped (by decide)) pos, ?_⟩
    rw [sync.entry_eq]
    exact ⟨rfl, rfl⟩

theorem PurgeOutcome.bystander (purge : PurgeOutcome config fault view after) (pos : Nat) :
    Bystander fault (view.objects true) (view.entry pos) (after.entry pos) := by
  obtain ⟨next, step, used, stored⟩ := purge.step pos
  cases step.bystander with
  | same inUse info => exact .same (used.trans inUse) (stored.trans info)
  | purged lost inUse info => exact .purged lost (used.trans inUse) (stored.trans info)

theorem PurgeOutcome.frame (purge : PurgeOutcome config fault view after) (pos uid : Nat) :
    view.Frame fault pos uid after where
  settings := by
    cases purge with
    | kept _ => exact .refl _
    | cleared _ sync => exact ⟨sync.sameSettings.1, sync.sameSettings.2, sync.sameSettings.3⟩
  size := by
    cases purge with
    | kept _ => rfl
    | cleared steps sync => exact sync.size_eq.trans steps.length_eq.symm
  entries other _ := purge.bystander other
  objects isNv other _ data := by
    cases purge with
    | kept _ => rfl
    | cleared _ sync => exact sync.objects_eq isNv data

variable {info : VariableInfo}

theorem RemoveOutcome.frame
    (removal : RemoveOutcome env view info after) (fault : Fault BackendCall) (pos : Nat) :
    view.Frame fault pos info.uid after := by
  cases removal with
  | removed => exact view.frame_put fault pos _ _ _
  | failed _ => exact .refl _ _ _ _

theorem StoreOutcome.frame {request : AccessVariable}
    (store : StoreOutcome config env view info request status after) (pos : Nat) :
    view.Frame (env.fault true) pos info.uid after := by
  cases store with
  | stored _ => exact view.frame_put (env.fault true) pos _ _ _
  | refused _ _ _ => exact .refl _ _ _ _
  | purged _ _ _ purge => exact purge.frame pos _

theorem FinishOutcome.frame {timestamp : EfiTime}
    {fingerprint : BitVec 256} {request : AccessVariable}
    (finish : FinishOutcome config env view pos shouldSyncIndex timestamp fingerprint request
      status after) (inside : pos < view.entries.length)
    (separate : view.Separate pos (view.entry pos).uid) :
    view.Frame (env.fault true) pos (view.entry pos).uid after := by
  cases finish with
  | unstored sync _ =>
    exact (sync.frame pos _).trans separate (frame_modifyEntry _ _ _ _ _)
  | @stored middle _ sync isSet store =>
    have synced := sync.frame pos (view.entry pos).uid
    have recorded := synced.trans separate (middle.frame_modifyEntry (env.fault true) pos _
      fun entry => entry.withAuthentication timestamp fingerprint)
    have written := store.frame pos
    have uid : ((middle.modifyEntry pos fun entry =>
        entry.withAuthentication timestamp fingerprint).entry pos).uid =
        (view.entry pos).uid := by
      have insideMiddle := sync.inside inside
      have entry : (middle.modifyEntry pos fun entry =>
          entry.withAuthentication timestamp fingerprint).entry pos =
            (middle.entry pos).withAuthentication timestamp fingerprint :=
        entry_modify_self _ _ _ insideMiddle
      rw [entry]
      have kept := (sync.info_eq pos).2
      exact congrArg (fun info => info.uid) kept
    rw [uid] at written
    exact (recorded.trans separate written).trans separate (frame_modifyEntry _ _ _ _ _)

variable {names : Bytes → Prop} {limit : Nat} {store : UefiVariableStore} {request : AccessVariable}

theorem RemoveOutcome.variableIndex_eq
    (removal : RemoveOutcome env view info after) : after.variableIndex = view.variableIndex := by
  cases removal <;> rfl

theorem StoreView.entry_modifyEntry (inside : pos < view.entries.length)
    (change : VariableEntry → VariableEntry) :
    (view.modifyEntry pos change).entry pos = change (view.entry pos) :=
  entry_modify_self _ _ _ inside

theorem StoreView.inside_modifyEntry
    (inside : pos < view.entries.length) (other : Nat)
    (change : VariableEntry → VariableEntry) :
    pos < (view.modifyEntry other change).entries.length := by
  simpa [modifyEntry, withIndex] using inside

theorem VariableEntry.info_withoutVariable (entry : VariableEntry) :
    entry.withoutVariable.info = { entry.info with isVariableSet := false } := by
  unfold withoutVariable markDirty
  split <;> rfl

theorem VariableEntry.inUse_withoutVariable (entry : VariableEntry) :
    entry.withoutVariable.inUse = entry.inUse := by
  unfold withoutVariable markDirty
  split <;> rfl

/-- The entry of a variable whose object was removed, before the index is written. -/
theorem RemoveOutcome.cleared {view removed : StoreView}
    (removal : RemoveOutcome env view info removed)
    (inside : pos < view.entries.length) :
    let cleared := removed.modifyEntry pos VariableEntry.withoutVariable
    pos < cleared.entries.length ∧
      (cleared.entry pos).inUse = (view.entry pos).inUse ∧
      (cleared.entry pos).info =
        { (view.entry pos).info with isVariableSet := false } := by
  rw [← removal.variableIndex_eq] at inside ⊢
  dsimp only
  rw [removed.entry_modifyEntry inside]
  exact ⟨removed.inside_modifyEntry inside pos _, inUse_withoutVariable _, info_withoutVariable _⟩

theorem VariableEntry.info_withVariable (entry : VariableEntry) (attributes : Attributes) :
    (entry.withVariable attributes).info =
      { entry.info with metadata.attributes := attributes, isVariableSet := true } := by
  unfold withVariable markDirty
  split <;> rfl

theorem VariableEntry.inUse_withVariable (entry : VariableEntry) (attributes : Attributes) :
    (entry.withVariable attributes).inUse = entry.inUse := by
  unfold withVariable markDirty
  split <;> rfl

/-- The entry of a variable that a request creates, before its data is written. -/
theorem UefiVariableStore.entry_created (store : UefiVariableStore) (attributes : Attributes)
    (used : (store.entry pos).inUse = true) :
    let created := store.view.modifyEntry pos fun entry => entry.withVariable attributes
    pos < created.entries.length ∧
      (created.entry pos).inUse = true ∧
      (created.entry pos).info =
        { (store.entry pos).info with
          metadata.attributes := attributes, isVariableSet := true } := by
  have inside : pos < store.view.entries.length := inside_of_inUse used
  dsimp only
  rw [store.view.entry_modifyEntry inside]
  exact ⟨store.view.inside_modifyEntry inside pos _, (inUse_withVariable _ _).trans used,
    info_withVariable _ _⟩

theorem SetAtOutcome.frame (outcome : SetAtOutcome config env store pos request status after)
    (valid : store.view.WellFormed names limit)
    (used : (store.entry pos).inUse = true) :
    store.view.Frame (env.fault true) pos (store.entry pos).uid after := by
  have separate : store.view.Separate pos (store.entry pos).uid := valid.separate used
  have inside := inside_of_inUse used
  cases outcome with
  | denied _ _ => exact store.view.frame_modifyEntry _ _ _ _
  | unauthenticated _ _ => exact .refl _ _ _ _
  | mismatched _ _ _ _ _ => exact .refl _ _ _ _
  | emptied _ _ _ _ => exact .refl _ _ _ _
  | @deleted authenticated _ removed _ _ _ _ _ removal finish =>
    have cleared := (removal.frame (env.fault true) pos).trans separate
      (removed.frame_modifyEntry _ pos _ VariableEntry.withoutVariable)
    obtain ⟨insideCleared, _, entry⟩ := removal.cleared inside
    have uid : ((removed.modifyEntry pos VariableEntry.withoutVariable).entry
        pos).uid = (store.entry pos).uid := by
      rw [entry]
      rfl
    have finished := finish.frame insideCleared (uid ▸ cleared.separate separate)
    rw [uid] at finished
    exact cleared.trans separate finished
  | updated _ _ _ _ _ finish => exact finish.frame inside separate
  | created _ _ _ _ finish =>
    have set := store.view.frame_modifyEntry (env.fault true) pos
      (store.entry pos).uid fun entry => entry.withVariable request.attributes
    obtain ⟨insideCreated, _, entry⟩ := store.entry_created request.attributes used
    have uid : ((store.view.modifyEntry pos fun entry =>
        entry.withVariable request.attributes).entry pos).uid = (store.entry pos).uid := by
      rw [entry]
    have finished := finish.frame insideCreated (uid ▸ set.separate separate)
    rw [uid] at finished
    exact set.trans separate finished

end SmmVariable
