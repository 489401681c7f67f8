import TrustedServices.SmmVariable.WellFormed

/- Every outcome of a request keeps the store well formed, whatever calls fail. -/
namespace SmmVariable

open Lib VariableEntry VariableIndex StoreView

structure StoreView.WellFormed (names : Bytes → Prop) (limit : Nat) (view : StoreView) :
    Prop where
  index : view.variableIndex.WellFormed names
  size : view.maxVariables = limit
  few : limit < 2 ^ 31
  room : view.indexSyncBufferSize = variableIndexMaxDumpSize view.variableIndex
  copies : CopiesWellFormed names limit (view.objects true)
  persistentFlag : (view.settings true).1 = true
  volatileFlag : (view.settings false).1 = false

variable {config : BuildConfig} {fault : Fault BackendCall} {names : Bytes → Prop}
  {limit : Nat} {view after : StoreView} {status : EfiStatus}

theorem StoreView.WellFormed.hasRoom (valid : view.WellFormed names limit) : view.HasRoom :=
  le_of_eq valid.room.symm

variable {index : VariableIndex} {env : Env} {shouldSyncIndex : Bool} {info : VariableInfo}
  {pos : Nat} {timestamp : EfiTime} {fingerprint : BitVec 256}

theorem not_isIndexUid_of_le {uid : Nat} (few : limit < 2 ^ 31) (small : uid ≤ limit) :
    ¬ isIndexUid uid := by
  rintro (same | same)
  · rw [same, smmVariableIndexStorageAUid] at small
    omega
  · rw [same, smmVariableIndexStorageBUid] at small
    omega

theorem PurgeStep.follows {objects : ObjectStore} {before next : VariableEntry}
    (step : PurgeStep fault objects before next) : before.Follows next := by
  cases step with
  | kept _ => exact .refl _
  | cleared _ _ => exact before.follows_withoutVariable

variable {before next : VariableIndex}

/-- A relation between the entries of two tables holds position by position. -/
theorem forall_entry_of_forall₂ {relation : VariableEntry → VariableEntry → Prop}
    (steps : List.Forall₂ relation before.entries next.entries)
    (outside : relation .zero .zero) (pos : Nat) : relation (before.entry pos) (next.entry pos) := by
  obtain ⟨sized, related⟩ := List.forall₂_iff_get.mp steps
  by_cases inside : pos < before.entries.length
  · rw [before.entry_inside _ inside, next.entry_inside _ (by omega)]
    exact related pos inside (by omega)
  · rw [before.entry_outside _ (by omega), next.entry_outside _ (by omega)]
    exact outside

theorem VariableIndex.follows_of_forall₂
    (steps : List.Forall₂ VariableEntry.Follows before.entries next.entries) :
    before.Follows next :=
  ⟨steps.length_eq.symm, forall_entry_of_forall₂ steps (.refl _)⟩

section

variable (valid : view.WellFormed names limit)

include valid

theorem StoreView.WellFormed.withIndex
    (wellFormed : index.WellFormed names) (size : index.maxVariables = limit) :
    (view.withIndex index).WellFormed names limit where
  __ := valid
  index := wellFormed
  size := size
  room := by
    have room := valid.room
    have before := valid.size
    simp only [StoreView.withIndex, variableIndexMaxDumpSize] at room ⊢
    rw [room, size, before]

theorem StoreView.WellFormed.follows (follows : view.variableIndex.Follows index) :
    (view.withIndex index).WellFormed names limit :=
  valid.withIndex (follows.wellFormed valid.index) (follows.size.trans valid.size)

theorem StoreView.WellFormed.modifyEntry (pos : Nat) (change : VariableEntry → VariableEntry)
    (follows : (view.entry pos).Follows (change (view.entry pos))) :
    (view.modifyEntry pos change).WellFormed names limit :=
  valid.follows (view.variableIndex.follows_modify pos change follows)

theorem StoreView.WellFormed.withPersistent
    {objects : ObjectStore} (copies : CopiesWellFormed names limit objects) :
    (view.withObjects true objects).WellFormed names limit where
  __ := valid
  copies := by simpa [StoreView.withObjects] using copies

theorem StoreView.WellFormed.putData (isNv : Bool) {uid : Nat} (data : ¬ isIndexUid uid)
    (value : Option Object) :
    (view.withObjects isNv ((view.objects isNv).put uid value)).WellFormed names limit := by
  cases isNv with
  | true =>
    refine valid.withPersistent (valid.copies.congr fun other isIndex => .inl ?_)
    exact ObjectStore.put_other _ _ _ _ fun same => data (same ▸ isIndex)
  | false =>
    exact { valid with copies := by simpa [StoreView.withObjects] using valid.copies }

theorem SyncOutcome.wellFormed (sync : SyncOutcome config fault view status after) :
    after.WellFormed names limit := by
  have cleaned := valid.follows view.variableIndex.follows_clean
  cases sync with
  | unwritten clean => exact cleaned
  | written dirty =>
    have confirmed := cleaned.follows (follows_confirmWrite _)
    have switched : StoreView.WellFormed names limit
        { view with
          variableIndex := variableIndexConfirmWrite view.variableIndex.clean
          activeVariableIndexUid := nextIndexUid view.activeVariableIndexUid } :=
      { confirmed with }
    refine switched.withPersistent
      (valid.copies.insert _ (.inr ⟨view.variableIndex, view.dump.length,
        valid.index, valid.size, ?_, rfl⟩))
    rw [length_dump]
    omega
  | failed dirty injected error cut =>
    exact cleaned.withPersistent (valid.copies.cutCopy valid.index valid.size cut)

theorem PurgeOutcome.wellFormed (purge : PurgeOutcome config fault view after) :
    after.WellFormed names limit := by
  cases purge with
  | kept _ => exact valid
  | cleared steps sync =>
    exact sync.wellFormed (valid.follows (follows_of_forall₂
      (steps.imp fun _ _ step => step.follows)))

theorem StoreOutcome.wellFormed {request : AccessVariable}
    (store : StoreOutcome config env view info request status after)
    (data : ¬ isIndexUid info.uid) : after.WellFormed names limit := by
  cases store with
  | stored _ => exact valid.putData _ data _
  | refused _ _ _ => exact valid
  | purged _ _ _ purge => exact purge.wellFormed valid

theorem RemoveOutcome.wellFormed (removal : RemoveOutcome env view info after)
    (data : ¬ isIndexUid info.uid) : after.WellFormed names limit := by
  cases removal with
  | removed => exact valid.putData _ data _
  | failed _ => exact valid

theorem MaybeSynced.wellFormed (sync : MaybeSynced config fault view shouldSyncIndex status after) :
    after.WellFormed names limit := by
  cases sync with
  | skipped => exact valid
  | synced sync => exact sync.wellFormed valid

theorem StoreView.WellFormed.data_uid (pos : Nat) (used : (view.entry pos).inUse = true) :
    ¬ isIndexUid (view.entry pos).uid := by
  have range := (valid.index.entries pos).uidRange used
  rw [valid.size] at range
  exact not_isIndexUid_of_le valid.few range.2

theorem StoreView.WellFormed.inUse_of_set (isSet : (view.entry pos).isVariableSet = true) :
    (view.entry pos).inUse = true := by
  by_contra unused
  have unset := (valid.index.entries pos).idle (Bool.eq_false_iff.mpr unused)
  rw [unset] at isSet
  cases isSet

theorem FinishOutcome.wellFormed {request : AccessVariable}
    (finish : FinishOutcome config env view pos shouldSyncIndex timestamp fingerprint request
      status after) : after.WellFormed names limit := by
  cases finish with
  | unstored sync _ =>
    exact (sync.wellFormed valid).modifyEntry pos _ (follows_withoutUnused _)
  | stored sync isSet store =>
    have synced := sync.wellFormed valid
    have recorded := synced.modifyEntry pos
      (fun entry => entry.withAuthentication timestamp fingerprint)
      (follows_withAuthentication _ _ _)
    have inside := inside_of_inUse (synced.inUse_of_set isSet)
    refine (store.wellFormed recorded (recorded.data_uid pos ?_)).modifyEntry pos _
      (follows_withoutUnused _)
    rw [modifyEntry, withIndex, entry_modify_self _ _ _ inside]
    exact synced.inUse_of_set isSet

end

theorem StoreView.follows_modifyEntry (view : StoreView) (pos : Nat)
    (change : VariableEntry → VariableEntry)
    (follows : (view.entry pos).Follows (change (view.entry pos))) :
    view.variableIndex.Follows (view.modifyEntry pos change).variableIndex :=
  view.variableIndex.follows_modify pos change follows

theorem SyncOutcome.follows (sync : SyncOutcome config fault view status after) :
    view.variableIndex.Follows after.variableIndex := by
  have cleaned := view.variableIndex.follows_clean
  cases sync with
  | unwritten _ => exact cleaned
  | written _ => exact cleaned.trans (follows_confirmWrite _)
  | failed _ _ _ _ => exact cleaned

theorem MaybeSynced.follows (sync : MaybeSynced config fault view shouldSyncIndex status after) :
    view.variableIndex.Follows after.variableIndex := by
  cases sync with
  | skipped => exact .refl _
  | synced sync => exact sync.follows

theorem StoreOutcome.follows {request : AccessVariable}
    (store : StoreOutcome config env view info request status after) :
    view.variableIndex.Follows after.variableIndex := by
  cases store with
  | stored _ => exact .refl _
  | refused _ _ _ => exact .refl _
  | purged _ _ _ purge =>
    cases purge with
    | kept _ => exact .refl _
    | cleared steps sync =>
      exact (follows_of_forall₂ (steps.imp fun _ _ step => step.follows)).trans sync.follows

theorem FinishOutcome.follows {request : AccessVariable}
    (finish : FinishOutcome config env view pos shouldSyncIndex timestamp fingerprint request
      status after) : view.variableIndex.Follows after.variableIndex := by
  cases finish with
  | unstored sync _ =>
    exact sync.follows.trans (follows_modifyEntry _ pos _ (follows_withoutUnused _))
  | @stored middle _ sync _ store =>
    have recorded := middle.follows_modifyEntry pos
      (fun entry => entry.withAuthentication timestamp fingerprint)
      (follows_withAuthentication _ _ _)
    exact ((sync.follows.trans recorded).trans store.follows).trans
      (follows_modifyEntry _ pos _ (follows_withoutUnused _))

variable {store : UefiVariableStore} {request : AccessVariable}

section

variable (outcome : SetAtOutcome config env store pos request status after)

include outcome

theorem SetAtOutcome.wellFormed
    (valid : store.view.WellFormed names limit)
    (used : (store.entry pos).inUse = true) : after.WellFormed names limit := by
  have data := valid.data_uid pos used
  cases outcome with
  | denied _ _ => exact valid.modifyEntry pos _ (follows_withoutUnused _)
  | unauthenticated _ _ => exact valid
  | mismatched _ _ _ _ _ => exact valid
  | emptied _ _ _ _ => exact valid
  | deleted _ _ _ _ removal finish =>
    exact finish.wellFormed ((removal.wellFormed valid data).modifyEntry pos _
      (follows_withoutVariable _))
  | updated _ _ _ _ _ finish => exact finish.wellFormed valid
  | created _ _ _ _ finish =>
    have created := valid.modifyEntry pos (fun entry => entry.withVariable request.attributes)
      (follows_withVariable _ _ used)
    exact finish.wellFormed created

/-- A request keeps the name and the UID of every entry that stays in use. -/
theorem SetAtOutcome.follows (used : (store.entry pos).inUse = true) :
    store.view.variableIndex.Follows after.variableIndex := by
  cases outcome with
  | denied _ _ =>
    exact store.view.follows_modifyEntry pos _ (follows_withoutUnused _)
  | unauthenticated _ _ => exact .refl _
  | mismatched _ _ _ _ _ => exact .refl _
  | emptied _ _ _ _ => exact .refl _
  | @deleted _ _ removed _ _ _ _ _ removal finish =>
    have cleared := removed.follows_modifyEntry pos _ (follows_withoutVariable _)
    have same : removed.variableIndex = store.view.variableIndex := by cases removal <;> rfl
    rw [← same]
    exact cleared.trans finish.follows
  | updated _ _ _ _ _ finish => exact finish.follows
  | created _ _ _ _ finish =>
    have created := store.view.follows_modifyEntry pos
      (fun entry => entry.withVariable request.attributes)
      (follows_withVariable _ _ used)
    exact created.trans finish.follows

end

/-- A new entry of a well-formed store is well formed, and unset. -/
theorem addEntry_extends {guid : EfiGuid} {name : Bytes}
    (valid : store.view.WellFormed names limit) (named : names name)
    (absent : findVariable store.variableIndex guid name = none)
    (added : (addEntry store.variableIndex guid name).2 = some pos) :
    (store.view.withIndex (addEntry store.variableIndex guid name).1).WellFormed names limit ∧
      (addEntry store.variableIndex guid name).1.entry pos =
        (store.entry pos).initialized guid name (generateUid store.variableIndex) := by
  obtain ⟨_, inside, _, _, result⟩ := addEntry_some added
  constructor
  · apply valid.withIndex (addEntry_wellFormed valid.index named absent added)
    rw [VariableIndex.maxVariables, addEntry_length]
    exact valid.size
  · rw [result, entry_modify_self _ _ _ inside]

theorem SetOutcome.wellFormed (outcome : SetOutcome config env store request status after)
    (valid : store.view.WellFormed names limit)
    (named : checkNameTerminator request.name = .success → names request.name) :
    after.WellFormed names limit := by
  cases outcome with
  | invalid _ => exact valid
  | full _ refused => exact valid.follows (addEntry_follows refused)
  | found _ _ at_ outcome =>
    exact outcome.wellFormed valid (names_of_findVariable at_).1
  | @added pos _ _ terminated _ absent _ at_ outcome =>
    obtain ⟨extended, entry⟩ := addEntry_extends valid (named terminated) absent at_
    refine outcome.wellFormed extended ?_
    rw [entry]
    rfl

end SmmVariable
