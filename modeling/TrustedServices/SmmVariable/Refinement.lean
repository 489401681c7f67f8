import TrustedServices.SmmVariable.RequestValue

/- The store as a map, in runs without authenticated variables and backend errors. -/
namespace SmmVariable

open Lib VariableEntry StoreView

/-- A change of an entry that is not one of its variable. -/
structure VariableEntry.SameVariable (before after : VariableEntry) : Prop where
  isSet : after.isSet = before.isSet
  metadata : before.isSet = true → after.info.metadata = before.info.metadata

theorem VariableEntry.SameVariable.refl (entry : VariableEntry) : entry.SameVariable entry :=
  ⟨rfl, fun _ => rfl⟩

theorem VariableEntry.SameVariable.trans {first second third : VariableEntry}
    (before : first.SameVariable second) (after : second.SameVariable third) :
    first.SameVariable third where
  isSet := after.isSet.trans before.isSet
  metadata isSet := (after.metadata (before.isSet.trans isSet)).trans (before.metadata isSet)

theorem VariableEntry.sameVariable_of_unset {before after : VariableEntry}
    (unsetBefore : before.isSet = false) (unsetAfter : after.isSet = false) :
    before.SameVariable after := by
  refine ⟨unsetAfter.trans unsetBefore.symm, fun isSet => ?_⟩
  rw [unsetBefore] at isSet
  cases isSet

theorem VariableEntry.sameVariable_withoutUnused (entry : VariableEntry) :
    entry.SameVariable entry.withoutUnused := by
  cases isSet : entry.isVariableSet with
  | true =>
    rw [withoutUnused_of_set isSet]
    exact .refl _
  | false =>
    apply sameVariable_of_unset
    · unfold VariableEntry.isSet
      rw [isSet, Bool.and_false]
    · unfold VariableEntry.isSet
      rw [unset_withoutUnused isSet, Bool.and_false]

theorem VariableEntry.sameVariable_withConstraints (entry : VariableEntry)
    (constraints : VariableConstraints) :
    entry.SameVariable (entry.withConstraints constraints) := by
  unfold withConstraints markDirty
  split <;> exact ⟨rfl, fun _ => rfl⟩

/-- A step that changes no variable and no data. -/
structure StoreView.SameVariables (before after : StoreView) : Prop where
  entries : ∀ pos, (before.entry pos).SameVariable (after.entry pos)
  objects : ∀ isNv uid, ¬ isIndexUid uid → after.objects isNv uid = before.objects isNv uid

variable {names : Bytes → Prop} {limit : Nat} {before middle after : StoreView}

theorem StoreView.SameVariables.refl (view : StoreView) : view.SameVariables view :=
  ⟨fun _ => .refl _, fun _ _ _ => rfl⟩

theorem StoreView.SameVariables.trans (first : before.SameVariables middle)
    (second : middle.SameVariables after) : before.SameVariables after where
  entries pos := (first.entries pos).trans (second.entries pos)
  objects isNv uid data := (second.objects isNv uid data).trans (first.objects isNv uid data)

theorem StoreView.sameVariables_modifyEntry (view : StoreView) (pos : Nat)
    (change : VariableEntry → VariableEntry)
    (same : (view.entry pos).SameVariable (change (view.entry pos))) :
    view.SameVariables (view.modifyEntry pos change) :=
  ⟨VariableIndex.entry_modify_rel .refl same, fun _ _ _ => rfl⟩

variable {fault : Fault BackendCall}

theorem SyncOutcome.sameVariables {config : BuildConfig}
    {status : EfiStatus} (sync : SyncOutcome config fault before status after) :
    before.SameVariables after := by
  refine ⟨fun pos => ?_, fun isNv uid data => sync.objects_eq isNv data⟩
  rw [sync.entry_eq]
  exact ⟨rfl, fun _ => rfl⟩

theorem addEntry_sameVariables (view : StoreView) (guid : EfiGuid) (name : Bytes) :
    view.SameVariables (view.withIndex (addEntry view.variableIndex guid name).1) := by
  have idle : ∀ {pos : Nat}, findFree view.variableIndex = some pos →
      (view.entry pos).isSet = false := by
    intro pos free
    unfold VariableEntry.isSet
    rw [(findFree_some free).2, Bool.false_and]
  rw [addEntry]
  split
  · split
    · rename_i pos free
      dsimp only
      split
      · exact view.sameVariables_modifyEntry pos _ (sameVariable_of_unset (idle free) (idle free))
      · exact view.sameVariables_modifyEntry pos _ (sameVariable_of_unset (idle free) rfl)
    · exact ⟨fun _ => .refl _, fun _ _ _ => rfl⟩
  · exact ⟨fun _ => .refl _, fun _ _ _ => rfl⟩

section

variable (same : before.SameVariables after)

include same

theorem StoreView.SameVariables.valueAt_eq
    (valid : before.WellFormed names limit) (pos : Nat) :
    after.valueAt pos = before.valueAt pos := by
  have entry := same.entries pos
  unfold valueAt contents
  rw [entry.isSet]
  split_ifs with isSet
  · have used := ((isSet_iff _).mp isSet).1
    unfold VariableEntry.key
    rw [entry.metadata isSet, same.objects _ _ (valid.data_uid pos used)]
  · rfl

theorem StoreView.SameVariables.values_eq
    (valid : before.WellFormed names limit)
    (validAfter : after.WellFormed names limit) : after.values = before.values := by
  funext key
  apply Option.ext
  intro value
  rw [values_eq_some_iff validAfter.index, values_eq_some_iff valid.index]
  apply exists_congr
  intro pos
  rw [same.valueAt_eq valid pos]

theorem StoreView.SameVariables.plain
    (plain : before.Plain names limit) (validAfter : after.WellFormed names limit) :
    after.Plain names limit := by
  refine ⟨validAfter, ?_, ?_⟩
  · intro isNv uid data present
    rw [same.objects isNv uid data] at present
    obtain ⟨owner, isSet, sameUid, backend⟩ := plain.owned isNv uid data present
    have metadata := (same.entries owner).metadata isSet
    refine ⟨owner, (same.entries owner).isSet.trans isSet, ?_, ?_⟩
    · rw [metadata]
      exact sameUid
    · rw [metadata]
      exact backend
  · intro pos isSet
    have setBefore := (same.entries pos).isSet.symm.trans isSet
    rw [(same.entries pos).metadata setBefore]
    exact plain.unauthenticated pos setBefore

end

variable {config : BuildConfig} {env : Env}
  (works : ∀ isNv count call, env.fault isNv count call = none) {store : UefiVariableStore}
  {request : AccessVariable} {status : EfiStatus} {pos : Nat}

include works in
/-- A request does to the map what it asks for, or fails and does nothing. -/
theorem SetAtOutcome.refines (outcome : SetAtOutcome config env store pos request status after)
    (plain : store.view.Plain names limit)
    (named : (store.entry pos).Names request.guid request.name)
    (capable : checkCapabilities request.attributes = .success)
    (unsigned : hasAny request.attributes efiVariableTimeBasedAuthenticatedWriteAccess = false)
    (access : (store.entry pos).isVariableSet = false →
      request.data.length ≠ 0 →
      hasAny request.attributes (efiVariableBootserviceAccess ||| efiVariableRuntimeAccess) = true) :
    after.Plain names limit ∧
      after.values = if status = .success then VariableMap.set store.view.values request
        else store.view.values := by
  obtain ⟨used, sameGuid, sameName⟩ := named
  have own := outcome.ownStep works plain used capable unsigned access
  have frame := outcome.frame plain.wellFormed used
  have wellFormed := outcome.wellFormed plain.wellFormed used
  have ownValue : store.view.values (request.guid, request.name) =
      (store.view.valueAt pos).map Prod.snd :=
    values_named plain.wellFormed.index ⟨used, sameGuid, sameName⟩
  refine ⟨⟨wellFormed, ?_, ?_⟩, ?_⟩
  · intro isNv uid data present
    by_cases here : uid = (store.entry pos).uid
    · subst here
      exact ⟨pos, own.owned isNv present⟩
    · rw [frame.objects isNv uid here data] at present
      obtain ⟨owner, isSet, sameUid, backend⟩ := plain.owned isNv uid data present
      have distinct : owner ≠ pos := by
        rintro rfl
        exact here sameUid.symm
      cases frame.entries owner distinct with
      | same inUse info =>
        refine ⟨owner, ?_, ?_, ?_⟩
        · rw [isSet_iff, inUse, info]
          exact (isSet_iff _).mp isSet
        · rw [info]
          exact sameUid
        · rw [info]
          exact backend
      | purged lost _ _ =>
        obtain ⟨dumped, gone | ⟨count, error, fails⟩⟩ := lost
        · have isNv_ : isNonVolatile (store.view.entry owner).attributes = true := by
            unfold isDumped at dumped
            simp only [Bool.and_eq_true] at dumped
            exact dumped.2
          rw [← backend, isNv_, ← sameUid] at present
          exact absurd gone present
        · rw [works] at fails
          cases fails
  · intro other isSet
    by_cases here : other = pos
    · subst here
      exact own.plain isSet
    · have step := frame.entries other here
      cases step with
      | same inUse info =>
        rw [isSet_iff, inUse, info, ← isSet_iff] at isSet
        rw [info]
        exact plain.unauthenticated other isSet
      | purged _ _ info =>
        rw [isSet_iff, info] at isSet
        cases isSet.2
  · rw [outcome.values_eq plain.wellFormed ⟨used, sameGuid, sameName⟩
      (purgeFinds_of_works (works true))]
    by_cases done : status = .success
    · rw [if_pos done, own.success done, ← ownValue]
      rfl
    · rw [if_neg done, own.failure done, ← ownValue, Function.update_eq_self]

include works in
theorem SetOutcome.refines (outcome : SetOutcome config env store request status after)
    (plain : store.view.Plain Terminated limit)
    (unsigned : hasAny request.attributes efiVariableTimeBasedAuthenticatedWriteAccess = false)
    (access : store.view.lookup request.guid request.name = none → request.data.length ≠ 0 →
      hasAny request.attributes (efiVariableBootserviceAccess ||| efiVariableRuntimeAccess) = true) :
    after.Plain Terminated limit ∧
      after.values = if status = .success then VariableMap.set store.view.values request
        else store.view.values := by
  have wellFormed := outcome.wellFormed plain.wellFormed id
  cases outcome with
  | invalid error => exact ⟨plain, (if_neg error).symm⟩
  | full absent refused =>
    have same := addEntry_sameVariables store.view request.guid request.name
    exact ⟨same.plain plain wellFormed, same.values_eq plain.wellFormed wellFormed⟩
  | @found pos _ _ _ capable at_ outcome =>
    refine outcome.refines works plain (names_of_findVariable at_) capable unsigned ?_
    intro unset
    apply access
    have found : findVariable store.view.variableIndex request.guid request.name = some pos := at_
    have unset_ : (store.view.entry pos).isVariableSet = false := unset
    unfold lookup
    rw [found, Option.bind_some, unset_]
    rfl
  | @added pos _ _ terminated capable absent nonempty at_ outcome =>
    have same := addEntry_sameVariables store.view request.guid request.name
    obtain ⟨extended, entry⟩ := addEntry_extends plain.wellFormed terminated absent at_
    have refined := outcome.refines works (same.plain plain extended)
      (by rw [entry]; exact ⟨rfl, rfl, rfl⟩) capable unsigned ?_
    · rw [← same.values_eq plain.wellFormed extended]
      exact refined
    · intro _
      apply access
      have missing : findVariable store.view.variableIndex request.guid request.name = none := absent
      unfold lookup
      rw [missing]
      rfl

theorem PropertyOutcome.sameVariables {view : StoreView} {property : VarCheckVariableProperty}
    (outcome : PropertyOutcome config fault view pos property status after) :
    view.SameVariables after := by
  cases outcome with
  | refused _ =>
    exact view.sameVariables_modifyEntry pos _ (sameVariable_withoutUnused _)
  | @constrained constraints _ _ _ sync =>
    have constrained := view.sameVariables_modifyEntry pos
      (fun entry => entry.withConstraints constraints)
      (sameVariable_withConstraints _ _)
    exact (constrained.trans sync.sameVariables).trans
      (sameVariables_modifyEntry _ pos _ (sameVariable_withoutUnused _))

theorem setVarCheckProperty_sameVariables (env : Env)
    (room : store.view.HasRoom) (guid : EfiGuid) (name : Bytes)
    (property : VarCheckVariableProperty) :
    store.view.SameVariables
      (uefiVariableStoreSetVarCheckProperty config env store guid name property).2.view := by
  have added := addEntry_sameVariables store.view guid name
  unfold uefiVariableStoreSetVarCheckProperty
  split
  · exact .refl _
  · split
    · exact (setVarCheckPropertyAt_outcome config env store room _ property).sameVariables
    · dsimp only
      split
      · apply added.trans
        apply (setVarCheckPropertyAt_outcome config env
          { store with variableIndex := (addEntry store.variableIndex guid name).1 }
          ?_ _ property).sameVariables
        have length := addEntry_length store.variableIndex guid name
        unfold StoreView.HasRoom at room ⊢
        simp only [UefiVariableStore.view, variableIndexMaxDumpSize, VariableIndex.maxVariables,
          length] at room ⊢
        exact room
      · exact added

/-- Only SetVariable requests change variables. -/
theorem serve_sameVariables (env : Env) (room : store.view.HasRoom)
    (request : Request) (other : ∀ variable_, request ≠ .setVariable variable_) :
    store.view.SameVariables (serve config env store request).view := by
  cases request with
  | setVariable variable_ => exact absurd rfl (other variable_)
  | setVarCheckProperty guid name property =>
    exact setVarCheckProperty_sameVariables env room guid name property
  | getVariable guid name dataSize maxDataLen =>
    rw [serve, view_getVariable]
    exact .refl _
  | queryVariableInfo attributes =>
    rw [serve, view_queryVariableInfo]
    exact .refl _
  | setStorageLimits attributes totalCapacity maxVariableSize =>
    rw [serve, uefiVariableStoreSetStorageLimits]
    split <;> exact ⟨fun _ => .refl _, fun isNv _ _ => by cases isNv <;> rfl⟩
  | exitBootService => exact ⟨fun _ => .refl _, fun isNv _ _ => by cases isNv <;> rfl⟩

/-- A store and the map that it is to implement. -/
abbrev Mapped := UefiVariableStore × VariableMap

/-- The map changes with the SetVariable requests that succeed. -/
def mapStep (config : BuildConfig) (state : Mapped) (event : Env × Request) : Mapped :=
  (serve config event.1 state.1 event.2,
    match event.2 with
    | .setVariable request =>
      if (uefiVariableStoreSetVariable config event.1 state.1 request).1 = .success then
        VariableMap.set state.2 request
      else state.2
    | _ => state.2)

/-- Requests over backends that work, none of them authenticated, and none that would create a
variable without an access attribute. -/
def PlainEvent (state : Mapped) (event : Env × Request) : Prop :=
  (∀ isNv count call, event.1.fault isNv count call = none) ∧
    ∀ request, event.2 = .setVariable request →
      hasAny request.attributes efiVariableTimeBasedAuthenticatedWriteAccess = false ∧
      (state.1.view.lookup request.guid request.name = none → request.data.length ≠ 0 →
        hasAny request.attributes (efiVariableBootserviceAccess ||| efiVariableRuntimeAccess) = true)

/-- What GetVariable may answer for a name with a value of the map, or without one. -/
def AnswersFrom (value : Option (Attributes × Bytes)) (isBootService : Bool)
    (dataSize maxDataLen : Nat) (answer : GetVariableResult) : Prop :=
  match value with
  | none => answer.status = .notFound
  | some (attributes, data) =>
    if accessible isBootService attributes then
      answer.attributes = some attributes ∧ answer.dataSize = data.length ∧
        if data.length ≤ min dataSize maxDataLen then
          answer.status = .success ∧ answer.data = data
        else answer.status = .bufferTooSmall
    else answer.status = .notFound

theorem answersFrom_readAnswer (view : StoreView) (guid : EfiGuid) (name : Bytes)
    (isBootService : Bool) (dataSize maxDataLen : Nat) :
    AnswersFrom (view.values (guid, name)) isBootService dataSize maxDataLen
      (readAnswer isBootService name.length dataSize maxDataLen (view.lookup guid name)) := by
  unfold StoreView.values
  cases view.lookup guid name with
  | none => exact rfl
  | some found =>
    obtain ⟨attributes, data⟩ := found
    cases data with
    | none =>
      simp only [Option.bind_some, Option.map_none, AnswersFrom, readAnswer]
      split <;> rfl
    | some data =>
      simp only [Option.bind_some, Option.map_some, AnswersFrom, readAnswer]
      split
      · split <;> exact ⟨rfl, rfl, by simp⟩
      · rfl

theorem uefiVariableStoreInit_plain (few : limit < 2 ^ 31)
    (started : uefiVariableStoreInit config env limit .fresh .fresh = (.success, store)) :
    store.view.Plain Terminated limit ∧
      store.view.values = fun _ => none := by
  have noCopies : CopiesWellFormed Terminated limit
      FaultyStore.fresh.objects := fun uid _ object present => nomatch present
  have wellFormed : store.view.WellFormed Terminated limit :=
    (uefiVariableStoreInit_wellFormed env few noCopies started).2 rfl
  obtain ⟨loaded, load, rfl⟩ := uefiVariableStoreInit_outcome started
  obtain ⟨drops, outcome⟩ := loadVariableIndex_cases config env
    (initialStore config limit .fresh .fresh)
  have volatileObjects : loaded.objects false = fun _ => none := by
    have kept := volatileStore_loadVariableIndex config env
      (initialStore config limit .fresh .fresh)
    rw [load] at kept
    unfold UefiVariableStore.objects UefiVariableStore.delegate
    rw [if_neg Bool.false_ne_true, kept]
    rfl
  rw [load] at drops outcome
  have persistentObjects : ∀ uid, loaded.objects true uid = none := by
    intro uid
    rcases drops uid with same | dropped
    · exact same
    · exact dropped.2.1
  have loadedEntries : ∀ pos, loaded.entry pos = .zero := by
    rcases outcome with ⟨_, _, _, index, _⟩ | ⟨_, _, _, _, _, present, _⟩
    · intro pos
      rw [index]
      exact entry_variableIndexInit 0 limit pos
    · cases present
  have room : loaded.view.HasRoom := by
    have valid := (loadVariableIndex_wellFormed config env few .fresh noCopies).2
    rw [load] at valid
    exact (valid rfl).hasRoom
  have purge := purgeOrphanIndexEntries_outcome config env loaded room
  have unset : ∀ pos, ((purgeOrphanIndexEntries config env loaded).view.entry
      pos).isVariableSet = false := by
    intro pos
    have zero : loaded.view.entry pos = .zero := loadedEntries pos
    cases purge.bystander pos with
    | same _ info =>
      rw [info, zero]
      rfl
    | purged _ _ info => rw [info]
  have empty : ∀ isNv uid, ¬ isIndexUid uid →
      (purgeOrphanIndexEntries config env loaded).view.objects isNv uid = none := by
    intro isNv uid data
    rw [(purge.frame 0 (uid + 1)).objects isNv uid (Nat.ne_of_lt (Nat.lt_succ_self uid)) data]
    cases isNv with
    | true => exact persistentObjects uid
    | false => exact congrFun volatileObjects uid
  refine ⟨⟨wellFormed, ?_, ?_⟩, ?_⟩
  · intro isNv uid data present
    exact absurd (empty isNv uid data) present
  · intro pos isSet
    have set := ((isSet_iff _).mp isSet).2
    rw [unset pos] at set
    cases set
  · funext key
    apply Option.eq_none_iff_forall_ne_some.mpr
    intro value holds
    obtain ⟨pos, at_⟩ := (values_eq_some_iff wellFormed.index).mp holds
    rw [valueAt_of_unset (unset pos)] at at_
    cases at_

/-- The store implements its map. -/
structure Mapped.Implements (limit : Nat) (state : Mapped) : Prop where
  plain : state.1.view.Plain Terminated limit
  values : state.1.view.values = state.2

theorem mapStep_implements {state : Mapped} {event : Env × Request}
    (implements : state.Implements limit) (admitted : PlainEvent state event) :
    (mapStep config state event).Implements limit := by
  obtain ⟨store, map⟩ := state
  obtain ⟨env, request⟩ := event
  obtain ⟨plain, values⟩ := implements
  dsimp only at plain values
  subst values
  obtain ⟨works, plainRequest⟩ := admitted
  have unchanged : ∀ request, (∀ variable_, request ≠ Request.setVariable variable_) →
      (Event.request env request).Named Terminated →
      Mapped.Implements limit (serve config env store request, store.view.values) := by
    intro request other named
    have same : store.view.SameVariables (serve config env store request).view :=
      serve_sameVariables env plain.wellFormed.hasRoom request other
    have wellFormed : (serve config env store request).view.WellFormed _ limit :=
      serve_wellFormed env plain.wellFormed request named
    exact ⟨same.plain plain wellFormed, same.values_eq plain.wellFormed wellFormed⟩
  cases request with
  | setVariable request =>
    obtain ⟨unsigned, access⟩ := plainRequest request rfl
    have outcome := uefiVariableStoreSetVariable_outcome config env store request
      plain.wellFormed.hasRoom
    obtain ⟨plainAfter, values⟩ := outcome.refines works plain unsigned access
    exact ⟨plainAfter, values⟩
  | setVarCheckProperty guid name property =>
    exact unchanged _ nofun fun terminated => terminated
  | _ => exact unchanged _ nofun trivial

/-- In every run without authenticated requests and backend errors, in which no request without
an access attribute has data for a variable that is not set, GetVariable answers from the map that
the successful requests make. -/
theorem getVariable_answersFrom_map {config : BuildConfig} {limit : Nat}
    (few : limit < 2 ^ 31) {start : Env} {initial : UefiVariableStore}
    (started : uefiVariableStoreInit config start limit .fresh .fresh = (.success, initial))
    {state : Mapped} (reached : Reached (mapStep config) (initial, fun _ => none) PlainEvent state)
    {env : Env} (works : ∀ isNv count call, env.fault isNv count call = none)
    (guid : EfiGuid) (name : Bytes) (dataSize maxDataLen : Nat) :
    if checkNameTerminator name = .success then
      AnswersFrom (state.2 (guid, name)) state.1.isBootService dataSize maxDataLen
        (uefiVariableStoreGetVariable env state.1 guid name dataSize maxDataLen).1
    else (uefiVariableStoreGetVariable env state.1 guid name dataSize maxDataLen).1.status =
      checkNameTerminator name := by
  obtain ⟨plain, empty⟩ := uefiVariableStoreInit_plain few started
  have implements : state.Implements limit :=
    reached.invariant (Mapped.Implements limit) ⟨plain, empty⟩
      fun _ _ _ holds admitted => mapStep_implements holds admitted
  rw [getVariable_answer (Env.reads_of_works works)]
  split
  · rename_i terminated
    rw [if_neg (not_not_intro terminated), ← implements.values]
    exact answersFrom_readAnswer state.1.view guid name state.1.isBootService dataSize maxDataLen
  · rfl

/-- The variable `A`, set and then extended, reads as its two bytes. -/
theorem getVariable_answersFrom_map_appended :
    let set : Request := .setVariable ⟨.zero, 7#32, [0x41, 0, 0, 0], [1]⟩
    let append : Request := .setVariable ⟨.zero, 0x47#32, [0x41, 0, 0, 0], [2]⟩
    let initial := (uefiVariableStoreInit (.standard true) .calm 3 .fresh .fresh).2
    let state := mapStep (.standard true)
      (mapStep (.standard true) (initial, fun _ => none) (.calm, set)) (.calm, append)
    state.2 (.zero, [0x41, 0, 0, 0]) = some (7#32, [1, 2]) ∧
      AnswersFrom (some (7#32, [1, 2])) true 16 16
        (uefiVariableStoreGetVariable .calm state.1 .zero [0x41, 0, 0, 0] 16 16).1 := by
  intro set append initial state
  have value : state.2 (.zero, [0x41, 0, 0, 0]) = some (7#32, [1, 2]) := by decide +kernel
  have phase : state.1.isBootService = true := by decide +kernel
  have started : uefiVariableStoreInit (.standard true) .calm 3 .fresh .fresh =
      (.success, initial) := eq_mk_of_fst (by decide +kernel)
  have calm : ∀ isNv count call, Env.calm.fault isNv count call = none := fun _ _ _ => rfl
  have reached : Reached (mapStep (.standard true)) (initial, fun _ => none) PlainEvent state := by
    refine .step (.step .start ⟨calm, ?_⟩) ⟨calm, ?_⟩
    · intro request same
      cases same
      exact ⟨rfl, fun _ _ => rfl⟩
    · intro request same
      cases same
      exact ⟨rfl, fun _ _ => rfl⟩
  have answers := getVariable_answersFrom_map (by decide) started reached calm .zero
    [0x41, 0, 0, 0] 16 16
  rw [if_pos (by decide), value, phase] at answers
  exact ⟨value, answers⟩

/-- A request without an access attribute asks for a deletion, but sets a variable that was
not there. -/
theorem setVariable_without_access_creates :
    let request : AccessVariable := ⟨.zero, 1#32, [0x41, 0, 0, 0], [1]⟩
    let initial := (uefiVariableStoreInit (.standard false) .calm 3 .fresh .fresh).2
    let state := mapStep (.standard false) (initial, fun _ => none) (.calm, .setVariable request)
    (uefiVariableStoreSetVariable (.standard false) .calm initial request).1 = .success ∧
      requestsDeletion request = true ∧
      ¬ AnswersFrom (state.2 (.zero, [0x41, 0, 0, 0])) state.1.isBootService 16 16
        (uefiVariableStoreGetVariable .calm state.1 .zero [0x41, 0, 0, 0] 16 16).1 := by
  intro request initial state
  have value : state.2 (.zero, [0x41, 0, 0, 0]) = none := by decide +kernel
  have answer : (uefiVariableStoreGetVariable .calm state.1 .zero [0x41, 0, 0, 0] 16 16).1.status =
      .success := by decide +kernel
  refine ⟨by decide +kernel, by decide, ?_⟩
  rw [value]
  intro missing
  rw [show (uefiVariableStoreGetVariable .calm state.1 .zero [0x41, 0, 0, 0] 16 16).1.status =
    .notFound from missing] at answer
  cases answer

end SmmVariable
