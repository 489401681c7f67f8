import TrustedServices.SmmVariable.Durability
import TrustedServices.SmmVariable.Timestamps

/- What a power cycle keeps of the protection against replayed requests. -/
namespace SmmVariable

open Lib VariableEntry

/-- The timestamp and fingerprint recorded for a variable that is set. -/
def StoreView.authentication (view : StoreView) (key : EfiGuid × Bytes) :
    Option (EfiTime × BitVec 256) :=
  (findVariable view.variableIndex key.1 key.2).bind fun pos =>
    if (view.entry pos).isVariableSet then
      some ((view.entry pos).timestamp, (view.entry pos).fingerprint)
    else none

/-- Of a run: the names that no request has named since the index was last written or loaded,
and the requests without append that were accepted for a variable since it was last created. -/
structure AuthHistory where
  current : EfiGuid × Bytes → Bool
  accepted : EfiGuid × Bytes → List AccessVariable

namespace AuthHistory

def start : AuthHistory where
  current _ := true
  accepted _ := []

def afterSet (history : AuthHistory) (before after : StoreView) (request : AccessVariable)
    (status : EfiStatus) : AuthHistory where
  current key := key ≠ (request.guid, request.name) &&
    (history.current key || after.counter ≠ before.counter)
  accepted := Function.update history.accepted (request.guid, request.name)
    ((if status = .success ∧ hasAny request.attributes efiVariableAppendWrite = false then [request]
      else []) ++
      if (before.lookup request.guid request.name).isSome then
        history.accepted (request.guid, request.name)
      else [])

def afterOther (history : AuthHistory) (before after : StoreView) : AuthHistory :=
  { history with
    current := fun key =>
      history.current key || after.counter ≠ before.counter }

def restarted (history : AuthHistory) : AuthHistory where
  current _ := true
  accepted key := if history.current key then history.accepted key else []

end AuthHistory

/-- A device and the history of its run. -/
def authStep (config : BuildConfig) (limit : Nat) (state : Device × AuthHistory)
    (event : Event) : Device × AuthHistory :=
  let after := state.1.step config limit event
  (after,
    match state.1, event with
    | .off _, .powerOn _ => state.2.restarted
    | .running store, .request env (.setVariable request) =>
      state.2.afterSet store.view (serve config env store (.setVariable request)).view request
        (uefiVariableStoreSetVariable config env store request).1
    | .running store, .request env request =>
      state.2.afterOther store.view (serve config env store request).view
    | _, _ => state.2)

/-- Events without errors of the backends; at start-up no allocation fails either. -/
def ErrorFreeEvent (_ : Device × AuthHistory) : Event → Prop
  | .powerOn env => env.ErrorFree
  | .powerOff => True
  | .request env _ => ∀ isNv count call, env.fault isNv count call = none

/-- The accepted requests for a variable are outdated. -/
def StoreView.Guards (config : BuildConfig) (accepted : EfiGuid × Bytes → List AccessVariable)
    (view : StoreView) : Prop :=
  config.authVar = true → ∀ pos, (view.entry pos).isSet = true →
    hasAny (view.entry pos).attributes
      efiVariableTimeBasedAuthenticatedWriteAccess = true →
    ∀ request ∈ accepted (view.entry pos).key, Outdated request (view.entry pos).timestamp

/-- The accepted requests were made for their name and were valid. -/
def AuthHistory.Proper (history : AuthHistory) : Prop :=
  ∀ key, ∀ request ∈ history.accepted key, (request.guid, request.name) = key ∧
    checkNameTerminator request.name = .success ∧ checkCapabilities request.attributes = .success

section

variable {config : BuildConfig} {env : Env}
  (works : ∀ isNv count call, env.fault isNv count call = none)
  {store : UefiVariableStore} {request : AccessVariable} {status : EfiStatus} {after : StoreView}
  {names : Bytes → Prop} {limit pos : Nat} {history : AuthHistory}

theorem lookup_isSome {view : StoreView} {guid : EfiGuid} {name : Bytes}
    (valid : view.variableIndex.WellFormed names)
    (named : (view.entry pos).Names guid name) :
    (view.lookup guid name).isSome = (view.entry pos).isVariableSet := by
  unfold StoreView.lookup
  rw [findVariable_of_names valid named, Option.bind_some]
  split_ifs with unset
  · rw [unset]
    rfl
  · rw [Bool.eq_false_iff.mpr unset]
    rfl

theorem SetOutcome.proper (outcome : SetOutcome config env store request status after)
    (proper : history.Proper) : (history.afterSet store.view after request status).Proper := by
  intro key old member
  by_cases own : key = (request.guid, request.name)
  · subst own
    simp only [AuthHistory.afterSet, Function.update_self, List.mem_append] at member
    rcases member with new | kept
    · split_ifs at new ⊢ with accepted
      · obtain rfl := List.mem_singleton.mp new
        cases outcome with
        | invalid error => exact absurd accepted.1 error
        | full _ _ => cases accepted.1
        | found terminated capable _ _ => exact ⟨rfl, terminated, capable⟩
        | added terminated capable _ _ _ _ => exact ⟨rfl, terminated, capable⟩
      · cases new
    · split at kept
      · exact proper _ old kept
      · cases kept
  · simp only [AuthHistory.afterSet, Function.update_of_ne own] at member
    exact proper key old member

include works in
theorem SetAtOutcome.guards (outcome : SetAtOutcome config env store pos request status after)
    (valid : store.view.WellFormed names limit)
    (named : (store.entry pos).Names request.guid request.name)
    (guards : store.view.Guards config history.accepted) :
    after.Guards config (history.afterSet store.view after request status).accepted := by
  obtain ⟨used, sameGuid, sameName⟩ := named
  have ownKey : (store.entry pos).key = (request.guid, request.name) := by
    unfold VariableEntry.key
    rw [sameGuid, sameName]
  intro authVar other isSet signed old member
  by_cases here : other = pos
  · subst here
    have setAfter := ((isSet_iff _).mp isSet).2
    have lookup : (store.view.lookup request.guid request.name).isSome =
        (store.entry other).isVariableSet :=
      lookup_isSome valid.index ⟨used, sameGuid, sameName⟩
    -- What was accepted while the variable was set stays outdated.
    have keeps : ∀ time : EfiTime,
        (store.entry other).timestamp.rank ≤ time.rank →
        (store.entry other).isVariableSet = true →
        hasAny (store.entry other).attributes
          efiVariableTimeBasedAuthenticatedWriteAccess = true →
        ∀ kept ∈ history.accepted (request.guid, request.name), Outdated kept time := by
      intro time grows setBefore signedBefore kept known
      rw [← ownKey] at known
      exact (guards authVar other ((isSet_iff _).mpr ⟨used, setBefore⟩) signedBefore
        kept known).mono grows
    rcases outcome.own_info works valid used setAfter with
      ⟨failed, setBefore, info⟩ | ⟨authenticated, passed, key, time, attributes⟩
    · have key : (after.entry other).key = (request.guid, request.name) := by
        rw [← ownKey]
        unfold VariableEntry.key
        rw [info]
      rw [key] at member
      simp only [AuthHistory.afterSet, Function.update_self, failed, false_and, ↓reduceIte,
        List.nil_append, lookup, setBefore] at member
      rw [info] at signed ⊢
      exact keeps _ (Nat.le_refl _) setBefore signed old member
    · rw [key, ownKey] at member
      simp only [AuthHistory.afterSet, Function.update_self, List.mem_append, lookup] at member
      obtain ⟨grows, outdated⟩ := requestAuthenticated_timestamps passed
      rw [attributes] at signed
      rw [time]
      rcases member with new | kept
      · split_ifs at new ⊢ with accepted
        · obtain rfl := List.mem_singleton.mp new
          refine outdated ?_ accepted.2
          unfold needsAuthentication
          rw [authVar, signed]
          rfl
        · cases new
      · split_ifs at kept ⊢ with setBefore
        · rw [if_pos setBefore] at signed
          exact keeps _ grows setBefore signed old kept
        · cases kept
  · obtain ⟨setBefore, info, apart⟩ := outcome.other_info valid used here isSet
    rw [ownKey] at apart
    simp only [AuthHistory.afterSet, Function.update_of_ne apart] at member
    unfold VariableEntry.key at member
    rw [info] at signed member ⊢
    exact guards authVar other setBefore signed old member

variable {before : StoreView}

/-- Steps that change no variable keep the accepted requests outdated. -/
theorem StoreView.SameVariables.guards
    {accepted fewer : EfiGuid × Bytes → List AccessVariable} (same : before.SameVariables after)
    (subset : ∀ key, fewer key ⊆ accepted key) (guards : before.Guards config accepted) :
    after.Guards config fewer := by
  intro authVar pos isSet signed old member
  have setBefore := (same.entries pos).isSet.symm.trans isSet
  have metadata := (same.entries pos).metadata setBefore
  unfold VariableEntry.key at member
  rw [metadata] at signed member ⊢
  exact guards authVar pos setBefore signed old (subset _ member)

theorem AuthHistory.afterSet_subset (failed : status ≠ .success) (key : EfiGuid × Bytes) :
    (history.afterSet before after request status).accepted key ⊆ history.accepted key := by
  unfold AuthHistory.afterSet
  by_cases own : key = (request.guid, request.name)
  · subst own
    simp only [Function.update_self, failed, false_and, ↓reduceIte, List.nil_append]
    split
    · exact fun _ member => member
    · exact fun _ member => nomatch member
  · simp only [Function.update_of_ne own]
    exact fun _ member => member

include works in
theorem SetOutcome.guards (outcome : SetOutcome config env store request status after)
    (valid : store.view.WellFormed Terminated limit)
    (guards : store.view.Guards config history.accepted) :
    after.Guards config (history.afterSet store.view after request status).accepted := by
  cases outcome with
  | invalid failed =>
    exact StoreView.SameVariables.guards (.refl _) (AuthHistory.afterSet_subset failed) guards
  | full _ _ =>
    exact (addEntry_sameVariables store.view request.guid request.name).guards
      (AuthHistory.afterSet_subset nofun) guards
  | found _ _ at_ outcome =>
    exact outcome.guards works valid (names_of_findVariable at_) guards
  | @added pos _ _ terminated _ absent _ at_ outcome =>
    obtain ⟨extended, entry⟩ := addEntry_extends valid terminated absent at_
    have named : ((addEntry store.variableIndex request.guid request.name).1.entry pos).Names
        request.guid request.name := by
      rw [entry]
      exact ⟨rfl, rfl, rfl⟩
    have unsetAfter : ((store.view.withIndex (addEntry store.variableIndex request.guid
        request.name).1).lookup request.guid request.name).isSome = false := by
      rw [lookup_isSome extended.index named]
      have info := congrArg (fun added => added.isVariableSet) entry
      exact info
    have unsetBefore : (store.view.lookup request.guid request.name).isSome = false := by
      have missing : findVariable store.view.variableIndex request.guid request.name = none :=
        absent
      unfold StoreView.lookup
      rw [missing]
      rfl
    have kept := (addEntry_sameVariables store.view request.guid request.name).guards
      (fun _ _ member => member) guards
    have guarded := outcome.guards works extended named kept
    unfold AuthHistory.afterSet at guarded ⊢
    rw [unsetBefore]
    have extendedView : ({ store with variableIndex := (addEntry store.variableIndex request.guid
        request.name).1 } : UefiVariableStore).view = store.view.withIndex
          (addEntry store.variableIndex request.guid request.name).1 := rfl
    rw [extendedView, unsetAfter] at guarded
    exact guarded

end

/-- A store that is on: its records of the current names are up to date, and what it has accepted
is outdated. -/
structure AuthGuarded (config : BuildConfig) (limit : Nat) (store : UefiVariableStore)
    (history : AuthHistory) : Prop where
  wellFormed : store.view.WellFormed Terminated limit
  saved : store.view.Saved limit fun _ key => history.current key = true
  guards : store.view.Guards config history.accepted

/-- What is left of it while the power is off. -/
structure CopyGuarded (config : BuildConfig) (limit : Nat) (persistent : FaultyStore)
    (history : AuthHistory) : Prop where
  copies : CopiesWellFormed Terminated limit persistent.objects
  loads : ∃ active index, LoadsIndex limit persistent.objects active index ∧
    (config.authVar = true → ∀ at_, (index.entry at_).isDumped = true →
      persistent.objects (index.entry at_).uid ≠ none →
      hasAny (index.entry at_).attributes
        efiVariableTimeBasedAuthenticatedWriteAccess = true →
      history.current (index.entry at_).key = true →
      ∀ request ∈ history.accepted (index.entry at_).key,
        Outdated request (index.entry at_).timestamp)

variable {config : BuildConfig} {limit : Nat} {history : AuthHistory}
  {store : UefiVariableStore} {names : Bytes → Prop}

theorem StoreView.SavedAs.exists_records {view : StoreView}
    {index : VariableIndex} {fresh : EfiGuid × Bytes → Prop}
    (savedAs : view.SavedAs limit fresh index) (valid : view.WellFormed names limit) {at_ : Nat}
    (dumped : (index.entry at_).isDumped = true)
    (present : view.objects true (index.entry at_).uid ≠ none) :
    ∃ pos, (view.entry pos).isDumped = true ∧
      Records fresh (view.entry pos).info.metadata (index.entry at_).info.metadata := by
  obtain ⟨pos, isDumped, identity⟩ := savedAs.stale at_ dumped present
  exact ⟨pos, isDumped, savedAs.records_of_uid valid isDumped dumped
    (congrArg (fun identity => identity.2.2) identity)⟩

theorem AuthGuarded.powerOff
    (guarded : AuthGuarded config limit store history) :
    CopyGuarded config limit store.persistentStore.storageBackend history := by
  obtain ⟨index, savedAs⟩ := guarded.saved
  refine ⟨guarded.wellFormed.copies, store.activeVariableIndexUid, index, savedAs.loads, ?_⟩
  intro authVar at_ dumped present signed current request accepted
  obtain ⟨pos, isDumped, records⟩ := savedAs.exists_records guarded.wellFormed dumped present
  obtain ⟨key, rest⟩ := Prod.mk.inj records.identity
  obtain ⟨attributes, _⟩ := Prod.mk.inj rest
  have sameKey : (index.entry at_).key = (store.view.entry pos).key := key
  rw [sameKey] at current accepted
  rw [attributes] at signed
  rw [records.timestamp current]
  exact guarded.guards authVar pos ((isDumped_iff _).mp isDumped).1 signed request accepted

theorem CopyGuarded.powerOn (few : limit < 2 ^ 31) {persistent : FaultyStore}
    (guarded : CopyGuarded config limit persistent history) {calm : Env}
    (works : calm.ErrorFree) :
    ∃ again, uefiVariableStoreInit config calm limit persistent .fresh = (.success, again) ∧
      AuthGuarded config limit again history.restarted := by
  obtain ⟨active, index, loads, outdated⟩ := guarded.loads
  have allSaved := (loads.wellFormed few guarded.copies).2
  obtain ⟨loaded, again, started, sameIndex, objects, validLoaded, _, purge⟩ :=
    uefiVariableStoreInit_loads config works few guarded.copies loads
  have loadedIndex : loaded.view.variableIndex = index := sameIndex
  rw [← loadedIndex] at allSaved
  refine ⟨again, started, purge.wellFormed validLoaded, ?_, ?_⟩
  · exact uefiVariableStoreInit_saved (fun count call _ => works.calls true count call) few
      guarded.copies started
  · intro authVar pos isSet signed request accepted
    obtain ⟨info, dumped, present⟩ := purge.kept_entry (purge.isDumped_of_set allSaved isSet)
    have used := ((isSet_iff _).mp ((isDumped_iff _).mp dumped).1).1
    rw [objects _ (validLoaded.data_uid pos used)] at present
    rw [loadedIndex] at info dumped present
    unfold VariableEntry.key at accepted
    rw [info] at signed accepted ⊢
    simp only [AuthHistory.restarted] at accepted
    split_ifs at accepted ⊢ with current
    · exact outdated authVar pos dumped present signed current request accepted
    · cases accepted

/-- The guards of a device that is on or off. -/
structure GuardedState (config : BuildConfig) (limit : Nat) (state : Device × AuthHistory) :
    Prop where
  proper : state.2.Proper
  off : ∀ persistent, state.1 = .off persistent →
    CopyGuarded config limit persistent state.2
  running : ∀ store, state.1 = .running store → AuthGuarded config limit store state.2

section

variable (guarded : AuthGuarded config limit store history)
  {env : Env} (works : ∀ isNv count call, env.fault isNv count call = none)

include guarded works

theorem AuthGuarded.setVariable (request : AccessVariable) :
    AuthGuarded config limit (serve config env store (.setVariable request))
      (history.afterSet store.view (serve config env store (.setVariable request)).view request
        (uefiVariableStoreSetVariable config env store request).1) := by
  have outcome := uefiVariableStoreSetVariable_outcome config env store request
    guarded.wellFormed.hasRoom
  have steady : Steady env request := ⟨fun count call _ => works true count call,
    fun _ count uid => works true count _⟩
  refine ⟨serve_wellFormed env guarded.wellFormed (.setVariable request) id, ?_,
    outcome.guards works guarded.wellFormed guarded.guards⟩
  -- After a write of the index the records of all other names are up to date.
  have before : store.view.Saved limit fun counter key =>
      key ≠ (request.guid, request.name) ∧
        (history.current key = true ∨ counter ≠ store.counter) := by
    apply guarded.saved.mono
    rintro key ⟨_, current | changed⟩
    · exact current
    · exact absurd rfl changed
  apply (outcome.saved steady guarded.wellFormed (fun _ own => own.1 rfl) before).mono
  intro key current
  simp only [AuthHistory.afterSet, Bool.and_eq_true, Bool.or_eq_true, decide_eq_true_eq] at current
  exact current

theorem AuthGuarded.other (request : Request)
    (other : ∀ variable_, request ≠ .setVariable variable_)
    (named : (Event.request env request).Named Terminated) :
    AuthGuarded config limit (serve config env store request)
      (history.afterOther store.view (serve config env store request).view) := by
  have same : store.view.SameVariables (serve config env store request).view :=
    serve_sameVariables env guarded.wellFormed.hasRoom request other
  refine ⟨serve_wellFormed env guarded.wellFormed request named, ?_,
    same.guards (fun _ _ member => member) guarded.guards⟩
  have before : store.view.Saved limit fun counter key =>
      history.current key = true ∨ counter ≠ store.counter := by
    apply guarded.saved.mono
    rintro key (current | changed)
    · exact current
    · exact absurd rfl changed
  have saved : (serve config env store request).view.Saved limit _ :=
    serve_saved (fun count call _ => works true count call) guarded.wellFormed before request other
  apply saved.mono
  intro key current
  simp only [AuthHistory.afterOther, Bool.or_eq_true, decide_eq_true_eq] at current
  exact current

end

theorem authStep_guarded (few : limit < 2 ^ 31) {state : Device × AuthHistory} {event : Event}
    (guarded : GuardedState config limit state) (errorFree : ErrorFreeEvent state event) :
    GuardedState config limit (authStep config limit state event) := by
  obtain ⟨device, history⟩ := state
  obtain ⟨proper, off, running⟩ := guarded
  cases device with
  | off persistent =>
    have copy := off persistent rfl
    cases event with
    | powerOn env =>
      obtain ⟨again, started, guardedAgain⟩ := copy.powerOn few errorFree
      have stepped : authStep config limit (.off persistent, history) (.powerOn env) =
          (.running again, history.restarted) := by
        unfold authStep Device.step
        dsimp only
        rw [started]
      rw [stepped]
      refine ⟨fun key request member => ?_, nofun, fun store same => ?_⟩
      · simp only [AuthHistory.restarted] at member
        split at member
        · exact proper key request member
        · cases member
      · obtain rfl := Device.running.inj same
        exact guardedAgain
    | powerOff => exact ⟨proper, off, running⟩
    | request env request => exact ⟨proper, off, running⟩
  | running store =>
    have on := running store rfl
    cases event with
    | powerOn env => exact ⟨proper, off, running⟩
    | powerOff =>
      refine ⟨proper, fun persistent same => ?_, nofun⟩
      obtain rfl := Device.off.inj same
      exact on.powerOff
    | request env request =>
      cases request with
      | setVariable request =>
        refine ⟨?_, nofun, fun after same => ?_⟩
        · exact (uefiVariableStoreSetVariable_outcome config env store request
            on.wellFormed.hasRoom).proper proper
        · obtain rfl := Device.running.inj same
          exact on.setVariable errorFree request
      | setVarCheckProperty guid name property =>
        refine ⟨proper, nofun, fun after same => ?_⟩
        obtain rfl := Device.running.inj same
        exact on.other errorFree _ nofun id
      | _ =>
        refine ⟨proper, nofun, fun after same => ?_⟩
        obtain rfl := Device.running.inj same
        exact on.other errorFree _ nofun trivial

theorem StoreView.authentication_of_set {view : StoreView} {pos : Nat}
    (valid : view.variableIndex.WellFormed names)
    (isSet : (view.entry pos).isSet = true) :
    view.authentication (view.entry pos).key =
      some ((view.entry pos).timestamp, (view.entry pos).fingerprint) := by
  obtain ⟨used, set⟩ := (isSet_iff _).mp isSet
  have found : findVariable view.variableIndex (view.entry pos).key.1
      (view.entry pos).key.2 = some pos :=
    findVariable_of_names valid ⟨used, rfl, rfl⟩
  unfold StoreView.authentication
  rw [found, Option.bind_some, if_pos set]

/-- A request whose timestamp is not later than that of its variable is refused for it, unless it
is not even permitted. -/
def RefusesReplay (config : BuildConfig) (env : Env) (store : UefiVariableStore)
    (request : AccessVariable) : Prop :=
  ∃ pos, findVariable store.variableIndex request.guid request.name = some pos ∧
    Outdated request (store.entry pos).timestamp ∧
    (uefiVariableStoreSetVariable config env store request).1 =
      if checkAccessPermittedOnSet store (store.entry pos).info request.data.length =
        .success then .securityViolation
      else checkAccessPermittedOnSet store (store.entry pos).info request.data.length

/-- Of the variables that survive a power cycle without errors, those that no request has named
since the index was last written keep their timestamp and fingerprint, and refuse what they have
accepted before. -/
theorem authentication_survives_restart (few : limit < 2 ^ 31) {state : Device × AuthHistory}
    (reached : Reached (authStep config limit) (.off .fresh, .start) ErrorFreeEvent state)
    {store : UefiVariableStore} (running : state.1 = .running store) {calm : Env}
    (works : calm.ErrorFree) :
    ∃ again, uefiVariableStoreInit config calm limit store.persistentStore.storageBackend
        .fresh = (.success, again) ∧
      ∀ key attributes data, state.2.current key = true →
        again.view.values key = some (attributes, data) →
        again.view.authentication key = store.view.authentication key ∧
        (config.authVar = true →
          hasAny attributes efiVariableTimeBasedAuthenticatedWriteAccess = true →
          ∀ request ∈ state.2.accepted key, ∀ env, RefusesReplay config env again request) := by
  have guarded : GuardedState config limit state := by
    refine reached.invariant (GuardedState config limit) ?_
      fun _ _ _ holds errorFree => authStep_guarded few holds errorFree
    refine ⟨fun _ _ member => (nomatch member), fun persistent same => ?_, nofun⟩
    obtain rfl := Device.off.inj same
    refine ⟨fun _ _ _ present => (nomatch present), _, _, .fresh rfl, ?_⟩
    exact fun _ _ _ present => absurd rfl present
  have on := guarded.running store running
  obtain ⟨index, savedAs⟩ := on.saved
  obtain ⟨loaded, again, started, sameIndex, objects, validLoaded, _, purge⟩ :=
    uefiVariableStoreInit_loads config works few on.wellFormed.copies savedAs.loads
  have validAgain := purge.wellFormed validLoaded
  refine ⟨again, started, ?_⟩
  intro key attributes data current survives
  obtain ⟨at_, found⟩ := (values_eq_some_iff validAgain.index).mp survives
  obtain ⟨setAgain, isKey, isAttributes, _⟩ := set_of_valueAt found
  subst isKey isAttributes
  have allSaved := (savedAs.loads.wellFormed few on.wellFormed.copies).2
  have loadedIndex : loaded.view.variableIndex = index := sameIndex
  rw [← loadedIndex] at allSaved
  obtain ⟨info, dumped, present⟩ := purge.kept_entry (purge.isDumped_of_set allSaved setAgain)
  have used := ((isSet_iff _).mp ((isDumped_iff _).mp dumped).1).1
  rw [objects _ (validLoaded.data_uid at_ used)] at present
  rw [loadedIndex] at info dumped present
  obtain ⟨pos, isDumped, records⟩ := savedAs.exists_records on.wellFormed dumped present
  rw [← info] at records
  obtain ⟨key, rest⟩ := Prod.mk.inj records.identity
  have sameKey : (again.view.entry at_).key = (store.view.entry pos).key := key
  have isSet := ((isDumped_iff _).mp isDumped).1
  have isCurrent : state.2.current (store.view.entry pos).key = true := by
    rw [← sameKey]
    exact current
  constructor
  · rw [StoreView.authentication_of_set validAgain.index setAgain, sameKey,
      StoreView.authentication_of_set on.wellFormed.index isSet,
      records.timestamp isCurrent, records.fingerprint isCurrent]
  · intro authVar signed request accepted env
    obtain ⟨named, terminated, capable⟩ := guarded.proper _ request accepted
    obtain ⟨sameGuid, sameName⟩ := Prod.mk.inj named
    obtain ⟨usedAgain, set⟩ := (isSet_iff _).mp setAgain
    have found : findVariable again.variableIndex request.guid request.name = some at_ :=
      findVariable_of_names validAgain.index ⟨usedAgain, sameGuid.symm, sameName.symm⟩
    have setHere : (again.entry at_).isVariableSet = true := set
    have needed : needsAuthentication config (again.entry at_).info request = true := by
      unfold needsAuthentication
      rw [if_pos setHere, authVar]
      exact signed
    have outdated : Outdated request (again.entry at_).timestamp := by
      have time : (again.entry at_).timestamp =
          (store.view.entry pos).timestamp :=
        records.timestamp isCurrent
      rw [time]
      refine on.guards authVar pos isSet ?_ request (sameKey ▸ accepted)
      rw [← (Prod.mk.inj rest).1]
      exact signed
    exact ⟨at_, found, outdated,
      setVariable_outdated terminated capable found setHere needed outdated⟩

/-- Data with a descriptor without certificate, stamped 1 January 2024 at `second`. -/
def signedData (second : UInt8) (payload : Bytes) : Bytes :=
  [0xE8, 0x07, 1, 1, 0, 0, second, 0, 0, 0, 0, 0, 0, 0, 0, 0] ++
    ([24, 0, 0, 0, 0x00, 0x02, 0xF1, 0x0E] ++ (efiCertTypePkcs7Guid.toBytes ++ payload))

/-- Nothing fails and every signature is good. -/
def Env.trusting : Env :=
  { Env.calm with
    verifyPkcs7Signature := fun _ _ _ => true
    fingerprint := fun _ => some 7 }

/-- The variable `A` is set before the variable `B` is created. -/
theorem authentication_survives_restart_letters :
    ∃ store again, Reachable (.standard true) 3 (.running store) ∧
      uefiVariableStoreInit (.standard true) .calm 3 store.persistentStore.storageBackend .fresh =
        (.success, again) ∧
      again.view.authentication (.zero, [0x41, 0, 0, 0]) =
        some (⟨2024, 1, 1, 0, 0, 1, 0, 0, 0, 0, 0⟩, 7) ∧
      RefusesReplay (.standard true) .trusting again
        ⟨.zero, 0x27#32, [0x41, 0, 0, 0], signedData 1 [9]⟩ := by
  let first : AccessVariable := ⟨.zero, 0x27#32, [0x41, 0, 0, 0], signedData 1 [9]⟩
  let second : AccessVariable := ⟨.zero, 0x27#32, [0x42, 0, 0, 0], signedData 2 [8]⟩
  let events : List Event := [.powerOn .calm, .request .trusting (.setVariable first),
    .request .trusting (.setVariable second)]
  let state := events.foldl (authStep (.standard true) 3) (.off .fresh, .start)
  obtain ⟨store, running, survives, recorded⟩ : ∃ store ∈ state.1.store?,
      (uefiVariableStoreInit (.standard true) .calm 3 store.persistentStore.storageBackend
        .fresh).2.view.values (.zero, [0x41, 0, 0, 0]) = some (0x27#32, [9]) ∧
      store.view.authentication (.zero, [0x41, 0, 0, 0]) =
        some (⟨2024, 1, 1, 0, 0, 1, 0, 0, 0, 0, 0⟩, 7) := by
    decide +kernel
  have current : state.2.current (.zero, [0x41, 0, 0, 0]) = true := by decide +kernel
  have accepted : first ∈ state.2.accepted (.zero, [0x41, 0, 0, 0]) := by decide +kernel
  have reached : Reached (authStep (.standard true) 3) (.off .fresh, .start) ErrorFreeEvent
      state := by
    refine reached_foldl events ?_ .start
    simp only [events, List.forall_mem_cons]
    exact ⟨fun _ => Env.calm_errorFree, fun _ _ _ _ => rfl, fun _ _ _ _ => rfl, nofun⟩
  have same : state.1 = Device.run (.standard true) 3 events := rfl
  obtain ⟨again, started, keeps⟩ := authentication_survives_restart (by decide) reached
    (Device.eq_running running) Env.calm_errorFree
  rw [started] at survives
  obtain ⟨kept, refuses⟩ := keeps _ _ _ current survives
  refine ⟨store, again, reachable_run (same ▸ running), started, kept.trans recorded, ?_⟩
  exact refuses rfl (by decide) first accepted .trusting

/-- The variable `A` is updated after the variable `B` was created. The power cycle takes the
timestamp back, and the same request is accepted again. -/
theorem setVariable_replay_accepted :
    let request : AccessVariable := ⟨.zero, 0x27#32, [0x41, 0, 0, 0], signedData 3 [7]⟩
    ∃ store, Reachable (.standard true) 3 (.running store) ∧
      let again := (uefiVariableStoreInit (.standard true) .calm 3
        store.persistentStore.storageBackend .fresh).2
      store.view.authentication (.zero, [0x41, 0, 0, 0]) =
        some (⟨2024, 1, 1, 0, 0, 3, 0, 0, 0, 0, 0⟩, 7) ∧
      again.view.authentication (.zero, [0x41, 0, 0, 0]) =
        some (⟨2024, 1, 1, 0, 0, 1, 0, 0, 0, 0, 0⟩, 7) ∧
      (uefiVariableStoreSetVariable (.standard true) .trusting store request).1 =
        .securityViolation ∧
      (uefiVariableStoreSetVariable (.standard true) .trusting again request).1 = .success := by
  intro request
  exact exists_reachable [.powerOn .calm,
      .request .trusting (.setVariable ⟨.zero, 0x27#32, [0x41, 0, 0, 0], signedData 1 [9]⟩),
      .request .trusting (.setVariable ⟨.zero, 0x27#32, [0x42, 0, 0, 0], signedData 2 [8]⟩),
      .request .trusting (.setVariable request)] (by decide +kernel)

end SmmVariable
