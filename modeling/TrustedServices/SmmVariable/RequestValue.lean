import TrustedServices.SmmVariable.Run
import TrustedServices.SmmVariable.Values

/- What a request asks for, and what it leaves at its own position. -/
namespace SmmVariable

open Lib VariableEntry VariableIndex StoreView

def requestsDeletion (request : AccessVariable) : Bool :=
  !hasAny request.attributes (efiVariableBootserviceAccess ||| efiVariableRuntimeAccess) ||
    (!hasAny request.attributes efiVariableAppendWrite && request.data.length == 0)

def requestedValue (request : AccessVariable) (old : Option (Attributes × Bytes)) :
    Option (Attributes × Bytes) :=
  if requestsDeletion request then none
  else if hasAny request.attributes efiVariableAppendWrite then
    old.map fun value => (value.1, value.2 ++ request.data)
  else some (request.attributes, request.data)

def VariableMap.set (map : VariableMap) (request : AccessVariable) : VariableMap :=
  Function.update map (request.guid, request.name)
    (requestedValue request (map (request.guid, request.name)))

/-- Every object but the copies of the index holds the data of a set variable. -/
def StoreView.Owned (view : StoreView) : Prop :=
  ∀ isNv uid, ¬ isIndexUid uid → view.objects isNv uid ≠ none →
    ∃ pos, (view.entry pos).isSet = true ∧
      (view.entry pos).uid = uid ∧
      isNonVolatile (view.entry pos).attributes = isNv

/-- No variable needs authentication. -/
def StoreView.Unauthenticated (view : StoreView) : Prop :=
  ∀ pos, (view.entry pos).isSet = true →
    hasAny (view.entry pos).attributes efiVariableTimeBasedAuthenticatedWriteAccess = false

section

variable {view : StoreView} {pos : Nat}

theorem valueAt_of_set (isSet : (view.entry pos).isSet = true) :
    view.valueAt pos =
      (view.objects (isNonVolatile (view.entry pos).attributes)
        (view.entry pos).uid).map fun object =>
          ((view.entry pos).key, (view.entry pos).attributes, object.data) := by
  unfold valueAt contents
  rw [if_pos isSet, Option.map_map]
  rfl

theorem set_of_valueAt {found : (EfiGuid × Bytes) × Attributes × Bytes}
    (holds : view.valueAt pos = some found) :
    (view.entry pos).isSet = true ∧ found.1 = (view.entry pos).key ∧
      found.2.1 = (view.entry pos).attributes ∧
      view.objects (isNonVolatile (view.entry pos).attributes) (view.entry pos).uid ≠ none := by
  by_cases isSet : (view.entry pos).isSet = true
  · rw [valueAt_of_set isSet] at holds
    obtain ⟨object, present, rfl⟩ := Option.map_eq_some_iff.mp holds
    refine ⟨isSet, rfl, rfl, ?_⟩
    rw [present]
    exact Option.some_ne_none _
  · unfold valueAt at holds
    rw [if_neg isSet] at holds
    cases holds

theorem valueAt_of_unset (unset : (view.entry pos).isVariableSet = false) :
    view.valueAt pos = none := by
  unfold valueAt VariableEntry.isSet
  rw [unset, Bool.and_false]
  rfl

variable {names : Bytes → Prop}

theorem values_named {key : EfiGuid × Bytes} (valid : view.variableIndex.WellFormed names)
    (named : (view.entry pos).Names key.1 key.2) :
    view.values key = (view.valueAt pos).map Prod.snd := by
  have found := findVariable_of_names valid named
  unfold values lookup
  rw [found, Option.bind_some]
  by_cases isSet : (view.entry pos).isVariableSet = true
  · rw [if_pos isSet]
    unfold valueAt
    rw [if_pos ((isSet_iff _).mpr ⟨named.1, isSet⟩), Option.map_map]
    rfl
  · rw [if_neg isSet, valueAt_of_unset (Bool.eq_false_iff.mpr isSet)]
    rfl

theorem StoreView.Owned.exclusive (owned : view.Owned)
    (valid : view.variableIndex.WellFormed names) (used : (view.entry pos).inUse = true)
    (data : ¬ isIndexUid (view.entry pos).uid) (isNv : Bool)
    (present : view.objects isNv (view.entry pos).uid ≠ none) :
    (view.entry pos).isVariableSet = true ∧
      isNonVolatile (view.entry pos).attributes = isNv := by
  obtain ⟨owner, isSet, uid, backend⟩ := owned isNv _ data present
  obtain ⟨ownerUsed, ownerSet⟩ := (isSet_iff _).mp isSet
  have same : owner = pos := by
    by_contra distinct
    exact (valid.apart owner pos distinct ownerUsed used).2 uid
  subst same
  exact ⟨ownerSet, backend⟩

end

variable {names : Bytes → Prop}

/-- A request changes the map at its own name only, unless a purge is misled. -/
theorem SetAtOutcome.values_eq {config : BuildConfig} {env : Env} {store : UefiVariableStore}
    {request : AccessVariable} {status : EfiStatus} {after : StoreView}
    {limit pos : Nat} (outcome : SetAtOutcome config env store pos request status after)
    (valid : store.view.WellFormed names limit)
    (named : (store.entry pos).Names request.guid request.name)
    (finds : PurgeFinds (env.fault true)) :
    after.values = Function.update store.view.values (request.guid, request.name)
      ((after.valueAt pos).map Prod.snd) := by
  obtain ⟨used, sameGuid, sameName⟩ := named
  have frame := outcome.frame valid used
  have separate : store.view.Separate pos (store.entry pos).uid := valid.separate used
  have key : (store.view.entry pos).key = (request.guid, request.name) := Prod.ext sameGuid sameName
  apply values_update valid.index (outcome.wellFormed valid used).index
  · intro other distinct
    exact frame.valueAt_eq finds separate distinct
  · intro found holds
    exact (set_of_valueAt holds).2.1.trans key
  · intro found holds
    obtain ⟨isSet, sameKey, _⟩ := set_of_valueAt holds
    have usedAfter := ((isSet_iff _).mp isSet).1
    have follows := (outcome.follows used).entry pos
    rw [sameKey, ← key]
    exact Prod.ext (follows.guid usedAfter) (follows.name usedAfter)
  · intro other distinct found holds same
    obtain ⟨otherSet, otherKey, _⟩ := set_of_valueAt holds
    have apart := valid.index.apart other pos distinct ((isSet_iff _).mp otherSet).1 used
    rw [otherKey, ← key] at same
    exact apart.1 (Prod.mk.inj same)

theorem isRemoveOperation_eq {request : AccessVariable}
    (capable : checkCapabilities request.attributes = .success) :
    isRemoveOperation request = requestsDeletion request := by
  have enhanced : hasAny request.attributes efiVariableEnhancedAuthenticatedAccess = false := by
    unfold checkCapabilities at capable
    by_contra set
    rw [Bool.not_eq_false] at set
    split at capable
    · cases capable
    · split at capable
      · cases capable
      · split at capable <;> cases capable
  unfold isRemoveOperation requestsDeletion
  rw [hasAny_or _ efiVariableAppendWrite, enhanced, Bool.or_false]

/-- What a request does at its own position of the table. -/
structure OwnStep (request : AccessVariable) (pos uid : Nat) (before after : StoreView)
    (status : EfiStatus) : Prop where
  success : status = .success → (after.valueAt pos).map Prod.snd =
    requestedValue request ((before.valueAt pos).map Prod.snd)
  failure : status ≠ .success → (after.valueAt pos).map Prod.snd =
    (before.valueAt pos).map Prod.snd
  key : (after.entry pos).isSet = true →
    (after.entry pos).key = (before.entry pos).key
  owned : ∀ isNv, after.objects isNv uid ≠ none →
    (after.entry pos).isSet = true ∧
      (after.entry pos).uid = uid ∧
      isNonVolatile (after.entry pos).attributes = isNv
  plain : (after.entry pos).isSet = true →
    hasAny (after.entry pos).attributes efiVariableTimeBasedAuthenticatedWriteAccess = false

variable {view after : StoreView} {request : AccessVariable} {status : EfiStatus} {pos uid : Nat}

theorem ownStep_unset (unset : (after.entry pos).isVariableSet = false)
    (gone : ∀ isNv, after.objects isNv uid = none)
    (success : status = .success → requestedValue request ((view.valueAt pos).map Prod.snd) = none)
    (failure : status ≠ .success → view.valueAt pos = none) :
    OwnStep request pos uid view after status := by
  have notSet : (after.entry pos).isSet ≠ true := by
    intro set
    rw [((isSet_iff _).mp set).2] at unset
    cases unset
  refine ⟨fun done => ?_, fun error => ?_, fun set => absurd set notSet,
    fun isNv present => absurd (gone isNv) present, fun set => absurd set notSet⟩
  · rw [valueAt_of_unset unset, success done]
    rfl
  · rw [valueAt_of_unset unset, failure error]

theorem ownStep_set (isSet : (after.entry pos).isSet = true)
    (key : (after.entry pos).key = (view.entry pos).key)
    (sameUid : (after.entry pos).uid = uid)
    (alone : after.objects (!isNonVolatile (after.entry pos).attributes) uid =
      none) (plain : hasAny (after.entry pos).attributes
      efiVariableTimeBasedAuthenticatedWriteAccess = false)
    (value : (after.objects (isNonVolatile (after.entry pos).attributes)
        uid).map (fun object => ((after.entry pos).attributes, object.data)) =
      if status = .success then requestedValue request ((view.valueAt pos).map Prod.snd)
      else (view.valueAt pos).map Prod.snd) :
    OwnStep request pos uid view after status := by
  have own : (after.valueAt pos).map Prod.snd =
      if status = .success then requestedValue request ((view.valueAt pos).map Prod.snd)
      else (view.valueAt pos).map Prod.snd := by
    rw [valueAt_of_set isSet, Option.map_map, ← value, sameUid]
    rfl
  refine ⟨fun done => ?_, fun error => ?_, fun _ => key, fun isNv present => ?_, fun _ => plain⟩
  · rw [own, if_pos done]
  · rw [own, if_neg error]
  · refine ⟨isSet, sameUid, ?_⟩
    by_contra other
    have flipped : isNv = !isNonVolatile (after.entry pos).attributes := by
      cases isNv <;> simpa using other
    rw [flipped] at present
    exact present alone

theorem ownStep_kept (valid : view.variableIndex.WellFormed names)
    (used : (view.entry pos).inUse = true)
    (owned : view.Owned) (plain : view.Unauthenticated)
    (data : ¬ isIndexUid (view.entry pos).uid)
    (inUse : (after.entry pos).inUse = (view.entry pos).inUse)
    (info : (after.entry pos).info = (view.entry pos).info)
    (objects : ∀ isNv, after.objects isNv (view.entry pos).uid =
      view.objects isNv (view.entry pos).uid)
    (error : status ≠ .success) :
    OwnStep request pos (view.entry pos).uid view after status := by
  have exclusive := owned.exclusive valid used data
  by_cases isSet : (view.entry pos).isVariableSet = true
  · have setBefore : (view.entry pos).isSet = true := (isSet_iff _).mpr ⟨used, isSet⟩
    apply ownStep_set
    · rw [isSet_iff, inUse, info]
      exact ⟨used, isSet⟩
    · unfold VariableEntry.key
      rw [info]
    · rw [info]
    · rw [info, objects]
      by_contra present
      exact absurd (exclusive _ present).2 (by simp)
    · rw [info]
      exact plain pos setBefore
    · rw [if_neg error, info, objects, valueAt_of_set setBefore, Option.map_map]
      rfl
  · have unset : (view.entry pos).isVariableSet = false := Bool.eq_false_iff.mpr isSet
    apply ownStep_unset
    · rw [info]
      exact unset
    · intro isNv
      rw [objects]
      by_contra present
      exact isSet (exclusive isNv present).1
    · exact fun done => absurd done error
    · exact fun _ => valueAt_of_unset unset

variable {config : BuildConfig} {env : Env}
  (works : ∀ isNv count call, env.fault isNv count call = none) {store : UefiVariableStore}
  {names : Bytes → Prop} {limit : Nat}

/-- A store of a run without authenticated variables and without errors. -/
structure StoreView.Plain (names : Bytes → Prop) (limit : Nat) (view : StoreView) : Prop where
  wellFormed : view.WellFormed names limit
  owned : view.Owned
  unauthenticated : view.Unauthenticated

theorem requestAuthenticated_plain (config : BuildConfig) (env : Env)
    (plain : store.view.Plain names limit)
    (used : (store.entry pos).inUse = true)
    (unsigned : hasAny request.attributes efiVariableTimeBasedAuthenticatedWriteAccess = false) :
    requestAuthenticated config env store (store.entry pos).info request =
      .ok ⟨(store.entry pos).timestamp, (store.entry pos).fingerprint, request.data⟩ := by
  have unneeded : needsAuthentication config (store.entry pos).info request =
      false := by
    unfold needsAuthentication
    split_ifs with isSet
    · have stored : hasAny (store.entry pos).attributes
          efiVariableTimeBasedAuthenticatedWriteAccess = false :=
        plain.unauthenticated pos ((isSet_iff _).mpr ⟨used, isSet⟩)
      rw [stored, Bool.and_false]
    · rw [unsigned, Bool.and_false]
  unfold requestAuthenticated authenticateIfNeeded
  rw [unneeded]
  rfl

variable {timestamp : EfiTime} {fingerprint : BitVec 256} {shouldSyncIndex : Bool}

include works in
theorem ownStep_deleted (plain : store.view.Plain names limit)
    (used : (store.entry pos).inUse = true)
    (capable : checkCapabilities request.attributes = .success)
    (removes : isRemoveOperation request = true) {removed : StoreView}
    (removal : RemoveOutcome env store.view (store.entry pos).info removed)
    (finish : FinishOutcome config env
      (removed.modifyEntry pos withoutVariable) pos shouldSyncIndex timestamp
      fingerprint request status after) :
    OwnStep request pos (store.entry pos).uid store.view after status := by
  have data := plain.wellFormed.data_uid pos used
  obtain ⟨inside, _, entry⟩ := removal.cleared (inside_of_inUse used)
  obtain ⟨done, unset, objects⟩ := finish.own_unset (indexCallsWork_of_works (works true))
    inside (by rw [entry]) (by rw [entry]; exact data)
  rw [entry] at objects
  apply ownStep_unset unset
  · intro isNv
    refine (objects isNv).trans ?_
    change (removed.modifyEntry pos _).objects isNv (store.entry pos).uid = none
    cases removal with
    | failed injected =>
      obtain ⟨count, error, fails⟩ := injected
      rw [works] at fails
      cases fails
    | removed =>
      by_contra present
      by_cases same : isNv = isNonVolatile (store.entry pos).attributes
      · subst same
        simp [modifyEntry, withIndex, withObjects] at present
      · simp only [modifyEntry, withIndex, withObjects, Function.update_of_ne same] at present
        exact same (plain.owned.exclusive plain.wellFormed.index used data isNv present).2.symm
  · intro _
    rw [requestedValue, ← isRemoveOperation_eq capable, if_pos removes]
  · exact fun error => absurd done error

theorem map_writtenObject {old : Option Object} {attributes : Attributes}
    (keeps : requestsDeletion request = false)
    (same : request.attributes &&& ~~~efiVariableAppendWrite = attributes) :
    (writtenObject request old).map (fun object => (attributes, object.data)) =
      requestedValue request (old.map fun object => (attributes, object.data)) := by
  unfold writtenObject requestedValue
  rw [keeps, if_neg Bool.false_ne_true]
  by_cases append : hasAny request.attributes efiVariableAppendWrite = true
  · rw [if_pos append, if_pos append]
    split_ifs with empty
    · have nothing : request.data = [] := List.length_eq_zero_iff.mp empty
      rw [nothing, Option.map_map]
      cases old <;> simp
    · cases old <;> rfl
  · rw [if_neg append, if_neg append, ← same, without_append_of_not (Bool.eq_false_iff.mpr append)]
    rfl

include works in
/-- An update writes what it asks for, or keeps the variable as it was. -/
theorem ownStep_updated (plain : store.view.Plain names limit)
    (used : (store.entry pos).inUse = true)
    (isSet : (store.entry pos).isVariableSet = true)
    (keeps : requestsDeletion request = false)
    (same : request.attributes &&& ~~~efiVariableAppendWrite = (store.entry pos).attributes)
    (finish : FinishOutcome config env store.view pos false
      (store.entry pos).timestamp
      (store.entry pos).fingerprint request status after) :
    OwnStep request pos (store.entry pos).uid store.view after status := by
  have data := plain.wellFormed.data_uid pos used
  have exclusive := plain.owned.exclusive plain.wellFormed.index used data
  have set : (store.view.entry pos).isSet = true := (isSet_iff _).mpr ⟨used, isSet⟩
  rcases finish.own_set (indexCallsWork_of_works (works true)) (inside_of_inUse used)
    (purgeFinds_of_works (works true)) isSet data with
    ⟨rfl, _, inUse, info, written, other⟩ |
      ⟨error, objects, ⟨inUse, info⟩ | ⟨isNv, absent, unset⟩⟩
  · have info_ : (after.entry pos).info = (store.entry pos).info := info
    apply ownStep_set
    · rw [isSet_iff, inUse, info_]
      exact ⟨used, isSet⟩
    · unfold VariableEntry.key
      rw [info_]
      rfl
    · rw [info_]
    · rw [info_]
      refine other.trans ?_
      by_contra present
      exact absurd (exclusive _ present).2 (by simp)
    · rw [info_]
      exact plain.unauthenticated pos set
    · rw [if_pos rfl, info_, valueAt_of_set set, Option.map_map]
      exact (congrArg (Option.map _) written).trans (map_writtenObject keeps same)
  · exact ownStep_kept plain.wellFormed.index used plain.owned plain.unauthenticated data inUse info
      objects error
  · apply ownStep_unset unset
    · intro backend
      refine (objects backend).trans ?_
      by_contra present
      have sameBackend := (exclusive backend present).2
      rw [← sameBackend] at present
      exact present absent
    · exact fun done => absurd done error
    · intro _
      rw [valueAt_of_set set]
      exact congrArg (Option.map _) absent

include works in
/-- A creation writes what it asks for, or leaves a variable without data. -/
theorem ownStep_created (plain : store.view.Plain names limit)
    (used : (store.entry pos).inUse = true)
    (unset : (store.entry pos).isVariableSet = false)
    (unsigned : hasAny request.attributes efiVariableTimeBasedAuthenticatedWriteAccess = false)
    (keeps : requestsDeletion request = false) (nonempty : request.data.length ≠ 0)
    (finish : FinishOutcome config env
      (store.view.modifyEntry pos fun entry => entry.withVariable request.attributes) pos
      shouldSyncIndex timestamp fingerprint request status after) :
    OwnStep request pos (store.entry pos).uid store.view after status := by
  have data := plain.wellFormed.data_uid pos used
  have absent : ∀ isNv, store.view.objects isNv (store.entry pos).uid =
      none := by
    intro isNv
    by_contra present
    have isSet : (store.entry pos).isVariableSet = true :=
      (plain.owned.exclusive plain.wellFormed.index used data isNv present).1
    rw [unset] at isSet
    cases isSet
  have novalue : store.view.valueAt pos = none := valueAt_of_unset unset
  obtain ⟨inside, startedUse, started⟩ := store.entry_created request.attributes used
  have outcome := finish.own_set (indexCallsWork_of_works (works true)) inside
    (purgeFinds_of_works (works true)) (by rw [started]) (by rw [started]; exact data)
  rw [started, startedUse] at outcome
  rcases outcome with ⟨rfl, extended, inUse, info, written, other⟩ |
      ⟨error, objects, ⟨inUse, info⟩ | ⟨_, _, gone⟩⟩
  · have overwrites : hasAny request.attributes efiVariableAppendWrite = false := by
      by_contra append
      exact extended (Bool.not_eq_false _ ▸ append) nonempty (absent _)
    apply ownStep_set
    · rw [isSet_iff, inUse, info]
      exact ⟨rfl, rfl⟩
    · unfold VariableEntry.key
      rw [info]
      rfl
    · rw [info]
      rfl
    · rw [info]
      exact other.trans (absent _)
    · rw [info]
      exact unsigned
    · rw [if_pos rfl, novalue, info]
      refine (congrArg (Option.map _) written).trans ?_
      unfold writtenObject requestedValue
      rw [overwrites, keeps]
      rfl
  · apply ownStep_set
    · rw [isSet_iff, inUse, info]
      exact ⟨rfl, rfl⟩
    · unfold VariableEntry.key
      rw [info]
      rfl
    · rw [info]
      rfl
    · exact (objects _).trans (absent _)
    · rw [info]
      exact unsigned
    · rw [if_neg error, novalue, info]
      exact congrArg (Option.map _) ((objects _).trans (absent _))
  · apply ownStep_unset gone
    · exact fun isNv => (objects isNv).trans (absent isNv)
    · exact fun done => absurd done error
    · exact fun _ => novalue

include works in
theorem SetAtOutcome.ownStep (outcome : SetAtOutcome config env store pos request status after)
    (plain : store.view.Plain names limit)
    (used : (store.entry pos).inUse = true)
    (capable : checkCapabilities request.attributes = .success)
    (unsigned : hasAny request.attributes efiVariableTimeBasedAuthenticatedWriteAccess = false)
    (access : (store.entry pos).isVariableSet = false →
      request.data.length ≠ 0 →
      hasAny request.attributes (efiVariableBootserviceAccess ||| efiVariableRuntimeAccess) = true) :
    OwnStep request pos (store.entry pos).uid store.view after status := by
  have data := plain.wellFormed.data_uid pos used
  have inside := inside_of_inUse used
  have authenticated := requestAuthenticated_plain config env plain used unsigned
  have kept : ∀ {status : EfiStatus}, status ≠ .success →
      OwnStep request pos (store.entry pos).uid store.view store.view
        status :=
    fun error => ownStep_kept plain.wellFormed.index used plain.owned plain.unauthenticated data rfl
      rfl (fun _ => rfl) error
  cases outcome with
  | denied refused error =>
    have entry := store.view.entry_modifyEntry inside withoutUnused
    by_cases isSet : (store.entry pos).isVariableSet = true
    · have same := entry.trans (withoutUnused_of_set isSet)
      exact ownStep_kept plain.wellFormed.index used plain.owned plain.unauthenticated data
        (congrArg VariableEntry.inUse same) (congrArg VariableEntry.info same) (fun _ => rfl) error
    · have unset : (store.entry pos).isVariableSet = false := Bool.eq_false_iff.mpr isSet
      apply ownStep_unset
      · rw [entry]
        exact unset_withoutUnused unset
      · intro isNv
        by_contra present
        exact isSet (plain.owned.exclusive plain.wellFormed.index used data isNv present).1
      · exact fun done => absurd done error
      · exact fun _ => valueAt_of_unset unset
  | unauthenticated _ refused =>
    rw [authenticated] at refused
    cases refused
  | mismatched _ _ _ _ _ => exact kept nofun
  | emptied _ _ _ _ => exact kept nofun
  | deleted _ passed isSet removes removal finish =>
    rw [authenticated, Except.ok.injEq] at passed
    subst passed
    exact ownStep_deleted works plain used capable removes removal finish
  | updated _ passed isSet keeps same finish =>
    rw [authenticated, Except.ok.injEq] at passed
    subst passed
    rw [isRemoveOperation_eq capable] at keeps
    exact ownStep_updated works plain used isSet keeps same finish
  | created _ passed unset nonempty finish =>
    rw [authenticated, Except.ok.injEq] at passed
    subst passed
    have keeps : requestsDeletion request = false := by
      unfold requestsDeletion
      rw [access unset nonempty]
      simpa using fun _ => nonempty
    exact ownStep_created works plain used unset unsigned keeps nonempty finish

end SmmVariable
