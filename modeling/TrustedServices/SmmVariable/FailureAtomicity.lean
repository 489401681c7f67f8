import TrustedServices.SmmVariable.Observation

/- SetVariable requests that fail, and what they leave behind. -/
namespace SmmVariable

open Lib VariableEntry VariableIndex

/-- Whether data fits depends on the limits of the store, the backend and the UID of the variable
and what is stored there. -/
theorem WriteFits.congr {env : Env} {view other : StoreView} {info later : VariableInfo}
    {request : AccessVariable} (fits : WriteFits env view info request)
    (settings : other.settings = view.settings)
    (backend : isNonVolatile later.metadata.attributes = isNonVolatile info.attributes)
    (uid : later.metadata.uid = info.uid)
    (objects : other.objects (isNonVolatile info.attributes) info.uid =
      view.objects (isNonVolatile info.attributes) info.uid) :
    WriteFits env other later request := by
  constructor
  · rw [settings, backend, uid]
    exact fits.overwrites
  · rw [settings, backend, uid, objects]
    exact fits.appends

/-- A purge clears a variable whose data is missing. -/
theorem PurgeOutcome.gives_up {config : BuildConfig} {fault : Fault BackendCall}
    {view after : StoreView} {pos : Nat} (purge : PurgeOutcome config fault view after)
    (dumped : (view.entry pos).isDumped = true)
    (gone : view.objects true (view.entry pos).uid = none) :
    (after.entry pos).inUse = (view.entry pos).inUse ∧
      (after.entry pos).info =
        { (view.entry pos).info with isVariableSet := false } := by
  obtain ⟨next, step, used, info⟩ := purge.step pos
  rw [used, info]
  cases step with
  | kept present => exact absurd gone (present dumped)
  | cleared _ _ => exact ⟨inUse_withoutVariable _, info_withoutVariable _⟩

theorem VariableEntry.inUse_withoutUnused {entry : VariableEntry} (used : entry.inUse = true)
    (unset : entry.isVariableSet = false) :
    entry.withoutUnused.inUse = entry.isConstraintsSet := by
  unfold withoutUnused
  rw [unset, Bool.not_false, Bool.and_true]
  cases entry.isConstraintsSet with
  | false => rfl
  | true => exact used

section

variable {config : BuildConfig} {env : Env} (syncs : IndexCallsWork (env.fault true))
  {view after : StoreView} {pos : Nat} {shouldSyncIndex : Bool} {timestamp : EfiTime}
  {fingerprint : BitVec 256} {request : AccessVariable} {status : EfiStatus}

include syncs in
/-- A request that sets its variable and fails has data that does not fit. -/
theorem FinishOutcome.unfit
    (finish : FinishOutcome config env view pos shouldSyncIndex timestamp fingerprint request
      status after) (inside : pos < view.entries.length)
    (isSet : (view.entry pos).isVariableSet = true)
    (data : ¬ isIndexUid (view.entry pos).uid)
    (error : status ≠ .success) :
    ¬ WriteFits env view (view.entry pos).info request := by
  obtain ⟨recorded, stored, record, store, _⟩ := finish.recorded (.inr syncs) inside isSet data
  intro fits
  have stillFits : WriteFits env recorded
      ((view.entry pos).info.withAuthentication timestamp fingerprint) request :=
    fits.congr record.settings rfl rfl (record.objects _)
  cases store with
  | stored _ => exact error rfl
  | refused _ unfit _ => exact unfit stillFits
  | purged _ unfit _ _ => exact unfit stillFits

include syncs in
/-- A request that sets a non-volatile variable without data and fails gives the variable up. -/
theorem FinishOutcome.gives_up
    (finish : FinishOutcome config env view pos shouldSyncIndex timestamp fingerprint request
      status after) (used : (view.entry pos).inUse = true)
    (isSet : (view.entry pos).isVariableSet = true)
    (isNv : isNonVolatile (view.entry pos).attributes = true)
    (flag : (view.settings true).1 = true)
    (data : ¬ isIndexUid (view.entry pos).uid)
    (gone : view.objects true (view.entry pos).uid = none)
    (error : status ≠ .success) :
    (after.entry pos).isVariableSet = false ∧
      (after.entry pos).inUse = (view.entry pos).isConstraintsSet := by
  have inside := inside_of_inUse used
  obtain ⟨recorded, stored, record, store, rfl⟩ := finish.recorded (.inr syncs) inside isSet data
  have dumped : (recorded.entry pos).isDumped = true := by
    rw [isDumped_iff, isSet_iff, record.inUse, record.info]
    exact ⟨⟨used, isSet⟩, isNv⟩
  have missing : recorded.objects true (recorded.entry pos).uid =
      none := by
    rw [record.info]
    exact (record.objects true).trans gone
  cases store with
  | stored _ => exact absurd rfl error
  | refused _ _ isVolatile =>
    have backend : isNonVolatile ((view.entry pos).info.withAuthentication timestamp
        fingerprint).metadata.attributes = true := isNv
    rw [backend, record.settings, flag] at isVolatile
    cases isVolatile
  | purged _ _ _ purge =>
    obtain ⟨inUse, info⟩ := purge.gives_up dumped missing
    have storedUsed : (stored.entry pos).inUse = true := (inUse.trans record.inUse).trans used
    have unset : (stored.entry pos).isVariableSet = false := by rw [info]
    rw [stored.entry_modifyEntry (inside_of_inUse storedUsed)]
    refine ⟨unset_withoutUnused unset, ?_⟩
    rw [inUse_withoutUnused storedUsed unset, info, record.info]
    rfl

end

/-- The data of a request, without its descriptor if it has to be authenticated. -/
def requestPayload (config : BuildConfig) (info : VariableInfo) (request : AccessVariable) : Bytes :=
  if needsAuthentication config info request then
    ((initEfiDataMap request.data).map EfiDataMap.payload).getD []
  else request.data

/-- What a request may rely on at the entry it is for. A new non-volatile variable has no data yet
under its UID; what is written for a new volatile variable, or to update an authenticated one,
fits. -/
structure EntryReady (config : BuildConfig) (env : Env) (store : UefiVariableStore) (pos : Nat)
    (request : AccessVariable) : Prop where
  absent : (store.entry pos).isVariableSet = false →
    isNonVolatile request.attributes = true →
    store.objects true (store.entry pos).uid = none
  creates : (store.entry pos).isVariableSet = false →
    isNonVolatile request.attributes = false →
    WriteFits env store.view
      { (store.entry pos).info with metadata.attributes := request.attributes }
      { request with data := requestPayload config (store.entry pos).info request }
  updates : (store.entry pos).isVariableSet = true →
    needsAuthentication config (store.entry pos).info request = true →
    isRemoveOperation
      { request with data := requestPayload config (store.entry pos).info request } =
        false →
    request.attributes &&& ~~~efiVariableAppendWrite =
      (store.entry pos).attributes →
    WriteFits env store.view (store.entry pos).info
      { request with data := requestPayload config (store.entry pos).info request }

section

variable {config : BuildConfig} {env : Env} {store : UefiVariableStore} {request : AccessVariable}
  {status : EfiStatus} {after : StoreView} {names : Bytes → Prop} {limit pos : Nat}
  {info : VariableInfo} {authenticated : Authenticated}

section

variable (passed : requestAuthenticated config env store info request = .ok authenticated)

include passed

theorem requestAuthenticated_data : authenticated.data = requestPayload config info request := by
  unfold requestAuthenticated authenticateIfNeeded at passed
  unfold requestPayload
  split_ifs at passed ⊢ with needed
  · obtain ⟨map, hash, passed⟩ := authenticateVariable_ok passed
    rw [passed.mapped, passed.data]
    rfl
  · rw [← Except.ok.inj passed]

theorem requestAuthenticated_unneeded (unneeded : needsAuthentication config info request = false) :
    info.withAuthentication authenticated.timestamp authenticated.fingerprint = info := by
  unfold requestAuthenticated authenticateIfNeeded at passed
  rw [unneeded, if_neg Bool.false_ne_true] at passed
  rw [← Except.ok.inj passed]
  rfl

end

section

variable (outcome : SetAtOutcome config env store pos request status after)
  (valid : store.view.WellFormed names limit)
  (used : (store.entry pos).inUse = true)

include outcome valid used

/-- A request that fails for a variable that is set leaves it as it was. -/
theorem SetAtOutcome.failed_set (isSet : (store.entry pos).isVariableSet = true)
    (syncs : IndexCallsWork (env.fault true)) (finds : PurgeFinds (env.fault true))
    (present : (store.view.entry pos).isDumped = true →
      store.view.objects true (store.view.entry pos).uid ≠ none)
    (ready : EntryReady config env store pos request) (error : status ≠ .success) :
    (after.entry pos).inUse = (store.entry pos).inUse ∧
      (after.entry pos).info = (store.entry pos).info ∧
      ∀ isNv, after.objects isNv (store.entry pos).uid =
        store.objects isNv (store.entry pos).uid := by
  have data := valid.data_uid pos used
  have inside := inside_of_inUse used
  cases outcome with
  | denied _ _ =>
    have same : (store.view.modifyEntry pos VariableEntry.withoutUnused).entry pos =
        store.entry pos :=
      (store.view.entry_modifyEntry inside _).trans (withoutUnused_of_set isSet)
    rw [same]
    exact ⟨rfl, rfl, fun _ => rfl⟩
  | unauthenticated _ _ => exact ⟨rfl, rfl, fun _ => rfl⟩
  | mismatched _ _ _ _ _ => exact ⟨rfl, rfl, fun _ => rfl⟩
  | emptied _ _ unset _ =>
    rw [isSet] at unset
    cases unset
  | created _ _ unset _ _ =>
    rw [isSet] at unset
    cases unset
  | @deleted authenticated _ removed _ _ _ _ _ removal finish =>
    obtain ⟨insideCleared, _, entry⟩ := removal.cleared inside
    exact absurd (finish.own_unset syncs insideCleared (by rw [entry]) (by rw [entry]; exact data)).1
      error
  | @updated authenticated _ _ _ passed _ keeps same finish =>
    have payload := requestAuthenticated_data passed
    rw [payload] at keeps finish
    cases needed : needsAuthentication config (store.entry pos).info request with
    | true =>
      exact absurd (ready.updates isSet needed keeps same)
        (finish.unfit syncs inside isSet data error)
    | false =>
      have recorded := requestAuthenticated_unneeded passed needed
      rcases finish.own_set syncs inside finds isSet data with
        ⟨done, _⟩ | ⟨_, objects, ⟨inUse, info⟩ | ⟨isNv, gone, _⟩⟩
      · exact absurd done error
      · exact ⟨inUse, info.trans recorded, objects⟩
      · rw [isNv] at gone
        exact absurd gone (present ((isDumped_iff _).mpr ⟨(isSet_iff _).mpr ⟨used, isSet⟩, isNv⟩))

/-- A request that fails for a variable that is not set leaves it unset. It keeps the entry if it
is not authenticated or has no payload, and otherwise if the entry has constraints. -/
theorem SetAtOutcome.failed_unset
    (unset : (store.entry pos).isVariableSet = false)
    (syncs : IndexCallsWork (env.fault true))
    (ready : EntryReady config env store pos request) (error : status ≠ .success) :
    (after.entry pos).isVariableSet = false ∧
      ((after.entry pos).inUse = (store.entry pos).isConstraintsSet ∨
        (after.entry pos).inUse = true ∧ ∀ authenticated,
          requestAuthenticated config env store (store.entry pos).info request =
            .ok authenticated → authenticated.data.length = 0) := by
  have data := valid.data_uid pos used
  have inside := inside_of_inUse used
  cases outcome with
  | denied _ _ =>
    have entry : (store.view.modifyEntry pos VariableEntry.withoutUnused).entry pos =
        (store.entry pos).withoutUnused := store.view.entry_modifyEntry inside _
    rw [entry]
    exact ⟨unset_withoutUnused unset, .inl (inUse_withoutUnused used unset)⟩
  | unauthenticated _ refused =>
    refine ⟨unset, .inr ⟨used, fun authenticated passed => ?_⟩⟩
    rw [refused] at passed
    cases passed
  | @emptied authenticated _ passed _ empty =>
    refine ⟨unset, .inr ⟨used, fun other again => ?_⟩⟩
    rw [passed, Except.ok.injEq] at again
    rw [← again]
    exact empty
  | mismatched _ _ isSet _ _ =>
    rw [unset] at isSet
    cases isSet
  | deleted _ _ isSet _ _ _ =>
    rw [unset] at isSet
    cases isSet
  | updated _ _ isSet _ _ _ =>
    rw [unset] at isSet
    cases isSet
  | @created authenticated _ _ _ passed _ _ finish =>
    have payload := requestAuthenticated_data passed
    rw [payload] at finish
    obtain ⟨insideCreated, usedCreated, info⟩ := store.entry_created request.attributes used
    have isSet : ((store.view.modifyEntry pos fun entry =>
        entry.withVariable request.attributes).entry pos).isVariableSet =
          true := by rw [info]
    have dataCreated : ¬ isIndexUid ((store.view.modifyEntry pos fun entry =>
        entry.withVariable request.attributes).entry pos).uid := by
      rw [info]
      exact data
    cases isNv : isNonVolatile request.attributes with
    | false =>
      refine absurd ?_ (finish.unfit syncs insideCreated isSet dataCreated error)
      rw [info]
      exact (ready.creates unset isNv).congr rfl rfl rfl rfl
    | true =>
      obtain ⟨cleared, inUse⟩ := finish.gives_up syncs usedCreated isSet (by rw [info]; exact isNv)
        valid.persistentFlag dataCreated (by rw [info]; exact ready.absent unset isNv) error
      rw [info] at inUse
      exact ⟨cleared, .inl inUse⟩

end

end

/-- Every non-volatile variable has its data. -/
def StoreView.Complete (view : StoreView) : Prop :=
  ∀ pos, (view.entry pos).isDumped = true →
    view.objects true (view.entry pos).uid ≠ none

theorem addEntry_refused_inUse {index : VariableIndex} {guid : EfiGuid} {name : Bytes}
    (refused : (addEntry index guid name).2 = none) (pos : Nat) :
    ((addEntry index guid name).1.entry pos).inUse = (index.entry pos).inUse := by
  obtain same | ⟨slot, free, modified⟩ := addEntry_none refused
  · rw [same]
  · rw [modified]
    by_cases here : pos = slot
    · rw [here, entry_modify_self _ _ _ (findFree_some free).1]
    · rw [entry_modify_other _ _ _ _ here]

theorem StoreView.UnchangedAt.congr {before other after : StoreView} {pos : Nat}
    (unchanged : before.UnchangedAt after pos)
    (entry : before.entry pos = other.entry pos)
    (objects : before.objects = other.objects) : other.UnchangedAt after pos := by
  obtain ⟨follows, inUse, same, data⟩ := unchanged
  rw [entry] at follows inUse same data
  rw [objects] at data
  exact ⟨follows, inUse, same, data⟩

section

variable {config : BuildConfig} {env : Env} {store : UefiVariableStore} {request : AccessVariable}
  {status : EfiStatus} {after : StoreView} {names : Bytes → Prop} {limit pos : Nat}

section

variable (outcome : SetAtOutcome config env store pos request status after)
  (valid : store.view.WellFormed names limit)
  (used : (store.entry pos).inUse = true)

include outcome valid used

/-- While all data is there, a request keeps what is at the other positions. -/
theorem SetAtOutcome.unchangedAt_other (finds : PurgeFinds (env.fault true))
    (complete : store.view.Complete) {other : Nat} (distinct : other ≠ pos) :
    store.view.UnchangedAt after other := by
  have frame := outcome.frame valid used
  have separate : store.view.Separate pos (store.entry pos).uid := valid.separate used
  cases frame.entries other distinct with
  | purged lost _ _ =>
    obtain ⟨dumped, gone | ⟨count, error, fails⟩⟩ := lost
    · exact absurd gone (complete other dumped)
    · rw [finds] at fails
      cases fails
  | same inUse info =>
    refine ⟨(outcome.follows used).entry other, inUse, ⟨?_, fun _ => by rw [info]⟩, fun isSet => ?_⟩
    · unfold VariableEntry.isSet
      rw [inUse, info]
    · obtain ⟨otherUid, data⟩ := separate other distinct ((isSet_iff _).mp isSet).1
      exact frame.objects _ _ otherUid data

/-- A request that fails for an entry with a variable or with constraints leaves it as it was. -/
theorem SetAtOutcome.unchangedAt_own
    (occupied : (store.entry pos).isVariableSet = true ∨
      (store.entry pos).isConstraintsSet = true)
    (syncs : IndexCallsWork (env.fault true)) (finds : PurgeFinds (env.fault true))
    (complete : store.view.Complete) (ready : EntryReady config env store pos request)
    (error : status ≠ .success) : store.view.UnchangedAt after pos := by
  have follows := (outcome.follows used).entry pos
  cases isSet : (store.entry pos).isVariableSet with
  | true =>
    obtain ⟨inUse, info, objects⟩ := outcome.failed_set valid used isSet syncs finds
      (complete pos) ready error
    refine ⟨follows, inUse, ⟨?_, fun _ => by rw [info]; rfl⟩, fun _ => objects _⟩
    unfold VariableEntry.isSet
    rw [inUse, info]
    rfl
  | false =>
    obtain ⟨unset, inUse⟩ := outcome.failed_unset valid used isSet syncs ready error
    have constrained : (store.entry pos).isConstraintsSet = true := by
      rcases occupied with set | constrained
      · rw [isSet] at set
        cases set
      · exact constrained
    have usedAfter : (after.entry pos).inUse = true := by
      rcases inUse with kept | ⟨kept, _⟩
      · exact kept.trans constrained
      · exact kept
    have unsetBefore : (store.view.entry pos).isSet = false := by
      rw [Bool.eq_false_iff, ne_eq, isSet_iff]
      exact fun both => absurd both.2 (Bool.eq_false_iff.mp isSet)
    refine ⟨follows, usedAfter.trans used.symm, sameVariable_of_unset unsetBefore ?_, fun set => ?_⟩
    · rw [Bool.eq_false_iff, ne_eq, isSet_iff]
      exact fun both => absurd both.2 (Bool.eq_false_iff.mp unset)
    · rw [unsetBefore] at set
      cases set

end

/-- The store once it has an entry for the name of a request. -/
def UefiVariableStore.withEntry (store : UefiVariableStore) (request : AccessVariable) :
    UefiVariableStore :=
  { store with variableIndex := (addEntry store.variableIndex request.guid request.name).1 }

/-- What makes a request that fails go unnoticed: the calls on the copies of the index and the
checks of a purge work, all data is there, an entry for the name is not left over from an earlier
failure, and a request for a new name that has to be authenticated is accepted with a payload. -/
structure Recoverable (config : BuildConfig) (env : Env) (store : UefiVariableStore)
    (request : AccessVariable) : Prop where
  syncs : IndexCallsWork (env.fault true)
  finds : PurgeFinds (env.fault true)
  complete : store.view.Complete
  found : ∀ pos, findVariable store.variableIndex request.guid request.name = some pos →
    ((store.entry pos).isVariableSet = true ∨
      (store.entry pos).isConstraintsSet = true) ∧
    EntryReady config env store pos request
  added : findVariable store.variableIndex request.guid request.name = none →
    ∀ pos, (addEntry store.variableIndex request.guid request.name).2 = some pos →
      EntryReady config env (store.withEntry request) pos request ∧
      (needsAuthentication config ((store.withEntry request).entry pos).info request =
          true →
        ∃ authenticated, requestAuthenticated config env (store.withEntry request)
          ((store.withEntry request).entry pos).info request = .ok authenticated ∧
          authenticated.data.length ≠ 0)

/-- A new entry does not survive a request that fails. -/
theorem SetAtOutcome.failed_added
    (outcome : SetAtOutcome config env (store.withEntry request) pos request status after)
    (valid : (store.withEntry request).view.WellFormed names limit)
    (entry : (store.withEntry request).entry pos =
      (store.entry pos).initialized request.guid request.name (generateUid store.variableIndex))
    (nonempty : request.data.length ≠ 0) (syncs : IndexCallsWork (env.fault true))
    (ready : EntryReady config env (store.withEntry request) pos request)
    (accepted : needsAuthentication config
        ((store.withEntry request).entry pos).info request = true →
      ∃ authenticated, requestAuthenticated config env (store.withEntry request)
        ((store.withEntry request).entry pos).info request = .ok authenticated ∧
        authenticated.data.length ≠ 0) (error : status ≠ .success) :
    (after.entry pos).inUse = false ∧
      (after.entry pos).isVariableSet = false := by
  have used : ((store.withEntry request).entry pos).inUse = true := by
    rw [entry]
    rfl
  have unset : ((store.withEntry request).entry pos).isVariableSet = false := by
    rw [entry]
    rfl
  obtain ⟨unsetAfter, freed | ⟨_, empty⟩⟩ := outcome.failed_unset valid used unset syncs ready error
  · refine ⟨?_, unsetAfter⟩
    rw [freed, entry]
    rfl
  · exfalso
    cases needed : needsAuthentication config
        ((store.withEntry request).entry pos).info request with
    | true =>
      obtain ⟨authenticated, passed, filled⟩ := accepted needed
      exact filled (empty authenticated passed)
    | false =>
      apply nonempty
      apply empty ⟨_, _, request.data⟩
      unfold requestAuthenticated authenticateIfNeeded
      rw [needed, if_neg Bool.false_ne_true]

section

variable (at_ : (addEntry store.variableIndex request.guid request.name).2 = some pos)

include at_

theorem withEntry_entry_other {other : Nat} (distinct : other ≠ pos) :
    (store.withEntry request).view.entry other = store.view.entry other := by
  have modified : (store.withEntry request).view.variableIndex =
      store.variableIndex.modify pos fun entry =>
        entry.initialized request.guid request.name (generateUid store.variableIndex) :=
    (addEntry_some at_).2.2.2.2
  rw [modified]
  exact entry_modify_other _ _ _ _ distinct

theorem withEntry_complete (entry : (store.withEntry request).entry pos =
      (store.entry pos).initialized request.guid request.name (generateUid store.variableIndex))
    (complete : store.view.Complete) : (store.withEntry request).view.Complete := by
  intro other dumped
  by_cases here : other = pos
  · have fresh : ((store.withEntry request).view.entry pos).isVariableSet =
        false := congrArg (fun entry => entry.isVariableSet) entry
    rw [here, isDumped_iff, isSet_iff, fresh] at dumped
    cases dumped.1.2
  · rw [withEntry_entry_other at_ here] at dumped ⊢
    exact complete other dumped

end

theorem unchangedAt_freed {before : StoreView}
    (free : (before.entry pos).inUse = false)
    (freed : (after.entry pos).inUse = false)
    (unset : (after.entry pos).isVariableSet = false) :
    before.UnchangedAt after pos := by
  have idle : (before.entry pos).isSet = false := by
    unfold VariableEntry.isSet
    rw [free, Bool.false_and]
  have notUsed : ∀ {p : Prop}, (after.entry pos).inUse = true → p :=
    fun used => absurd used (Bool.eq_false_iff.mp freed)
  refine ⟨⟨notUsed, notUsed, notUsed, notUsed, notUsed, fun _ _ => unset⟩, freed.trans free.symm,
    sameVariable_of_unset idle ?_, fun set => ?_⟩
  · unfold VariableEntry.isSet
    rw [freed, Bool.false_and]
  · rw [idle] at set
    cases set

/-- A SetVariable request that fails changes nothing that can be observed. -/
theorem SetOutcome.unchanged (outcome : SetOutcome config env store request status after)
    (valid : store.view.WellFormed Terminated limit)
    (recoverable : Recoverable config env store request)
    (error : status ≠ .success) : store.view.Unchanged after := by
  cases outcome with
  | invalid _ => exact .refl _
  | full absent refused =>
    have follows := addEntry_follows refused
    have same := addEntry_sameVariables store.view request.guid request.name
    refine ⟨rfl, follows.size, fun pos => ⟨follows.entry pos, ?_, same.entries pos, fun _ => rfl⟩⟩
    exact addEntry_refused_inUse refused pos
  | @found pos _ _ _ _ at_ outcome =>
    have used := (names_of_findVariable at_).1
    obtain ⟨occupied, ready⟩ := recoverable.found pos at_
    have frame := outcome.frame valid used
    refine ⟨frame.settings.isBootService, frame.size, fun other => ?_⟩
    by_cases here : other = pos
    · rw [here]
      exact outcome.unchangedAt_own valid used occupied recoverable.syncs recoverable.finds
        recoverable.complete ready error
    · exact outcome.unchangedAt_other valid used recoverable.finds recoverable.complete here
  | @added pos _ _ terminated _ absent nonempty at_ outcome =>
    obtain ⟨extended, entry⟩ := addEntry_extends valid terminated absent at_
    obtain ⟨ready, accepted⟩ := recoverable.added absent pos at_
    obtain ⟨freed, unset⟩ := outcome.failed_added extended entry nonempty recoverable.syncs
      ready accepted error
    have used : ((store.withEntry request).entry pos).inUse = true :=
      congrArg VariableEntry.inUse entry
    have frame := outcome.frame extended used
    have size : (store.withEntry request).view.maxVariables =
        store.view.maxVariables := addEntry_length _ _ _
    refine ⟨frame.settings.isBootService, frame.size.trans size, fun other => ?_⟩
    by_cases here : other = pos
    · rw [here]
      exact unchangedAt_freed (addEntry_some at_).2.2.1 freed unset
    · have complete := withEntry_complete at_ entry recoverable.complete
      have unchanged := outcome.unchangedAt_other extended used recoverable.finds complete here
      exact unchanged.congr (withEntry_entry_other at_ here) rfl

end

theorem setVariable_failure_unnoticed {limit : Nat} (few : limit < 2 ^ 31)
    {config : BuildConfig} {store : UefiVariableStore}
    (reachable : Reachable config limit (.running store)) {env : Env}
    {request : AccessVariable} (recoverable : Recoverable config env store request)
    (failed : (uefiVariableStoreSetVariable config env store request).1 ≠ .success) :
    SameObservations store (uefiVariableStoreSetVariable config env store request).2 := by
  have valid : store.view.WellFormed Terminated limit := reachable.wellFormed few
  have outcome := uefiVariableStoreSetVariable_outcome config env store request valid.hasRoom
  exact (outcome.unchanged valid recoverable failed).observations

/-- The first variable of a device cannot be stored. -/
theorem setVariable_failure_unnoticed_data :
    let request : AccessVariable := ⟨.zero, 7#32, [0x41, 0, 0, 0], [1]⟩
    ∃ store, Reachable (.standard true) 3 (.running store) ∧
      (uefiVariableStoreSetVariable (.standard true) .failingData store request).1 = .deviceError ∧
      SameObservations store
        (uefiVariableStoreSetVariable (.standard true) .failingData store request).2 := by
  intro request
  obtain ⟨store, reachable, index, missing, status⟩ :
      ∃ store, Reachable (.standard true) 3 (.running store) ∧
        store.variableIndex = variableIndexInit 3 ∧ store.objects true 1 = none ∧
        (uefiVariableStoreSetVariable (.standard true) .failingData store request).1 =
          .deviceError :=
    exists_reachable [.powerOn .calm] (by decide +kernel)
  have entry : (store.withEntry request).entry 0 =
      VariableEntry.zero.initialized .zero [0x41, 0, 0, 0] 1 := by
    have added : (addEntry (variableIndexInit 3) request.guid request.name).1.entry 0 =
        VariableEntry.zero.initialized .zero [0x41, 0, 0, 0] 1 := by decide
    rw [← index] at added
    exact added
  have recoverable : Recoverable (.standard true) .failingData store request := by
    refine ⟨?_, fun _ _ => rfl, ?_, ?_, ?_⟩
    · intro count call isIndex
      apply if_neg
      rintro rfl
      rcases isIndex with same | same <;> cases same
    · intro pos dumped
      have zero : store.view.entry pos = .zero := by
        have initial : store.view.variableIndex = ⟨0, (variableIndexInit 3).entries⟩ := index
        rw [initial, entry_variableIndexInit]
      rw [zero] at dumped
      cases dumped
    · intro pos found
      rw [index] at found
      cases found
    · intro _ pos at_
      rw [index] at at_
      obtain rfl := Option.some.inj (at_.symm.trans (by decide : _ = some 0))
      have nonVolatile : isNonVolatile request.attributes = true := by decide
      refine ⟨⟨fun _ _ => ?_, fun _ isVolatile => ?_, fun isSet => ?_⟩, fun needed => ?_⟩
      · rw [entry]
        exact missing
      · rw [nonVolatile] at isVolatile
        cases isVolatile
      · rw [entry] at isSet
        cases isSet
      · rw [entry] at needed
        exact absurd needed (by decide)
  refine ⟨store, reachable, status, ?_⟩
  apply setVariable_failure_unnoticed (by decide) reachable recoverable
  rw [status]
  nofun

/-- A request for a new name that does not authenticate is refused and leaves a slot in use. -/
theorem setVariable_refused_takes_slot :
    let request : AccessVariable := ⟨.zero, 0x27#32, [0x41, 0, 0, 0], [1]⟩
    ∃ store, Reachable (.standard true) 3 (.running store) ∧
      (uefiVariableStoreSetVariable (.standard true) .calm store request).1 = .securityViolation ∧
      ¬ SameObservations store
        (uefiVariableStoreSetVariable (.standard true) .calm store request).2 := by
  intro request
  obtain ⟨store, reachable, status, free, taken⟩ :
      ∃ store, Reachable (.standard true) 3 (.running store) ∧
        (uefiVariableStoreSetVariable (.standard true) .calm store request).1 =
          .securityViolation ∧ (store.entry 0).inUse = false ∧
        ((uefiVariableStoreSetVariable (.standard true) .calm store request).2.entry 0).inUse =
          true :=
    exists_reachable [.powerOn .calm] (by decide +kernel)
  refine ⟨store, reachable, status, fun same => ?_⟩
  have kept := same.inUse 0
  rw [free, taken] at kept
  cases kept

end SmmVariable
