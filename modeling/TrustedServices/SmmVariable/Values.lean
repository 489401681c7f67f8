import TrustedServices.SmmVariable.Frame
import TrustedServices.SmmVariable.Reading

/- The variables of a store as a map, while no backend call fails. -/
namespace SmmVariable

open Lib VariableEntry StoreView

abbrev VariableMap := EfiGuid × Bytes → Option (Attributes × Bytes)

/-- The variable at a position of the table, if it is set and has data. -/
def StoreView.valueAt (view : StoreView) (pos : Nat) :
    Option ((EfiGuid × Bytes) × Attributes × Bytes) :=
  if (view.entry pos).isSet then
    (view.contents (view.entry pos).info).data.map fun data =>
      ((view.entry pos).key, (view.entry pos).attributes, data)
  else none

def StoreView.values (view : StoreView) : VariableMap := fun key =>
  (view.lookup key.1 key.2).bind fun variable_ => variable_.data.map (variable_.attributes, ·)

theorem VariableEntry.isSet_iff (entry : VariableEntry) :
    entry.isSet = true ↔ entry.inUse = true ∧ entry.isVariableSet = true :=
  Bool.and_eq_true_iff

section

variable {names : Bytes → Prop} {view before after : StoreView} {key : EfiGuid × Bytes}
  {value : Attributes × Bytes}

theorem values_eq_some_iff (valid : view.variableIndex.WellFormed names) :
    view.values key = some value ↔ ∃ pos, view.valueAt pos = some (key, value) := by
  unfold values lookup
  constructor
  · intro found
    obtain ⟨variable_, looked, data⟩ := Option.bind_eq_some_iff.mp found
    obtain ⟨pos, at_, seen⟩ := Option.bind_eq_some_iff.mp looked
    split_ifs at seen ⊢ with isSet
    obtain ⟨used, sameGuid, sameName⟩ := names_of_findVariable at_
    rw [← Option.some.inj seen] at data
    obtain ⟨bytes, stored, rfl⟩ := Option.map_eq_some_iff.mp data
    refine ⟨pos, ?_⟩
    unfold valueAt
    rw [if_pos ((isSet_iff _).mpr ⟨used, isSet⟩), stored]
    unfold VariableEntry.key
    rw [sameGuid, sameName]
    rfl
  · rintro ⟨pos, at_⟩
    unfold valueAt at at_
    split_ifs at at_ ⊢ with isSet
    obtain ⟨used, set⟩ := (isSet_iff _).mp isSet
    obtain ⟨bytes, stored, pair⟩ := Option.map_eq_some_iff.mp at_
    obtain ⟨rfl, rfl⟩ := Prod.mk.inj pair
    have found : findVariable view.variableIndex (view.entry pos).key.1
        (view.entry pos).key.2 = some pos :=
      findVariable_of_names valid ⟨used, rfl, rfl⟩
    have isSet_ : (view.entry pos).isVariableSet = true := set
    simp only [found, Option.bind_some, isSet_, ↓reduceIte, stored, Option.map_some]
    rfl

/-- A change at one position changes the map at the name of that position only. -/
theorem values_update (validBefore : before.variableIndex.WellFormed names)
    (validAfter : after.variableIndex.WellFormed names) {pos : Nat}
    (others : ∀ other, other ≠ pos → after.valueAt other = before.valueAt other)
    (ownBefore : ∀ found, before.valueAt pos = some found → found.1 = key)
    (ownAfter : ∀ found, after.valueAt pos = some found → found.1 = key)
    (alone : ∀ other, other ≠ pos → ∀ found, before.valueAt other = some found → found.1 ≠ key) :
    after.values = Function.update before.values key ((after.valueAt pos).map Prod.snd) := by
  funext other
  apply Option.ext
  intro found
  rw [values_eq_some_iff validAfter]
  by_cases same : other = key
  · subst same
    rw [Function.update_self]
    constructor
    · rintro ⟨at_, holds⟩
      by_cases here : at_ = pos
      · rw [← here, holds]
        rfl
      · rw [others at_ here] at holds
        exact absurd rfl (alone at_ here _ holds)
    · intro holds
      obtain ⟨⟨foundKey, foundValue⟩, at_, rfl⟩ := Option.map_eq_some_iff.mp holds
      have isKey := ownAfter _ at_
      dsimp only at isKey ⊢
      exact ⟨pos, by rw [at_, isKey]⟩
  · rw [Function.update_of_ne same, values_eq_some_iff validBefore]
    constructor
    · rintro ⟨at_, holds⟩
      by_cases here : at_ = pos
      · rw [here] at holds
        exact absurd (ownAfter _ holds) same
      · exact ⟨at_, by rw [← others at_ here, holds]⟩
    · rintro ⟨at_, holds⟩
      by_cases here : at_ = pos
      · rw [here] at holds
        exact absurd (ownBefore _ holds) same
      · exact ⟨at_, by rw [others at_ here, holds]⟩

/-- The calls with which a purge looks for the data of variables do not fail. -/
def PurgeFinds (fault : Fault BackendCall) : Prop :=
  ∀ count uid, fault count ⟨.purgeOrphanIndexEntries, .getInfo, uid⟩ = none

theorem purgeFinds_of_works {fault : Fault BackendCall}
    (works : ∀ count call, fault count call = none) : PurgeFinds fault :=
  fun count _ => works count _

variable {fault : Fault BackendCall} (finds : PurgeFinds fault) {pos uid : Nat}

include finds in
/-- Unless a purge is misled, a request keeps the values at all other positions. -/
theorem StoreView.Frame.valueAt_eq (frame : before.Frame fault pos uid after)
    (separate : before.Separate pos uid) {other : Nat} (distinct : other ≠ pos) :
    after.valueAt other = before.valueAt other := by
  have step := frame.entries other distinct
  by_cases used : (before.entry other).inUse = true
  · obtain ⟨otherUid, data⟩ := separate other distinct used
    unfold valueAt contents
    cases step with
    | same inUse info =>
      have isSet : (after.entry other).isSet = (before.entry other).isSet := by
        unfold VariableEntry.isSet
        rw [inUse, info]
      have key : (after.entry other).key = (before.entry other).key := by
        unfold VariableEntry.key
        rw [info]
      rw [isSet, key, info, frame.objects _ _ otherUid data]
    | purged lost inUse info =>
      obtain ⟨dumped, reason⟩ := lost
      have unset : (after.entry other).isSet = false := by
        unfold VariableEntry.isSet
        rw [info, Bool.and_false]
      have isNv : isNonVolatile (before.entry other).attributes =
          true := by
        unfold isDumped at dumped
        simp only [Bool.and_eq_true] at dumped
        exact dumped.2
      have gone : before.objects true (before.entry other).uid =
          none := by
        rcases reason with gone | ⟨count, error, injected⟩
        · exact gone
        · rw [finds] at injected
          cases injected
      rw [unset, isNv, gone]
      simp
  · have unset : ∀ entry : VariableEntry, entry.inUse = false → entry.isSet = false := by
      intro entry unused
      unfold VariableEntry.isSet
      rw [unused, Bool.false_and]
    unfold valueAt
    rw [unset _ (Bool.eq_false_iff.mpr used),
      unset _ (step.inUse_eq.trans (Bool.eq_false_iff.mpr used))]
    rfl

end

theorem VariableEntry.withoutUnused_of_set {entry : VariableEntry}
    (isSet : entry.isVariableSet = true) : entry.withoutUnused = entry := by
  unfold withoutUnused
  rw [isSet, Bool.not_true, Bool.and_false, if_neg Bool.false_ne_true]

theorem VariableEntry.unset_withoutUnused {entry : VariableEntry}
    (unset : entry.isVariableSet = false) :
    entry.withoutUnused.isVariableSet = false := by
  unfold withoutUnused
  split
  · rfl
  · exact unset

/-- The information of a variable once a request's timestamp and fingerprint are recorded. -/
def VariableInfo.withAuthentication (info : VariableInfo) (timestamp : EfiTime)
    (fingerprint : BitVec 256) : VariableInfo :=
  { info with metadata.timestamp := timestamp, metadata.fingerprint := fingerprint }

variable {config : BuildConfig} {env : Env} (syncs : IndexCallsWork (env.fault true))
  {view after : StoreView} {pos : Nat} {shouldSyncIndex : Bool} {timestamp : EfiTime}
  {fingerprint : BitVec 256} {request : AccessVariable} {status : EfiStatus}

include syncs in
theorem SyncOutcome.success (sync : SyncOutcome config (env.fault true) view status after) :
    status = .success := by
  cases sync with
  | failed _ injected _ _ =>
    obtain ⟨count, op, error, fails⟩ := injected
    rw [syncs _ _ (isIndexUid_nextIndexUid _)] at fails
    cases fails
  | _ => rfl

include syncs in
theorem MaybeSynced.success
    (sync : MaybeSynced config (env.fault true) view shouldSyncIndex status after) :
    status = .success := by
  cases sync with
  | skipped => rfl
  | synced sync => exact sync.success syncs

include syncs in
/-- A request that leaves its variable unset ends well and stores nothing. -/
theorem FinishOutcome.own_unset
    (finish : FinishOutcome config env view pos shouldSyncIndex timestamp fingerprint request
      status after) (inside : pos < view.entries.length)
    (unset : (view.entry pos).isVariableSet = false)
    (data : ¬ isIndexUid (view.entry pos).uid) :
    status = .success ∧ (after.entry pos).isVariableSet = false ∧
      ∀ isNv, after.objects isNv (view.entry pos).uid = view.objects isNv (view.entry pos).uid := by
  cases finish with
  | @unstored middle sync _ =>
    have kept := (sync.info_eq pos).2
    have insideMiddle := sync.inside inside
    refine ⟨sync.success syncs, ?_, ?_⟩
    · rw [middle.entry_modifyEntry insideMiddle]
      apply unset_withoutUnused
      exact (congrArg VariableInfo.isVariableSet kept).trans unset
    · exact fun isNv => sync.objects_eq isNv data
  | stored sync isSet _ =>
    rw [(sync.info_eq pos).2, unset] at isSet
    cases isSet

/-- The store between the sync of the index and the write of a request's data. -/
structure StoreView.Recorded (view : StoreView) (pos : Nat) (timestamp : EfiTime)
    (fingerprint : BitVec 256) (recorded : StoreView) : Prop where
  settings : recorded.settings = view.settings
  inside : pos < recorded.entries.length
  inUse : (recorded.entry pos).inUse = (view.entry pos).inUse
  info : (recorded.entry pos).info =
    (view.entry pos).info.withAuthentication timestamp fingerprint
  objects : ∀ isNv, recorded.objects isNv (view.entry pos).uid =
    view.objects isNv (view.entry pos).uid

/-- A request that sets its variable comes to write its data, unless a sync fails it. -/
theorem FinishOutcome.recorded (synced : status = .success ∨ IndexCallsWork (env.fault true))
    (finish : FinishOutcome config env view pos shouldSyncIndex timestamp fingerprint request
      status after) (inside : pos < view.entries.length)
    (isSet : (view.entry pos).isVariableSet = true)
    (data : ¬ isIndexUid (view.entry pos).uid) :
    ∃ recorded stored, view.Recorded pos timestamp fingerprint recorded ∧
      StoreOutcome config env recorded
        ((view.entry pos).info.withAuthentication timestamp fingerprint) request
        status stored ∧
      after = stored.modifyEntry pos VariableEntry.withoutUnused := by
  cases finish with
  | @unstored middle sync skipped =>
    rcases skipped with unset | failed
    · rw [(sync.info_eq pos).2, isSet] at unset
      cases unset
    · exact absurd (synced.elim id sync.success) failed
  | @stored middle stored sync _ store =>
    obtain ⟨usedMiddle, infoMiddle⟩ := sync.info_eq pos
    have insideMiddle := sync.inside inside
    have entry := middle.entry_modifyEntry insideMiddle fun entry =>
      entry.withAuthentication timestamp fingerprint
    have recorded : view.Recorded pos timestamp fingerprint
        (middle.modifyEntry pos fun entry => entry.withAuthentication timestamp fingerprint) := by
      refine ⟨(sync.frame pos 0).settings.settings,
        middle.inside_modifyEntry insideMiddle pos _, ?_, ?_, fun isNv => sync.objects_eq isNv data⟩
      · rw [← usedMiddle, entry]
        rfl
      · rw [← infoMiddle, entry]
        rfl
    rw [recorded.info] at store
    exact ⟨_, stored, recorded, store, rfl⟩

/-- A request that sets its variable and succeeds has stored its data. -/
theorem FinishOutcome.own_success
    (finish : FinishOutcome config env view pos shouldSyncIndex timestamp fingerprint request
      .success after) (inside : pos < view.entries.length)
    (isSet : (view.entry pos).isVariableSet = true)
    (data : ¬ isIndexUid (view.entry pos).uid) :
    let info := (view.entry pos).info
    let isNv := isNonVolatile info.attributes
    let old := view.objects isNv info.uid
    (hasAny request.attributes efiVariableAppendWrite = true → request.data.length ≠ 0 →
        old ≠ none) ∧
      (after.entry pos).inUse = (view.entry pos).inUse ∧
      (after.entry pos).info = info.withAuthentication timestamp fingerprint ∧
      after.objects isNv info.uid = writtenObject request old ∧
      after.objects (!isNv) info.uid = view.objects (!isNv) info.uid := by
  obtain ⟨recorded, stored, record, store, rfl⟩ := finish.recorded (.inl rfl) inside isSet data
  have recordedSet : (recorded.entry pos).isVariableSet = true :=
    (congrArg VariableInfo.isVariableSet record.info).trans isSet
  have kept : ∀ isNv written, ((recorded.withObjects isNv written).modifyEntry pos
      VariableEntry.withoutUnused).entry pos = recorded.entry pos :=
    fun _ _ => (entry_modifyEntry record.inside _).trans (withoutUnused_of_set recordedSet)
  cases store with
  | stored extended =>
    refine ⟨?_, ?_, ?_, ?_, ?_⟩
    · intro append nonempty
      rw [← record.objects]
      exact extended append nonempty
    · rw [kept]
      exact record.inUse
    · rw [kept]
      exact record.info
    · simp only [modifyEntry, withIndex, withObjects]
      rw [← record.objects]
      simp [VariableInfo.withAuthentication]
    · simp only [modifyEntry, withIndex, withObjects]
      rw [← record.objects]
      simp [VariableInfo.withAuthentication]
  | refused error _ _ => exact absurd rfl error
  | purged error _ _ _ => exact absurd rfl error

include syncs in
/-- A request that sets its variable stores the data, or fails and stores nothing;
a non-volatile variable without data is then given up. -/
theorem FinishOutcome.own_set
    (finish : FinishOutcome config env view pos shouldSyncIndex timestamp fingerprint request
      status after) (inside : pos < view.entries.length)
    (finds : PurgeFinds (env.fault true))
    (isSet : (view.entry pos).isVariableSet = true)
    (data : ¬ isIndexUid (view.entry pos).uid) :
    let info := (view.entry pos).info
    let isNv := isNonVolatile info.attributes
    let old := view.objects isNv info.uid
    (status = .success ∧
      (hasAny request.attributes efiVariableAppendWrite = true → request.data.length ≠ 0 →
        old ≠ none) ∧
      (after.entry pos).inUse = (view.entry pos).inUse ∧
      (after.entry pos).info = info.withAuthentication timestamp fingerprint ∧
      after.objects isNv info.uid = writtenObject request old ∧
      after.objects (!isNv) info.uid = view.objects (!isNv) info.uid) ∨
    (status ≠ .success ∧
      (∀ backend, after.objects backend info.uid = view.objects backend info.uid) ∧
      (((after.entry pos).inUse = (view.entry pos).inUse ∧
          (after.entry pos).info = info.withAuthentication timestamp fingerprint) ∨
        (isNv = true ∧ old = none ∧ (after.entry pos).isVariableSet = false))) := by
  by_cases success : status = .success
  · subst success
    exact .inl ⟨rfl, finish.own_success inside isSet data⟩
  obtain ⟨recorded, stored, record, store, rfl⟩ := finish.recorded (.inr syncs) inside isSet data
  have recordedSet : (recorded.entry pos).isVariableSet = true :=
    (congrArg VariableInfo.isVariableSet record.info).trans isSet
  cases store with
  | stored _ => exact absurd rfl success
  | refused error _ _ =>
    refine .inr ⟨error, record.objects, .inl ⟨?_, ?_⟩⟩
    · rw [entry_modifyEntry record.inside, withoutUnused_of_set recordedSet, record.inUse]
    · rw [entry_modifyEntry record.inside, withoutUnused_of_set recordedSet]
      exact record.info
  | purged error _ _ purge =>
    have frame := purge.frame pos ((view.entry pos).uid + 1)
    have storedInside : pos < stored.entries.length := by
      have size := frame.size
      have inside := record.inside
      unfold VariableIndex.maxVariables at size
      omega
    refine .inr ⟨error, ?_, ?_⟩
    · intro backend
      rw [← record.objects backend]
      exact frame.objects backend _ (Nat.ne_of_lt (Nat.lt_succ_self _)) data
    · rw [entry_modifyEntry storedInside]
      cases purge.bystander pos with
      | same inUse info =>
        have storedSet : (stored.entry pos).isVariableSet = true := by
          rw [info]
          exact recordedSet
        rw [withoutUnused_of_set storedSet, inUse, info]
        exact .inl ⟨record.inUse, record.info⟩
      | purged lost inUse info =>
        obtain ⟨dumped, reason⟩ := lost
        have unset : (stored.entry pos).isVariableSet = false := by
          rw [info]
        rw [record.info] at reason
        have isNv : isNonVolatile (view.entry pos).attributes =
            true := by
          unfold isDumped at dumped
          rw [record.info] at dumped
          simp only [Bool.and_eq_true] at dumped
          exact dumped.2
        refine .inr ⟨isNv, ?_, unset_withoutUnused unset⟩
        rcases reason with gone | ⟨count, injected, fails⟩
        · rw [← record.objects]
          exact isNv.symm ▸ gone
        · rw [finds] at fails
          cases fails

end SmmVariable
