import TrustedServices.SmmVariable.RequestValue

/- The timestamps that requests record, and which requests are too old. -/
namespace SmmVariable

open Lib VariableEntry

/-- The order of `memcmp` on timestamps. -/
def EfiTime.rank (time : EfiTime) : Nat :=
  beNat time.toBytes

/-- A request that the timestamp check refuses. -/
structure Outdated (request : AccessVariable) (stored : EfiTime) : Prop where
  overwrites : hasAny request.attributes efiVariableAppendWrite = false
  notLater : ∃ map, initEfiDataMap request.data = some map ∧ map.timeStamp.rank ≤ stored.rank

theorem Outdated.mono {request : AccessVariable} {stored later : EfiTime}
    (outdated : Outdated request stored) (grows : stored.rank ≤ later.rank) :
    Outdated request later := by
  obtain ⟨map, mapped, notLater⟩ := outdated.notLater
  exact ⟨outdated.overwrites, map, mapped, notLater.trans grows⟩

theorem memcmp_timestamps (left right : EfiTime) :
    memcmp left.toBytes right.toBytes = .gt ↔ right.rank < left.rank :=
  memcmp_gt_iff _ _ (by simp)

section

variable {env : Env} {store : UefiVariableStore} {stored : EfiTime} {fingerprint : BitVec 256}
  {newVariable : Bool} {request : AccessVariable}

variable {map : EfiDataMap}

theorem initEfiDataMap_certificate {data : Bytes}
    (mapped : initEfiDataMap data = some map) : map.wCertificateType = winCertTypeEfiGuid := by
  unfold initEfiDataMap at mapped
  dsimp only at mapped
  split_ifs at mapped with _ _ _ _ _ fields
  obtain rfl := Option.some.inj mapped
  exact fields.2.1

theorem authenticateVariable_outdated (outdated : Outdated request stored) :
    (authenticateVariable env store stored fingerprint newVariable request).1 =
      .error .securityViolation := by
  obtain ⟨map, mapped, notLater⟩ := outdated.notLater
  have isLater : (memcmp map.timeStamp.toBytes stored.toBytes == .gt) = false := by
    rw [beq_eq_false_iff_ne, ne_eq, memcmp_timestamps]
    omega
  unfold authenticateVariable
  rw [mapped]
  dsimp only
  rw [if_neg (not_not_intro (initEfiDataMap_certificate mapped))]
  split
  · rfl
  · split
    · rfl
    · rw [isLater, outdated.overwrites]
      rfl

/-- What holds of a request that authenticates. -/
structure Passed (env : Env) (store : UefiVariableStore) (stored : EfiTime)
    (fingerprint : BitVec 256) (newVariable : Bool) (request : AccessVariable)
    (authenticated : Authenticated) (map : EfiDataMap) (hash : Bytes) : Prop where
  mapped : initEfiDataMap request.data = some map
  timely : memcmp map.timeStamp.toBytes stored.toBytes = .gt ∨
    hasAny request.attributes efiVariableAppendWrite = true
  hashed : calcVariableHash env request map = some hash
  timestamp : authenticated.timestamp =
    if memcmp map.timeStamp.toBytes stored.toBytes = .gt then map.timeStamp else stored
  data : authenticated.data = map.payload
  verified : if isPrivateAuthVar request.name then
      authenticatePrivateVariable env map hash newVariable fingerprint = .ok authenticated.fingerprint
    else (authenticateSecureBootVariable env (uefiVariableStoreQueryVariableInfo env store 0).2
      request map hash
      (uefiVariableStoreQueryVariableInfo env store 0).1.maximumVariableSize).1 = .success

variable {authenticated : Authenticated} {hash : Bytes}

theorem authenticateVariable_ok
    (passed : (authenticateVariable env store stored fingerprint newVariable request).1 =
      .ok authenticated) :
    ∃ map hash, Passed env store stored fingerprint newVariable request authenticated map hash := by
  unfold authenticateVariable at passed
  cases mapped : initEfiDataMap request.data with
  | none =>
    rw [mapped] at passed
    cases passed
  | some map =>
    rw [mapped] at passed
    dsimp only at passed
    iterate 4
      split at passed
      · cases passed
    rename_i timely
    have isTimely : memcmp map.timeStamp.toBytes stored.toBytes = .gt ∨
        hasAny request.attributes efiVariableAppendWrite = true := by
      by_contra neither
      rw [not_or] at neither
      apply timely
      simp [neither.1, neither.2]
    split at passed
    · cases passed
    · rename_i hash hashed
      split at passed
      · rename_i isPrivate
        split at passed
        · cases passed
        · rename_i verified
          obtain rfl := Except.ok.inj passed
          exact ⟨map, hash, mapped, isTimely, hashed, by simp, rfl,
            by rw [if_pos isPrivate]; exact verified⟩
      · rename_i isKey
        split at passed
        · rename_i verified
          obtain rfl := Except.ok.inj passed
          exact ⟨map, hash, mapped, isTimely, hashed, by simp, rfl,
            by rw [if_neg isKey]; exact verified⟩
        · cases passed

/-- A request that authenticates records the later of the two timestamps, and is outdated from
then on unless it appends. -/
theorem Passed.timestamps
    (passed : Passed env store stored fingerprint newVariable request authenticated map hash) :
    stored.rank ≤ authenticated.timestamp.rank ∧
      (hasAny request.attributes efiVariableAppendWrite = false →
        Outdated request authenticated.timestamp) := by
  rw [passed.timestamp]
  split_ifs with notLater
  · rw [memcmp_timestamps] at notLater
    exact ⟨Nat.le_of_lt notLater, fun overwrites => ⟨overwrites, map, passed.mapped, Nat.le_refl _⟩⟩
  · refine ⟨Nat.le_refl _, fun overwrites => ?_⟩
    rcases passed.timely with later | appends
    · exact absurd later notLater
    · rw [overwrites] at appends
      cases appends

theorem authenticatePrivateVariable_error {status : EfiStatus}
    (refused : authenticatePrivateVariable env map hash newVariable fingerprint = .error status) :
    status = .securityViolation := by
  unfold authenticatePrivateVariable at refused
  split at refused
  · exact (Except.error.inj refused).symm
  · split at refused
    · exact (Except.error.inj refused).symm
    · split_ifs at refused
      exact (Except.error.inj refused).symm

theorem authenticateVariable_error {status : EfiStatus}
    (refused : (authenticateVariable env store stored fingerprint newVariable request).1 =
      .error status) : status ≠ .success := by
  rintro rfl
  unfold authenticateVariable at refused
  dsimp only at refused
  iterate 6
    split at refused
    · cases refused
  split at refused
  · split at refused
    · rename_i private_
      rw [authenticatePrivateVariable_error private_] at refused
      cases refused
    · cases refused
  · split_ifs at refused ⊢ with unverified
    exact unverified (Except.error.inj refused)

variable {config : BuildConfig} {info : VariableInfo}

theorem requestAuthenticated_error {status : EfiStatus}
    (refused : requestAuthenticated config env store info request = .error status) :
    status ≠ .success := by
  unfold requestAuthenticated authenticateIfNeeded at refused
  split_ifs at refused ⊢
  exact authenticateVariable_error refused

/-- The recorded timestamp never goes back, and a request that is authenticated is outdated from
then on unless it appends. -/
theorem requestAuthenticated_timestamps
    (passed : requestAuthenticated config env store info request = .ok authenticated) :
    info.timestamp.rank ≤ authenticated.timestamp.rank ∧
      (needsAuthentication config info request = true →
        hasAny request.attributes efiVariableAppendWrite = false →
        Outdated request authenticated.timestamp) := by
  unfold requestAuthenticated authenticateIfNeeded at passed
  split_ifs at passed ⊢ with unneeded
  · obtain ⟨map, hash, passed⟩ := authenticateVariable_ok passed
    exact ⟨passed.timestamps.1, fun _ => passed.timestamps.2⟩
  · rw [← Except.ok.inj passed]
    exact ⟨Nat.le_refl _, fun needed => absurd needed unneeded⟩

variable (works : ∀ isNv count call, env.fault isNv count call = none) {status : EfiStatus}
  {after : StoreView} {names : Bytes → Prop} {limit pos : Nat}

include works in
/-- The entry of a request's variable, if it is set in the end: as it was, or with what the
request has recorded. -/
theorem SetAtOutcome.own_info (outcome : SetAtOutcome config env store pos request status after)
    (valid : store.view.WellFormed names limit)
    (used : (store.entry pos).inUse = true)
    (isSet : (after.entry pos).isVariableSet = true) :
    (status ≠ .success ∧ (store.entry pos).isVariableSet = true ∧
      (after.entry pos).info = (store.entry pos).info) ∨
    ∃ authenticated,
      requestAuthenticated config env store (store.entry pos).info request =
        .ok authenticated ∧
      (after.entry pos).key = (store.entry pos).key ∧
      (after.entry pos).timestamp = authenticated.timestamp ∧
      (after.entry pos).attributes =
        (if (store.entry pos).isVariableSet then
          (store.entry pos).attributes else request.attributes) := by
  have data := valid.data_uid pos used
  have inside := VariableIndex.inside_of_inUse used
  cases outcome with
  | denied refused error =>
    rw [store.view.entry_modifyEntry inside] at isSet ⊢
    have setBefore : (store.view.entry pos).isVariableSet = true := by
      by_contra unset
      rw [unset_withoutUnused (Bool.eq_false_iff.mpr unset)] at isSet
      cases isSet
    rw [withoutUnused_of_set setBefore]
    exact .inl ⟨error, setBefore, rfl⟩
  | unauthenticated _ refused => exact .inl ⟨requestAuthenticated_error refused, isSet, rfl⟩
  | mismatched _ _ setBefore _ _ => exact .inl ⟨nofun, setBefore, rfl⟩
  | emptied _ _ unset _ =>
    have isSet_ : (store.entry pos).isVariableSet = true := isSet
    rw [unset] at isSet_
    cases isSet_
  | @deleted authenticated _ removed _ _ _ _ _ removal finish =>
    obtain ⟨insideCleared, _, entry⟩ := removal.cleared inside
    obtain ⟨_, unset, _⟩ := finish.own_unset (indexCallsWork_of_works (works true))
      insideCleared (by rw [entry]) (by rw [entry]; exact data)
    rw [unset] at isSet
    cases isSet
  | @updated authenticated _ _ _ passed setBefore _ _ finish =>
    refine .inr ⟨authenticated, passed, ?_⟩
    unfold VariableEntry.key
    rw [if_pos setBefore]
    rcases finish.own_set (indexCallsWork_of_works (works true)) inside
      (purgeFinds_of_works (works true)) setBefore data with
      ⟨_, _, _, info, _⟩ | ⟨_, _, ⟨_, info⟩ | ⟨_, _, unset⟩⟩
    · rw [info]
      exact ⟨rfl, rfl, rfl⟩
    · rw [info]
      exact ⟨rfl, rfl, rfl⟩
    · rw [unset] at isSet
      cases isSet
  | @created authenticated _ _ _ passed unsetBefore _ finish =>
    refine .inr ⟨authenticated, passed, ?_⟩
    obtain ⟨insideCreated, _, entry⟩ := store.entry_created request.attributes used
    unfold VariableEntry.key
    rw [if_neg (Bool.eq_false_iff.mp unsetBefore)]
    rcases finish.own_set (indexCallsWork_of_works (works true)) insideCreated
      (purgeFinds_of_works (works true)) (by rw [entry]) (by rw [entry]; exact data) with
      ⟨_, _, _, info, _⟩ | ⟨_, _, ⟨_, info⟩ | ⟨_, _, unset⟩⟩
    · rw [info, entry]
      exact ⟨rfl, rfl, rfl⟩
    · rw [info, entry]
      exact ⟨rfl, rfl, rfl⟩
    · rw [unset] at isSet
      cases isSet

/-- The entries of other variables that are set in the end are as they were. -/
theorem SetAtOutcome.other_info (outcome : SetAtOutcome config env store pos request status after)
    (valid : store.view.WellFormed names limit)
    (used : (store.entry pos).inUse = true) {other : Nat} (apart : other ≠ pos)
    (isSet : (after.entry other).isSet = true) :
    (store.view.entry other).isSet = true ∧
      (after.entry other).info = (store.view.entry other).info ∧
      (after.entry other).key ≠ (store.entry pos).key := by
  cases (outcome.frame valid used).entries other apart with
  | same inUse info =>
    have setBefore : (store.view.entry other).isSet = true := by
      rw [isSet_iff, ← inUse, ← info, ← isSet_iff]
      exact isSet
    refine ⟨setBefore, info, fun same => ?_⟩
    unfold VariableEntry.key at same
    rw [info] at same
    exact (valid.index.apart other pos apart ((isSet_iff _).mp setBefore).1 used).1
      (Prod.mk.inj same)
  | purged _ _ info =>
    rw [isSet_iff, info] at isSet
    cases isSet.2

end

/-- The answer to an outdated request for a variable that needs authentication. -/
theorem setVariable_outdated {config : BuildConfig} {env : Env} {store : UefiVariableStore}
    {request : AccessVariable} {pos : Nat}
    (terminated : checkNameTerminator request.name = .success)
    (capable : checkCapabilities request.attributes = .success)
    (found : findVariable store.variableIndex request.guid request.name = some pos)
    (isSet : (store.entry pos).isVariableSet = true)
    (needed : needsAuthentication config (store.entry pos).info request = true)
    (outdated : Outdated request (store.entry pos).timestamp) :
    (uefiVariableStoreSetVariable config env store request).1 =
      if checkAccessPermittedOnSet store (store.entry pos).info request.data.length =
        .success then .securityViolation
      else checkAccessPermittedOnSet store (store.entry pos).info
        request.data.length := by
  have refused : requestAuthenticated config env store (store.entry pos).info request =
      .error .securityViolation := by
    unfold requestAuthenticated authenticateIfNeeded
    rw [if_pos needed]
    exact authenticateVariable_outdated outdated
  have needed_ : (config.authVar && hasAny (store.entry pos).attributes
      efiVariableTimeBasedAuthenticatedWriteAccess) = true := by
    unfold needsAuthentication at needed
    rw [if_pos isSet] at needed
    exact needed
  unfold requestAuthenticated at refused
  rw [needed, isSet, Bool.not_true] at refused
  unfold uefiVariableStoreSetVariable variableIndexFind
  rw [if_neg (not_not_intro terminated), if_neg (not_not_intro capable), found]
  unfold setVariableAt
  dsimp only
  split
  · unfold setExistingVariable
    dsimp only
    rw [needed_, eq_mk_of_fst refused]
  · rfl

end SmmVariable
