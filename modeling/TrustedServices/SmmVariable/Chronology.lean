import TrustedServices.SmmVariable.Refinement
import TrustedServices.SmmVariable.Timestamps

/- Timestamps are compared by their bytes, and the year has its low byte first. -/
namespace SmmVariable

open Lib VariableEntry

/-- The fields that a timestamp may not use are zero. -/
def EfiTime.IsPlain (time : EfiTime) : Prop :=
  time.pad1 = 0 ∧ time.pad2 = 0 ∧ time.nanosecond = 0 ∧ time.timeZone = 0 ∧ time.daylight = 0

/-- The date and the time of the day, compared field by field. -/
def EfiTime.calendar (time : EfiTime) : List Nat :=
  [time.year.toNat, time.month.toNat, time.day.toNat, time.hour.toNat, time.minute.toNat,
    time.second.toNat]

/-- The year as the first two bytes of the structure are compared. -/
def EfiTime.swappedYear (time : EfiTime) : Nat :=
  time.year.toNat % 256 * 256 + time.year.toNat / 256

/-- The seconds of the calendar, as the digits of one number behind the year. -/
def EfiTime.withinYear (time : EfiTime) : Nat :=
  (((time.month.toNat * 256 + time.day.toNat) * 256 + time.hour.toNat) * 256 +
    time.minute.toNat) * 256 + time.second.toNat

/-- The bytes of two years are ordered as the years are. -/
def YearsInOrder (stored time : EfiTime) : Prop :=
  stored.swappedYear < time.swappedYear ↔ stored.year.toNat < time.year.toNat

theorem EfiTime.withinYear_lt (time : EfiTime) : time.withinYear < 256 ^ 5 := by
  unfold EfiTime.withinYear
  omega

theorem EfiTime.rank_plain {time : EfiTime} (plain : time.IsPlain) :
    time.rank = (time.swappedYear * 256 ^ 5 + time.withinYear) * 256 ^ 9 := by
  obtain ⟨pad1, pad2, nanosecond, timeZone, daylight⟩ := plain
  simp [EfiTime.rank, EfiTime.toBytes, leBytes, beNat, EfiTime.swappedYear, EfiTime.withinYear, pad1,
    pad2, nanosecond, timeZone, daylight]
  omega

theorem EfiTime.calendar_lt_iff (stored time : EfiTime) :
    stored.calendar < time.calendar ↔
      stored.year.toNat * 256 ^ 5 + stored.withinYear <
        time.year.toNat * 256 ^ 5 + time.withinYear := by
  unfold EfiTime.calendar EfiTime.withinYear
  simp only [List.cons_lt_cons_iff, List.not_lt_nil, and_false, or_false]
  omega

/-- The swapped bytes of a year tell the year. -/
theorem EfiTime.swappedYear_eq_iff (stored time : EfiTime) :
    stored.swappedYear = time.swappedYear ↔ stored.year.toNat = time.year.toNat := by
  unfold EfiTime.swappedYear
  omega

/-- The comparison of the bytes agrees with the calendar exactly if the years are in order. -/
theorem memcmp_chronological_iff {stored time : EfiTime} (storedPlain : stored.IsPlain)
    (plain : time.IsPlain) :
    (memcmp time.toBytes stored.toBytes = .gt ↔ stored.calendar < time.calendar) ↔
      YearsInOrder stored time := by
  have same := EfiTime.swappedYear_eq_iff stored time
  have within := time.withinYear_lt
  have storedWithin := stored.withinYear_lt
  rw [memcmp_timestamps, EfiTime.rank_plain storedPlain, EfiTime.rank_plain plain,
    EfiTime.calendar_lt_iff]
  unfold YearsInOrder
  omega

/-- Years of one block of 256 years are in order. -/
theorem yearsInOrder_of_block {stored time : EfiTime}
    (block : stored.year.toNat / 256 = time.year.toNat / 256) : YearsInOrder stored time := by
  unfold YearsInOrder EfiTime.swappedYear
  omega

section

def timestampCheck (attributes : Attributes) (timeStamp storedTimestamp : EfiTime) : Bool :=
  memcmp timeStamp.toBytes storedTimestamp.toBytes == .gt || hasAny attributes efiVariableAppendWrite

/-- What `authenticate_variable` does once the timestamp has been checked. -/
def authenticateSigned (env : Env) (variableInfo : QueryVariableInfo × UefiVariableStore)
    (storedTimestamp : EfiTime) (fingerprint : BitVec 256) (newVariable : Bool)
    (variable_ : AccessVariable) (map : EfiDataMap) :
    Except EfiStatus Authenticated × UefiVariableStore :=
  match calcVariableHash env variable_ map with
  | none => (.error .securityViolation, variableInfo.2)
  | some hash =>
    let timestamp := if memcmp map.timeStamp.toBytes storedTimestamp.toBytes == .gt then
      map.timeStamp else storedTimestamp
    if isPrivateAuthVar variable_.name then
      match authenticatePrivateVariable env map hash newVariable fingerprint with
      | .error status => (.error status, variableInfo.2)
      | .ok fingerprint => (.ok ⟨timestamp, fingerprint, map.payload⟩, variableInfo.2)
    else
      let verified := authenticateSecureBootVariable env variableInfo.2 variable_ map hash
        variableInfo.1.maximumVariableSize
      if verified.1 = .success then (.ok ⟨timestamp, fingerprint, map.payload⟩, verified.2)
      else (.error verified.1, verified.2)

variable {env : Env} {store : UefiVariableStore} {stored : EfiTime} {fingerprint : BitVec 256}
  {newVariable : Bool} {request : AccessVariable} {map : EfiDataMap}

theorem initEfiDataMap_certType {data : Bytes} (mapped : initEfiDataMap data = some map) :
    compareGuid map.certType efiCertTypePkcs7Guid = true := by
  unfold initEfiDataMap at mapped
  dsimp only at mapped
  repeat' split at mapped
  all_goals cases mapped
  rename_i fields
  rw [compareGuid_iff] at fields ⊢
  exact fields.2.2.1.symm

/-- A request with a proper timestamp goes on to the verification exactly if it passes the check. -/
theorem authenticateVariable_eq (mapped : initEfiDataMap request.data = some map)
    (plain : map.timeStamp.IsPlain) :
    authenticateVariable env store stored fingerprint newVariable request =
      if timestampCheck request.attributes map.timeStamp stored then
        authenticateSigned env (uefiVariableStoreQueryVariableInfo env store 0) stored fingerprint
          newVariable request map
      else (.error .securityViolation, (uefiVariableStoreQueryVariableInfo env store 0).2) := by
  obtain ⟨pad1, pad2, nanosecond, timeZone, daylight⟩ := plain
  have unused : ¬(map.timeStamp.pad1 ≠ 0 ∨ map.timeStamp.pad2 ≠ 0 ∨ map.timeStamp.nanosecond ≠ 0 ∨
      map.timeStamp.timeZone ≠ 0 ∨ map.timeStamp.daylight ≠ 0) := by
    simp [pad1, pad2, nanosecond, timeZone, daylight]
  unfold authenticateVariable authenticateSigned timestampCheck
  rw [mapped]
  dsimp only
  rw [if_neg (not_not_intro (initEfiDataMap_certificate mapped)), initEfiDataMap_certType mapped,
    if_neg (by decide), if_neg unused]
  cases memcmp map.timeStamp.toBytes stored.toBytes == .gt with
  | true => rfl
  | false =>
    cases hasAny request.attributes efiVariableAppendWrite with
    | true => rfl
    | false => rfl

theorem authenticateVariable_plain {authenticated : Authenticated}
    (passed : (authenticateVariable env store stored fingerprint newVariable request).1 =
      .ok authenticated) (mapped : initEfiDataMap request.data = some map) :
    map.timeStamp.IsPlain := by
  unfold authenticateVariable at passed
  rw [mapped] at passed
  dsimp only at passed
  split at passed
  · cases passed
  · split at passed
    · cases passed
    · split at passed
      · cases passed
      · rename_i unused
        simp only [not_or, not_not] at unused
        exact unused

end

/-- A variable that is set. -/
def StoreView.Keeps (view : StoreView) (key : EfiGuid × Bytes) (metadata : VariableMetadata) :
    Prop :=
  ∃ pos, (view.entry pos).isSet = true ∧ (view.entry pos).key = key ∧
    (view.entry pos).info.metadata = metadata

/-- A store, and the timestamps that were accepted for one of its variables. -/
structure Updating where
  store : UefiVariableStore
  accepted : List EfiTime

/-- A request to set this variable or another one. -/
def Updating.set (config : BuildConfig) (key : EfiGuid × Bytes) (state : Updating)
    (update : Env × AccessVariable) : Updating where
  store := (uefiVariableStoreSetVariable config update.1 state.store update.2).2
  accepted :=
    if (update.2.guid, update.2.name) = key then
      ((initEfiDataMap update.2.data).map EfiDataMap.timeStamp).toList ++ state.accepted
    else state.accepted

/-- Without errors of the backends, a request for the variable is accepted while that is set, and
its year is in order with the recorded one. -/
structure Updating.Accepts (config : BuildConfig) (key : EfiGuid × Bytes) (state : Updating)
    (update : Env × AccessVariable) : Prop where
  works : ∀ isNv count call, update.1.fault isNv count call = none
  succeeds : (update.2.guid, update.2.name) = key →
    (uefiVariableStoreSetVariable config update.1 state.store update.2).1 = .success
  inOrder : (update.2.guid, update.2.name) = key → ∃ metadata, state.store.view.Keeps key metadata ∧
    ∀ map, initEfiDataMap update.2.data = some map → YearsInOrder metadata.timestamp map.timeStamp

/-- The latest of some timestamps. -/
structure EfiTime.Latest (time : EfiTime) (accepted : List EfiTime) : Prop where
  plain : time.IsPlain
  member : time ∈ accepted
  latest : ∀ other ∈ accepted, ¬time.calendar < other.calendar

section

variable {config : BuildConfig} {env : Env} {store : UefiVariableStore} {request : AccessVariable}
  {status : EfiStatus} {before after : StoreView} {limit : Nat} {key : EfiGuid × Bytes}
  {old now : VariableMetadata} {stored : EfiTime} {fingerprint : BitVec 256} {newVariable : Bool}
  {authenticated : Authenticated} {accepted : List EfiTime}

/-- What `authenticate_variable` accepts makes the recorded timestamp the latest again. -/
theorem EfiTime.Latest.renewed (latest : stored.Latest accepted)
    (passed : (authenticateVariable env store stored fingerprint newVariable request).1 =
      .ok authenticated)
    (inOrder : ∀ map, initEfiDataMap request.data = some map → YearsInOrder stored map.timeStamp) :
    authenticated.timestamp.Latest
      (((initEfiDataMap request.data).map EfiDataMap.timeStamp).toList ++ accepted) := by
  obtain ⟨map, hash, holds⟩ := authenticateVariable_ok passed
  have plain := authenticateVariable_plain passed holds.mapped
  have agrees := (memcmp_chronological_iff latest.plain plain).mpr (inOrder map holds.mapped)
  rw [holds.mapped, holds.timestamp]
  split_ifs with later
  · refine ⟨plain, List.mem_cons_self, fun time member => ?_⟩
    rcases List.mem_cons.mp member with rfl | old
    · exact List.lt_irrefl _
    · exact fun before => latest.latest time old (List.lt_trans (agrees.mp later) before)
  · refine ⟨latest.plain, List.mem_cons_of_mem _ latest.member, fun time member => ?_⟩
    rcases List.mem_cons.mp member with rfl | old
    · exact fun before => later (agrees.mpr before)
    · exact latest.latest time old

theorem StoreView.SameVariables.keeps (same : before.SameVariables after)
    (kept : after.Keeps key now) : before.Keeps key now := by
  obtain ⟨pos, isSet, isKey, metadata⟩ := kept
  have setBefore := (same.entries pos).isSet.symm.trans isSet
  unfold VariableEntry.key at isKey
  rw [(same.entries pos).metadata setBefore] at isKey metadata
  exact ⟨pos, setBefore, isKey, metadata⟩

variable (works : ∀ isNv count call, env.fault isNv count call = none)
  (valid : store.view.WellFormed Terminated limit)

include works valid

/-- A variable that is set in the end is another one and as it was, or has what the request has
recorded. -/
theorem SetAtOutcome.keeps {pos : Nat}
    (outcome : SetAtOutcome config env store pos request status after)
    (named : (store.entry pos).Names request.guid request.name)
    (kept : after.Keeps key now) :
    ((request.guid, request.name) ≠ key ∧ store.view.Keeps key now) ∨
    ((request.guid, request.name) = key ∧ (status = .success → ∃ authenticated,
      requestAuthenticated config env store (store.entry pos).info request =
        .ok authenticated ∧ now.timestamp = authenticated.timestamp ∧
      now.attributes = (if (store.entry pos).isVariableSet then
        (store.entry pos).attributes else request.attributes))) := by
  obtain ⟨at_, isSet, rfl, rfl⟩ := kept
  obtain ⟨used, sameGuid, sameName⟩ := named
  rw [← sameGuid, ← sameName]
  by_cases here : at_ = pos
  · subst here
    right
    rcases outcome.own_info works valid used ((isSet_iff _).mp isSet).2 with
      ⟨failed, _, info⟩ | ⟨authenticated, passed, same, time, attributes⟩
    · refine ⟨?_, fun done => absurd done failed⟩
      unfold VariableEntry.key
      rw [info]
    · exact ⟨same.symm, fun _ => ⟨authenticated, passed, time, attributes⟩⟩
  · obtain ⟨setBefore, info, apart⟩ := outcome.other_info valid used here isSet
    refine .inl ⟨apart.symm, at_, setBefore, ?_, by rw [info]⟩
    unfold VariableEntry.key
    rw [info]

theorem SetOutcome.keeps_other (outcome : SetOutcome config env store request status after)
    (other : (request.guid, request.name) ≠ key) (kept : after.Keeps key now) :
    store.view.Keeps key now := by
  cases outcome with
  | invalid _ => exact kept
  | full _ _ => exact (addEntry_sameVariables store.view request.guid request.name).keeps kept
  | found _ _ at_ outcome =>
    rcases outcome.keeps works valid (names_of_findVariable at_) kept with ⟨_, same⟩ | ⟨own, _⟩
    · exact same
    · exact absurd own other
  | added terminated _ absent _ at_ outcome =>
    obtain ⟨extended, entry⟩ := addEntry_extends valid terminated absent at_
    rcases outcome.keeps works extended (by rw [entry]; exact ⟨rfl, rfl, rfl⟩) kept with
      ⟨_, same⟩ | ⟨own, _⟩
    · exact (addEntry_sameVariables store.view request.guid request.name).keeps same
    · exact absurd own other

/-- An accepted request for a signed variable was authenticated against what is recorded of it. -/
theorem SetOutcome.keeps_own (outcome : SetOutcome config env store request .success after)
    (authVar : config.authVar = true) (own : (request.guid, request.name) = key)
    (signed : hasAny old.attributes efiVariableTimeBasedAuthenticatedWriteAccess = true)
    (before : store.view.Keeps key old) (kept : after.Keeps key now) :
    now.attributes = old.attributes ∧ ∃ authenticated,
      (authenticateVariable env store old.timestamp old.fingerprint false request).1 =
        .ok authenticated ∧ now.timestamp = authenticated.timestamp := by
  obtain ⟨at_, isSet, rfl, rfl⟩ := before
  obtain ⟨used, set⟩ := (isSet_iff _).mp isSet
  obtain ⟨sameGuid, sameName⟩ := Prod.mk.inj own
  have named : (store.entry at_).Names request.guid request.name :=
    ⟨used, sameGuid.symm, sameName.symm⟩
  have found : variableIndexFind store.variableIndex request.guid request.name = some at_ :=
    findVariable_of_names valid.index named
  cases outcome with
  | invalid failed => exact absurd rfl failed
  | added _ _ absent _ _ _ =>
    rw [found] at absent
    cases absent
  | found _ _ again outcome =>
    rw [found] at again
    obtain rfl := Option.some.inj again
    rcases outcome.keeps works valid named kept with ⟨other, _⟩ | ⟨_, recorded⟩
    · exact absurd own other
    · obtain ⟨authenticated, passed, time, attributes⟩ := recorded rfl
      have setHere : (store.entry at_).isVariableSet = true := set
      have needed : needsAuthentication config (store.entry at_).info request =
          true := by
        unfold needsAuthentication
        rw [if_pos setHere, authVar]
        exact signed
      unfold requestAuthenticated authenticateIfNeeded at passed
      rw [if_pos needed, setHere] at passed
      rw [if_pos setHere] at attributes
      exact ⟨attributes, authenticated, passed, time⟩

end

/-- The recorded timestamp of a signed variable is the latest accepted one. -/
structure Updating.Chronological (key : EfiGuid × Bytes) (limit : Nat) (state : Updating) :
    Prop where
  wellFormed : state.store.view.WellFormed Terminated limit
  signed : ∀ metadata, state.store.view.Keeps key metadata →
    hasAny metadata.attributes efiVariableTimeBasedAuthenticatedWriteAccess = true
  latest : ∀ metadata, state.store.view.Keeps key metadata → metadata.timestamp.Latest state.accepted

theorem StoreView.Keeps.unique {view : StoreView} {names : Bytes → Prop} {key : EfiGuid × Bytes}
    {old now : VariableMetadata} (valid : view.variableIndex.WellFormed names)
    (first : view.Keeps key old) (second : view.Keeps key now) : now = old := by
  obtain ⟨pos, isSet, rfl, rfl⟩ := first
  obtain ⟨at_, setAgain, same, rfl⟩ := second
  have found : ∀ {other}, (view.entry other).isSet = true →
      findVariable view.variableIndex (view.entry other).key.1
        (view.entry other).key.2 = some other :=
    fun isSet => findVariable_of_names valid ⟨((isSet_iff _).mp isSet).1, rfl, rfl⟩
  have again := found setAgain
  rw [same, found isSet] at again
  rw [Option.some.inj again]

theorem Updating.Chronological.set {config : BuildConfig} {key : EfiGuid × Bytes}
    {limit : Nat} {state : Updating} {update : Env × AccessVariable}
    (authVar : config.authVar = true)
    (chronological : state.Chronological key limit)
    (accepts : state.Accepts config key update) :
    (state.set config key update).Chronological key limit := by
  obtain ⟨valid, signed, latest⟩ := chronological
  obtain ⟨works, succeeds, inOrder⟩ := accepts
  have outcome := uefiVariableStoreSetVariable_outcome config update.1 state.store update.2
    valid.hasRoom
  have validAfter : (state.set config key update).store.view.WellFormed
      Terminated limit :=
    serve_wellFormed update.1 valid (.setVariable update.2) id
  by_cases own : (update.2.guid, update.2.name) = key
  · obtain ⟨old, before, years⟩ := inOrder own
    rw [succeeds own] at outcome
    refine ⟨validAfter, fun now kept => ?_, fun now kept => ?_⟩
    · rw [(outcome.keeps_own works valid authVar own (signed old before) before kept).1]
      exact signed old before
    · obtain ⟨_, authenticated, passed, time⟩ :=
        outcome.keeps_own works valid authVar own (signed old before) before kept
      rw [time, Updating.set, if_pos own]
      exact (latest old before).renewed passed years
  · refine ⟨validAfter, fun now kept => ?_, fun now kept => ?_⟩
    · exact signed now (outcome.keeps_other works valid own kept)
    · rw [Updating.set, if_neg own]
      exact latest now (outcome.keeps_other works valid own kept)

/-- A request without append passes the check of its timestamp if and only if that is later in the
calendar, exactly if the years are in order. After every sequence of accepted updates of a variable
that is set, with years in order, its recorded timestamp is the latest accepted one. -/
theorem timestamps_chronological_iff (env : Env) (store : UefiVariableStore) (stored : EfiTime)
    (fingerprint : BitVec 256) (newVariable : Bool) (request : AccessVariable) (map : EfiDataMap)
    (config : BuildConfig) (limit : Nat) (key : EfiGuid × Bytes) (first : VariableMetadata) :
    (initEfiDataMap request.data = some map → stored.IsPlain → map.timeStamp.IsPlain →
      hasAny request.attributes efiVariableAppendWrite = false →
      authenticateVariable env store stored fingerprint newVariable request =
        (if timestampCheck request.attributes map.timeStamp stored then
          authenticateSigned env (uefiVariableStoreQueryVariableInfo env store 0) stored fingerprint
            newVariable request map
        else (.error .securityViolation, (uefiVariableStoreQueryVariableInfo env store 0).2)) ∧
      ((timestampCheck request.attributes map.timeStamp stored = true ↔
        stored.calendar < map.timeStamp.calendar) ↔ YearsInOrder stored map.timeStamp)) ∧
    (limit < 2 ^ 31 → config.authVar = true → Reachable config limit (.running store) →
      store.view.Keeps key first → first.timestamp.IsPlain →
      hasAny first.attributes efiVariableTimeBasedAuthenticatedWriteAccess = true →
      ∀ state, Reached (Updating.set config key) ⟨store, [first.timestamp]⟩
          (Updating.Accepts config key) state →
        ∀ now, state.store.view.Keeps key now → now.timestamp.Latest state.accepted) := by
  constructor
  · intro mapped storedPlain plain overwrites
    refine ⟨authenticateVariable_eq mapped plain, ?_⟩
    unfold timestampCheck
    rw [overwrites, Bool.or_false, beq_iff_eq]
    exact memcmp_chronological_iff storedPlain plain
  · intro few authVar reachable keeps plain signed state reached
    have chronological : state.Chronological key limit := by
      refine reached.invariant (Updating.Chronological key limit) ?_
        fun _ _ _ holds accepts => holds.set authVar accepts
      have valid := reachable.wellFormed few
      refine ⟨valid, fun now again => ?_, fun now again => ?_⟩
      · rw [keeps.unique valid.index again]
        exact signed
      · rw [keeps.unique valid.index again]
        refine ⟨plain, List.mem_singleton_self _, fun time member => ?_⟩
        rw [List.mem_singleton.mp member]
        exact List.lt_irrefl _
    exact chronological.latest

/-- A signed request for the variable `A`. -/
def datedRequest (time : EfiTime) : AccessVariable :=
  ⟨.zero, 0x27#32, [0x41, 0, 0, 0], time.toBytes ++
    ([24, 0, 0, 0, 0x00, 0x02, 0xF1, 0x0E] ++ (efiCertTypePkcs7Guid.toBytes ++ [7]))⟩

/-- Every signature is good. -/
def Env.accepting : Env := { Env.calm with verifyPkcs7Signature := fun _ _ _ => true }

def emptyVariableStore : UefiVariableStore :=
  (uefiVariableStoreInit (.standard true) .calm 3 .fresh .fresh).2

def EfiTime.newYear (year : BitVec 16) : EfiTime := ⟨year, 1, 1, 0, 0, 0, 0, 0, 0, 0, 0⟩

theorem timestamps_chronological_2025 :
    ∃ store first, Reachable (.standard true) 3 (.running store) ∧
      store.view.Keeps (.zero, [0x41, 0, 0, 0]) first ∧ first.timestamp = .newYear 2024 ∧
      (timestampCheck (datedRequest (.newYear 2025)).attributes (.newYear 2025) (.newYear 2024) =
        true ↔ (EfiTime.newYear 2024).calendar < (EfiTime.newYear 2025).calendar) ∧
      ∃ now, (uefiVariableStoreSetVariable (.standard true) .accepting store
          (datedRequest (.newYear 2025))).2.view.Keeps (.zero, [0x41, 0, 0, 0]) now ∧
        now.timestamp.Latest [.newYear 2025, .newYear 2024] := by
  have plain (year : BitVec 16) : (EfiTime.newYear year).IsPlain := ⟨rfl, rfl, rfl, rfl, rfl⟩
  have mapped : initEfiDataMap (datedRequest (.newYear 2025)).data =
      some ⟨.newYear 2025, 0x0EF1, efiCertTypePkcs7Guid, [], 40, [7]⟩ := by decide +kernel
  let entry (store : UefiVariableStore) := store.view.entry 0
  let update (store : UefiVariableStore) :=
    uefiVariableStoreSetVariable (.standard true) .accepting store (datedRequest (.newYear 2025))
  obtain ⟨store, reachable, isSet, metadata, success, setAfter, keyAfter⟩ :
      ∃ store, Reachable (.standard true) 3 (.running store) ∧ (entry store).isSet = true ∧
        (entry store).info.metadata =
          ⟨.zero, .newYear 2024, 0, 4, [0x41, 0, 0, 0], 0x27#32, 1⟩ ∧
        (update store).1 = .success ∧ (entry (update store).2).isSet = true ∧
        (entry (update store).2).key = (.zero, [0x41, 0, 0, 0]) :=
    exists_reachable [.powerOn .calm,
      .request .accepting (.setVariable (datedRequest (.newYear 2024)))] (by decide +kernel)
  have kept : store.view.Keeps (.zero, [0x41, 0, 0, 0])
      ⟨.zero, .newYear 2024, 0, 4, [0x41, 0, 0, 0], 0x27#32, 1⟩ :=
    ⟨0, isSet, by rw [VariableEntry.key, metadata], metadata⟩
  obtain ⟨check, run⟩ := timestamps_chronological_iff .accepting store (.newYear 2024) 0 false
    (datedRequest (.newYear 2025)) _ (.standard true) 3 (.zero, [0x41, 0, 0, 0]) _
  obtain ⟨_, iff⟩ := check mapped (plain _) (plain _) (by decide)
  have accepts : Updating.Accepts (.standard true) (.zero, [0x41, 0, 0, 0])
      ⟨store, [.newYear 2024]⟩ (.accepting, datedRequest (.newYear 2025)) := by
    refine ⟨fun _ _ _ => rfl, fun _ => success, fun _ => ⟨_, kept, fun map again => ?_⟩⟩
    rw [← Option.some.inj (mapped.symm.trans again)]
    exact yearsInOrder_of_block (by decide)
  exact ⟨store, _, reachable, kept, rfl, iff.mpr (yearsInOrder_of_block (by decide)),
    _, ⟨0, setAfter, keyAfter, rfl⟩, run (by decide) rfl reachable kept (plain _)
      (by decide) _ (.step .start accepts) _ ⟨0, setAfter, keyAfter, rfl⟩⟩

/-- The first day of 2048 does not pass for later than the last second of 2047. A variable that is
created in 2025, deleted in 2026 and created again with the year 2024 has that timestamp. -/
theorem timestamps_out_of_order :
    ((⟨2047, 12, 31, 23, 59, 59, 0, 0, 0, 0, 0⟩ : EfiTime).calendar <
        (EfiTime.newYear 2048).calendar ∧
      timestampCheck (datedRequest (.newYear 2048)).attributes (.newYear 2048)
        ⟨2047, 12, 31, 23, 59, 59, 0, 0, 0, 0, 0⟩ = false ∧
      (authenticateVariable .accepting emptyVariableStore ⟨2047, 12, 31, 23, 59, 59, 0, 0, 0, 0, 0⟩ 0
        false (datedRequest (.newYear 2048))).1 = .error .securityViolation) ∧
    (let deletion := { datedRequest (.newYear 2026) with
        data := (datedRequest (.newYear 2026)).data.dropLast }
      let created := uefiVariableStoreSetVariable (.standard true) .accepting emptyVariableStore
        (datedRequest (.newYear 2025))
      let deleted := uefiVariableStoreSetVariable (.standard true) .accepting created.2 deletion
      let again := uefiVariableStoreSetVariable (.standard true) .accepting deleted.2
        (datedRequest (.newYear 2024))
      (created.1, deleted.1, again.1) = (.success, .success, .success) ∧
        (again.2.entry 0).isSet = true ∧
        (again.2.entry 0).timestamp = .newYear 2024) := by
  decide +kernel

end SmmVariable
