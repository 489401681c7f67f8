import TrustedServices.SmmVariable.FailureAtomicity

/- The check constraints of a variable, made on the size of the request alone. -/
namespace SmmVariable

open Lib VariableEntry

/-- What constraints ask of the value of their variable. -/
structure Enforced (constraints : VariableConstraints) (value : Option (Attributes × Bytes)) :
    Prop where
  present : 1 ≤ constraints.minSize.toNat →
    ∃ attributes data, value = some (attributes, data) ∧ constraints.minSize.toNat ≤ data.length
  bounded : ∀ attributes data, value = some (attributes, data) →
    data.length ≤ constraints.maxSize.toNat

/-- The object that a request for the variable of an entry writes to. -/
def targetObject (store : UefiVariableStore) (info : VariableInfo) (request : AccessVariable) :
    Option Object :=
  store.objects (isNonVolatile
    (if info.isVariableSet then info.attributes else request.attributes)) info.uid

/-- The requests whose effect is as the check of their size means it: a variable with a minimal
size is not deleted, appended data stays between the limits with what is there, and other data
reaches the minimal size also without its descriptor. -/
def MeansWhatIsChecked (config : BuildConfig) (store : UefiVariableStore) (info : VariableInfo)
    (request : AccessVariable) : Prop :=
  let payload := requestPayload config info request
  let minSize := info.checkConstraints.minSize.toNat
  if info.isVariableSet ∧ isRemoveOperation { request with data := payload } then minSize = 0
  else if hasAny request.attributes efiVariableAppendWrite then
    match targetObject store info request with
    | none => minSize = 0
    | some object =>
      minSize ≤ object.data.length + payload.length ∧
        object.data.length + payload.length ≤ info.checkConstraints.maxSize.toNat
  else minSize ≤ payload.length

variable {config : BuildConfig} {store : UefiVariableStore} {info : VariableInfo}
  {request : AccessVariable} {constraints : VariableConstraints}

theorem requestPayload_length_le : (requestPayload config info request).length ≤
    request.data.length := by
  unfold requestPayload
  split
  · cases mapped : initEfiDataMap request.data with
    | none => exact Nat.zero_le _
    | some map =>
      have payload : map.payload = request.data.drop map.efiAuthDescriptorLen := by
        unfold initEfiDataMap at mapped
        dsimp only at mapped
        iterate 5 (split at mapped; · cases mapped)
        split_ifs at mapped ⊢
        rw [← Option.some.inj mapped]
      show map.payload.length ≤ _
      rw [payload, List.length_drop]
      omega
  · exact Nat.le_refl _

theorem enforced_none : Enforced constraints none ↔ constraints.minSize.toNat = 0 := by
  constructor
  · intro enforced
    by_contra positive
    obtain ⟨_, _, absent, _⟩ := enforced.present (by omega)
    cases absent
  · intro zero
    exact ⟨fun positive => absurd zero (by omega), nofun⟩

variable {attributes : Attributes}

theorem enforced_some {data : Bytes} :
    Enforced constraints (some (attributes, data)) ↔
      constraints.minSize.toNat ≤ data.length ∧ data.length ≤ constraints.maxSize.toNat := by
  constructor
  · intro enforced
    refine ⟨?_, enforced.bounded _ _ rfl⟩
    by_contra short
    obtain ⟨_, _, same, reached⟩ := enforced.present (by omega)
    cases same
    exact short reached
  · rintro ⟨reached, bounded⟩
    refine ⟨fun _ => ⟨_, _, rfl, reached⟩, ?_⟩
    rintro _ _ ⟨⟩
    exact bounded

/-- The written object is as long as the constraints ask if the request means what is checked. -/
theorem enforced_written (keeps : ¬ (info.isVariableSet = true ∧
      isRemoveOperation { request with data := requestPayload config info request } = true))
    (small : request.data.length ≤ info.checkConstraints.maxSize.toNat) :
    Enforced info.checkConstraints
      ((writtenObject { request with data := requestPayload config info request }
        (targetObject store info request)).map fun object => (attributes, object.data)) ↔
      MeansWhatIsChecked config store info request := by
  have shorter := @requestPayload_length_le config info request
  unfold MeansWhatIsChecked writtenObject
  rw [if_neg keeps]
  split
  · cases targetObject store info request with
    | none =>
      rw [Option.map_none, ite_self]
      exact enforced_none
    | some object =>
      dsimp only
      by_cases empty : (requestPayload config info request).length = 0
      · rw [if_pos empty, empty, Nat.add_zero]
        exact enforced_some
      · rw [if_neg empty, ← List.length_append]
        exact enforced_some
  · rw [Option.map_some, enforced_some]
    dsimp only
    omega

theorem checkAccessPermittedOnSet_constrained
    (permitted : checkAccessPermittedOnSet store info request.data.length = .success)
    (constrained : info.isConstraintsSet = true) :
    info.checkConstraints.property &&& varCheckVariablePropertyReadOnly = 0 ∧
      request.data.length ≤ info.checkConstraints.maxSize.toNat := by
  unfold checkAccessPermittedOnSet at permitted
  split_ifs at permitted ⊢ with refused
  · unfold variableCheckerCheckOnSet at permitted
    split_ifs at permitted ⊢ with writable
    exact ⟨Decidable.not_not.mp writable, by omega⟩
  · exact absurd ⟨permitted, constrained⟩ refused

variable {env : Env} {view after : StoreView} {pos : Nat} {shouldSyncIndex : Bool}
  {timestamp : EfiTime} {fingerprint : BitVec 256}

/-- A constrained variable that a request leaves unset has no value. -/
theorem FinishOutcome.constrained_unset
    (finish : FinishOutcome config env view pos shouldSyncIndex timestamp fingerprint request
      .success after) (inside : pos < view.entries.length)
    (unset : (view.entry pos).isVariableSet = false)
    (constrained : (view.entry pos).isConstraintsSet = true) :
    (after.entry pos).inUse = (view.entry pos).inUse ∧
      (after.entry pos).info = (view.entry pos).info := by
  cases finish with
  | @unstored middle sync _ =>
    obtain ⟨inUse, info⟩ := sync.info_eq pos
    have kept : (middle.entry pos).withoutUnused = middle.entry pos := by
      unfold withoutUnused
      rw [info, constrained, Bool.not_true, Bool.false_and, if_neg Bool.false_ne_true]
    rw [middle.entry_modifyEntry (sync.inside inside), kept]
    exact ⟨inUse, info⟩
  | stored sync isSet _ =>
    rw [(sync.info_eq pos).2, unset] at isSet
    cases isSet

variable {names : Bytes → Prop} {limit : Nat}

/-- The value that a successful request leaves in a variable with constraints. -/
theorem SetAtOutcome.constrained_value
    (outcome : SetAtOutcome config env store pos request .success after)
    (valid : store.view.WellFormed names limit)
    (named : (store.entry pos).Names request.guid request.name)
    (constrained : (store.entry pos).isConstraintsSet = true) :
    let info := (store.entry pos).info
    let stripped := { request with data := requestPayload config info request }
    checkAccessPermittedOnSet store info request.data.length = .success ∧
      ∃ attributes, after.values (request.guid, request.name) =
        if info.isVariableSet ∧ isRemoveOperation stripped then none
        else (writtenObject stripped (targetObject store info request)).map fun object =>
          (attributes, object.data) := by
  obtain ⟨used, sameGuid, sameName⟩ := named
  have data := valid.data_uid pos used
  have inside := VariableIndex.inside_of_inUse used
  have validAfter := (outcome.wellFormed valid used).index
  -- the entry stays in use under its name, so the value of the name is the one at the entry
  have valueOf : (after.entry pos).inUse = true →
      (after.entry pos).guid =
        (store.entry pos).guid →
      (after.entry pos).name =
        (store.entry pos).name →
      after.values (request.guid, request.name) = (after.valueAt pos).map Prod.snd :=
    fun usedAfter guid name =>
      values_named validAfter ⟨usedAfter, guid.trans sameGuid, name.trans sameName⟩
  cases outcome with
  | denied _ error => exact absurd rfl error
  | unauthenticated _ refused => exact absurd rfl (requestAuthenticated_error refused)
  | @deleted _ _ removed _ permitted passed isSet removes removal finish =>
    rw [requestAuthenticated_data passed] at removes
    refine ⟨permitted, 0, ?_⟩
    rw [if_pos ⟨isSet, removes⟩]
    obtain ⟨insideCleared, inUse, entry⟩ := removal.cleared inside
    obtain ⟨usedAfter, info⟩ := finish.constrained_unset insideCleared (by rw [entry])
      (by rw [entry]; exact constrained)
    rw [inUse] at usedAfter
    rw [entry] at info
    rw [valueOf (usedAfter.trans used) (by rw [info]; rfl) (by rw [info]; rfl),
      valueAt_of_unset (by rw [info])]
    rfl
  | updated permitted passed isSet keeps same finish =>
    rw [requestAuthenticated_data passed] at keeps finish
    refine ⟨permitted, (store.entry pos).attributes, ?_⟩
    rw [if_neg fun removes => by rw [keeps] at removes; cases removes.2]
    obtain ⟨_, usedAfter, info, object, _⟩ := finish.own_success inside isSet data
    have isSetAfter : (after.entry pos).isSet = true :=
      (isSet_iff _).mpr ⟨usedAfter.trans used, by rw [info]; exact isSet⟩
    rw [valueOf (usedAfter.trans used) (by rw [info]; rfl) (by rw [info]; rfl),
      valueAt_of_set isSetAfter, info, Option.map_map, targetObject, if_pos isSet]
    exact congrArg (Option.map _) object
  | created permitted passed unset nonempty finish =>
    rw [requestAuthenticated_data passed] at finish
    refine ⟨permitted, request.attributes, ?_⟩
    obtain ⟨insideCreated, inUse, created⟩ := store.entry_created request.attributes used
    obtain ⟨_, usedAfter, info, object, _⟩ := finish.own_success insideCreated (by rw [created])
      (by rw [created]; exact data)
    rw [inUse] at usedAfter
    rw [created] at info object
    have isSetAfter : (after.entry pos).isSet = true :=
      (isSet_iff _).mpr ⟨usedAfter, by rw [info]; rfl⟩
    rw [valueOf usedAfter (by rw [info]; rfl) (by rw [info]; rfl),
      valueAt_of_set isSetAfter, info, Option.map_map, targetObject, unset]
    exact congrArg (Option.map _) object

/-- After a successful request for a variable with constraints they are enforced on what is stored
if and only if the request means what is checked. A variable that is read-only accepts none. -/
theorem setVariable_enforces_iff {config : BuildConfig} {env : Env} {limit pos : Nat}
    {store : UefiVariableStore} {request : AccessVariable} (few : limit < 2 ^ 31)
    (reachable : Reachable config limit (.running store))
    (found : variableIndexFind store.variableIndex request.guid request.name = some pos)
    (constrained : (store.entry pos).isConstraintsSet = true)
    (success : (uefiVariableStoreSetVariable config env store request).1 = .success) :
    let info := (store.entry pos).info
    info.checkConstraints.property &&& varCheckVariablePropertyReadOnly = 0 ∧
      (Enforced info.checkConstraints
          ((uefiVariableStoreSetVariable config env store request).2.view.values
            (request.guid, request.name)) ↔
        MeansWhatIsChecked config store info request) := by
  have valid : store.view.WellFormed _ limit := reachable.wellFormed few
  have outcome := uefiVariableStoreSetVariable_outcome config env store request valid.hasRoom
  rw [success] at outcome
  generalize (uefiVariableStoreSetVariable config env store request).2.view = after at outcome ⊢
  cases outcome with
  | invalid error => exact absurd rfl error
  | added _ _ absent _ _ _ =>
    rw [found] at absent
    cases absent
  | found _ _ at_ outcome =>
    obtain rfl : pos = _ := Option.some.inj (found.symm.trans at_)
    obtain ⟨permitted, attributes, value⟩ := outcome.constrained_value valid
      (names_of_findVariable found) constrained
    obtain ⟨writable, small⟩ := checkAccessPermittedOnSet_constrained permitted constrained
    refine ⟨writable, ?_⟩
    rw [value]
    split_ifs with removes
    · unfold MeansWhatIsChecked
      rw [if_pos removes]
      exact enforced_none
    · exact enforced_written removes small

/-- A request for the variable `A`. -/
def letterRequest (attributes : Attributes) (data : Bytes) : AccessVariable :=
  ⟨.zero, attributes, [0x41, 0, 0, 0], data⟩

/-- The variable `A` holds three bytes and gets limits of one and four. -/
def limitedEvents : List Event :=
  [.powerOn .calm, .request .calm (.setVariable (letterRequest 0x7#32 [1, 2, 3])),
    .request .calm (.setVarCheckProperty .zero [0x41, 0, 0, 0] ⟨1, 0, 0, 1, 4⟩)]

/-- Four bytes are written in place of the three. -/
theorem setVariable_enforces_overwrite : ∃ store, Reachable (.standard false) 2 (.running store) ∧
    Enforced ⟨1, 0, 0, 1, 4⟩ ((uefiVariableStoreSetVariable (.standard false) .calm store
      (letterRequest 0x7#32 [5, 6, 7, 8])).2.view.values (.zero, [0x41, 0, 0, 0])) := by
  obtain ⟨store, reachable, found, constrained, constraints, success⟩ :
      ∃ store, Reachable (.standard false) 2 (.running store) ∧
        variableIndexFind store.variableIndex .zero [0x41, 0, 0, 0] = some 0 ∧
        (store.entry 0).isConstraintsSet = true ∧
        (store.entry 0).checkConstraints = ⟨1, 0, 0, 1, 4⟩ ∧
        (uefiVariableStoreSetVariable (.standard false) .calm store
          (letterRequest 0x7#32 [5, 6, 7, 8])).1 = .success :=
    exists_reachable limitedEvents (by decide +kernel)
  obtain ⟨_, enforced⟩ := @setVariable_enforces_iff _ _ 2 0 store
    (letterRequest 0x7#32 [5, 6, 7, 8]) (by decide) reachable found constrained success
  have means : MeansWhatIsChecked (.standard false) store (store.entry 0).info
      (letterRequest 0x7#32 [5, 6, 7, 8]) := by
    have payload : requestPayload (.standard false) (store.entry 0).info
        (letterRequest 0x7#32 [5, 6, 7, 8]) = [5, 6, 7, 8] := rfl
    unfold MeansWhatIsChecked
    rw [payload, constraints, if_neg (fun removes => absurd removes.2 (by decide)),
      if_neg (by decide)]
    decide
  have limits := enforced.mpr means
  rw [constraints] at limits
  exact ⟨store, reachable, limits⟩

/-- Two more bytes are appended though no more than four are allowed. -/
theorem appended_beyond_maxSize : ∃ store, Reachable (.standard false) 2 (.running store) ∧
    (store.entry 0).checkConstraints.maxSize = 4 ∧
    (uefiVariableStoreSetVariable (.standard false) .calm store
      (letterRequest 0x47#32 [4, 5])).1 = .success ∧
    (uefiVariableStoreSetVariable (.standard false) .calm store
      (letterRequest 0x47#32 [4, 5])).2.view.values (.zero, [0x41, 0, 0, 0]) =
        some (0x7#32, [1, 2, 3, 4, 5]) :=
  exists_reachable limitedEvents (by decide +kernel)

end SmmVariable
