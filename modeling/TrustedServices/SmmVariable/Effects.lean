import TrustedServices.SmmVariable.SetVariable
import TrustedServices.SmmVariable.IndexStorage

/- What each part of a request does to the store, apart from counting its calls. -/
namespace SmmVariable

open Lib

/-- A store without the number of calls its backends have served. `settings`
holds the non-volatile flag, the capacity and the variable size limit of the
persistent (`true`) and the volatile delegate store. -/
@[ext] structure StoreView extends variableIndex : VariableIndex where
  isBootService : Bool
  indexSyncBufferSize : Nat
  activeVariableIndexUid : Nat
  settings : Bool → Bool × Nat × Nat
  objects : Bool → ObjectStore

def DelegateVariableStore.settings (delegate : DelegateVariableStore) : Bool × Nat × Nat :=
  (delegate.isNv, delegate.totalCapacity, delegate.maxVariableSize)

namespace UefiVariableStore

def view (store : UefiVariableStore) : StoreView where
  isBootService := store.isBootService
  indexSyncBufferSize := store.indexSyncBufferSize
  activeVariableIndexUid := store.activeVariableIndexUid
  variableIndex := store.variableIndex
  settings isNv := (store.delegate isNv).settings
  objects := store.objects

end UefiVariableStore

namespace StoreView

section

variable (view : StoreView)

def withObjects (isNv : Bool) (objects : ObjectStore) : StoreView :=
  { view with objects := Function.update view.objects isNv objects }

def withIndex (index : VariableIndex) : StoreView :=
  { view with variableIndex := index }

def modifyEntry (pos : Nat) (change : VariableEntry → VariableEntry) : StoreView :=
  view.withIndex (view.variableIndex.modify pos change)

/-- The sync buffer holds a dump of the index. -/
def HasRoom : Prop :=
  variableIndexMaxDumpSize view.variableIndex ≤ view.indexSyncBufferSize

@[simp] theorem withObjects_self (isNv : Bool) :
    view.withObjects isNv (view.objects isNv) = view := by
  simp [withObjects]

end

end StoreView

section

variable (store : UefiVariableStore) (env : Env)

theorem view_setBackend (isNv : Bool) (backend : FaultyStore) :
    (store.setBackend isNv backend).view = store.view.withObjects isNv backend.objects := by
  cases isNv <;> ext1 <;> try rfl
  all_goals
    funext other
    cases other <;> rfl

section

variable {α : Type} (isNv : Bool) (site : CallSite) (op : BackendOp) (uid : Nat)
  (query : ObjectStore → Except StorageError α)

@[simp] theorem view_backendRead :
    (store.backendRead env isNv site op uid query).2.view = store.view := by
  rw [UefiVariableStore.backendRead, view_setBackend]
  exact store.view.withObjects_self isNv

theorem backendRead_spec : (store.backendRead env isNv site op uid query).2.view = store.view ∧
      ∀ value, (store.backendRead env isNv site op uid query).1 = .ok value →
        query (store.view.objects isNv) = .ok value :=
  ⟨view_backendRead _ _ _ _ _ _ _, fun _ success =>
    have read : ((store.delegate isNv).storageBackend.read (env.fault isNv) ⟨site, op, uid⟩
      query).1 = .ok _ := success
    (FaultyStore.read_ok read).2⟩

end

theorem spaceUsedLoop_objects (fault : Fault BackendCall) (attributes : Attributes)
    (entries : List VariableEntry) (backend : FaultyStore) :
    (spaceUsedLoop fault attributes entries backend).2.objects = backend.objects := by
  induction entries generalizing backend with
  | nil => rfl
  | cons entry rest ih =>
    rw [spaceUsedLoop]
    split
    · exact ih _
    · exact ih _

@[simp] theorem view_queryVariableInfo (attributes : Attributes) :
    (uefiVariableStoreQueryVariableInfo env store attributes).2.view = store.view := by
  rw [uefiVariableStoreQueryVariableInfo, view_setBackend, spaceUsedLoop_objects]
  exact store.view.withObjects_self _

@[simp] theorem view_loadVariableData (info : VariableInfo) (dataSize maxDataLen : Nat) :
    (loadVariableData env store info dataSize maxDataLen).2.view = store.view := by
  rw [loadVariableData]
  dsimp only
  split
  · simp
  · split
    · split <;> simp
    · simp

@[simp] theorem view_getVariable (guid : EfiGuid) (name : Bytes) (dataSize maxDataLen : Nat) :
    (uefiVariableStoreGetVariable env store guid name dataSize maxDataLen).2.view = store.view := by
  rw [uefiVariableStoreGetVariable]
  split
  · rfl
  · split
    · rfl
    · dsimp only
      split
      · split
        · simp
        · rfl
      · rfl

theorem view_verifyByKeyVariables (map : EfiDataMap) (hash : Bytes) (maxVariableSize : Nat)
    (status : EfiStatus) (keys : List (Nat × Bytes)) :
    (verifyByKeyVariables env map hash maxVariableSize status keys store).2.view = store.view := by
  induction keys generalizing status store with
  | nil => rfl
  | cons key rest ih =>
    rw [verifyByKeyVariables]
    split
    · exact ih store status
    · dsimp only
      split
      · simp
      · split
        · simp
        · rw [ih]
          simp

theorem view_authenticateSecureBootVariable (variable_ : AccessVariable) (map : EfiDataMap)
    (hash : Bytes) (maxVariableSize : Nat) :
    (authenticateSecureBootVariable env store variable_ map hash maxVariableSize).2.view =
      store.view := by
  rw [authenticateSecureBootVariable]
  split
  · rfl
  · dsimp only
    split_ifs
    · simp
    · simp
    · simp
    · split
      · simp
      · rw [view_verifyByKeyVariables]
        simp

theorem view_authenticateVariable (storedTimestamp : EfiTime) (fingerprint : BitVec 256)
    (newVariable : Bool) (variable_ : AccessVariable) :
    (authenticateVariable env store storedTimestamp fingerprint newVariable variable_).2.view =
      store.view := by
  rw [authenticateVariable]
  cases initEfiDataMap variable_.data with
  | none => rfl
  | some map =>
    dsimp only
    iterate 4 (split; · simp)
    split
    · simp
    · split
      · split <;> simp
      · split <;> rw [view_authenticateSecureBootVariable] <;> simp

end

/-- The object of a variable after a request has written to it. -/
def writtenObject (variable_ : AccessVariable) (old : Option Object) : Option Object :=
  if hasAny variable_.attributes efiVariableAppendWrite then
    if variable_.data.length = 0 then old
    else old.map fun object =>
      ⟨object.data ++ variable_.data, (object.data ++ variable_.data).length⟩
  else some ⟨variable_.data, variable_.data.length⟩

section

variable (env : Env) (store : UefiVariableStore) {isNv : Bool} {op : BackendOp} {site : CallSite}

section

variable {uid : Nat} {update : ObjectStore → Except StorageError ObjectStore}

theorem backendWrite_view_ok (done : (store.backendWrite env isNv site op uid update).1 = .ok ()) :
    ∃ objects, update (store.objects isNv) = .ok objects ∧
      (store.backendWrite env isNv site op uid update).2.view =
        store.view.withObjects isNv objects := by
  unfold UefiVariableStore.backendWrite at done ⊢
  obtain ⟨objects, _, effect, result⟩ | ⟨_, _, result⟩ := FaultyStore.write_cases (env.fault isNv)
    ⟨site, op, uid⟩ update (store.delegate isNv).storageBackend
  · rw [result]
    exact ⟨objects, effect, view_setBackend _ _ _⟩
  · rw [result] at done
    cases done

theorem backendWrite_view_error {error : StorageError}
    (failed : (store.backendWrite env isNv site op uid update).1 = .error error) :
    (store.backendWrite env isNv site op uid update).2.view = store.view := by
  unfold UefiVariableStore.backendWrite at failed ⊢
  obtain ⟨_, _, _, result⟩ | ⟨_, _, result⟩ := FaultyStore.write_cases (env.fault isNv)
    ⟨site, op, uid⟩ update (store.delegate isNv).storageBackend
  · rw [result] at failed
    cases failed
  · rw [result, view_setBackend]
    exact store.view.withObjects_self isNv

end

theorem removeVariableData_view (info : VariableInfo) (isSet : info.isVariableSet = true) :
    let isNv := isNonVolatile info.attributes
    let after := (removeVariableData env store info).2.view
    after = store.view.withObjects isNv ((store.objects isNv).put info.uid none) ∨
      (after = store.view ∧ ∃ count error, env.fault isNv count
        ⟨.removeVariableData, .remove, info.uid⟩ = some error) := by
  rw [removeVariableData, if_pos isSet]
  rcases FaultyStore.write_remove (env.fault (isNonVolatile info.attributes))
    ⟨.removeVariableData, .remove, info.uid⟩ info.uid
    (store.delegate (isNonVolatile info.attributes)).storageBackend with
    ⟨_, erased⟩ | ⟨error, failed, _, injected | ⟨_, absent⟩⟩
  · rw [UefiVariableStore.backendWrite, view_setBackend, erased]
    exact .inl rfl
  · exact .inr ⟨backendWrite_view_error env store failed, _, error, injected⟩
  · refine .inl ?_
    rw [backendWrite_view_error env store failed]
    have gone : (store.objects (isNonVolatile info.attributes)).put info.uid none =
        store.view.objects (isNonVolatile info.attributes) :=
      (congrArg _ absent.symm).trans (ObjectStore.put_present _ _)
    rw [gone, StoreView.withObjects_self]

section

variable (isNv : Bool) (uid : Nat) (data : Bytes)

theorem storeOverwrite_view : let result := storeOverwrite env store isNv uid data
    (result.1 = .ok () ∧ result.2.view =
      store.view.withObjects isNv ((store.objects isNv).put uid (some ⟨data, data.length⟩))) ∨
    (∃ error, result.1 = .error error ∧ result.2.view = store.view) := by
  dsimp only
  rw [storeOverwrite]
  split
  · exact .inr ⟨_, rfl, rfl⟩
  · cases outcome : (store.backendWrite env isNv .storeOverwrite .set uid
        (ObjectStore.set uid data)).1 with
    | error error => exact .inr ⟨error, rfl, backendWrite_view_error env store outcome⟩
    | ok _ =>
      obtain ⟨objects, effect, view⟩ := backendWrite_view_ok env store outcome
      rw [ObjectStore.set, Except.ok.injEq] at effect
      exact .inl ⟨rfl, by rw [view, ← effect]; rfl⟩

theorem extendObject_view (newSize : Nat)
    (object : Object) (present : store.view.objects isNv uid = some object)
    (room : object.data.length ≤ newSize) :
    let result := extendObject env store isNv uid data newSize
    (result.1 = .ok () ∧ result.2.view = store.view.withObjects isNv
      ((store.objects isNv).put uid (some ⟨object.data ++ data, (object.data ++ data).length⟩))) ∨
    (∃ error, result.1 = .error error ∧ result.2.view = store.view) := by
  rw [extendObject]
  have read := backendRead_spec store env isNv .storeAppendWrite .get uid
    (ObjectStore.get uid 0 newSize)
  generalize store.backendRead env isNv .storeAppendWrite .get uid (ObjectStore.get uid 0 newSize) =
    got at read ⊢
  obtain ⟨status, store'⟩ := got
  obtain ⟨same, value⟩ := read
  cases status with
  | error error => exact .inr ⟨error, rfl, same⟩
  | ok old =>
    have whole := value old rfl
    simp only [ObjectStore.get, present, Nat.not_lt_zero, ↓reduceIte, Except.ok.injEq, slice,
      List.drop_zero, List.take_of_length_le room] at whole
    subst whole
    dsimp only
    split
    · cases outcome : (store'.backendWrite env isNv .storeAppendWrite .set uid
          (ObjectStore.set uid (object.data ++ data))).1 with
      | error error =>
        exact .inr ⟨error, rfl, (backendWrite_view_error env store' outcome).trans same⟩
      | ok _ =>
        obtain ⟨objects, effect, view⟩ := backendWrite_view_ok env store' outcome
        rw [ObjectStore.set, Except.ok.injEq] at effect
        refine .inl ⟨rfl, ?_⟩
        rw [view, same, ← effect]
        have objectsSame : store'.objects isNv = store.objects isNv :=
          congrFun (congrArg StoreView.objects same) isNv
        rw [objectsSame]
        rfl
    · exact .inr ⟨_, rfl, same⟩

theorem storeAppendWrite_view : let result := storeAppendWrite env store isNv uid data
    (result.1 = .ok () ∧ data.length = 0 ∧ result.2.view = store.view) ∨
    (result.1 = .ok () ∧ data.length ≠ 0 ∧ ∃ object, store.objects isNv uid = some object ∧
      result.2.view = store.view.withObjects isNv
        ((store.objects isNv).put uid
          (some ⟨object.data ++ data, (object.data ++ data).length⟩))) ∨
    (∃ error, result.1 = .error error ∧ result.2.view = store.view) := by
  rw [storeAppendWrite]
  split
  · rename_i empty
    exact .inl ⟨rfl, empty, rfl⟩
  · rename_i nonempty
    refine .inr ?_
    have read := backendRead_spec store env isNv .storeAppendWrite .getInfo uid
      (ObjectStore.getInfo uid)
    generalize store.backendRead env isNv .storeAppendWrite .getInfo uid (ObjectStore.getInfo uid) =
      info at read ⊢
    obtain ⟨status, store'⟩ := info
    obtain ⟨same, value⟩ := read
    cases status with
    | error error => exact .inr ⟨error, rfl, same⟩
    | ok size =>
      have stored := value size rfl
      dsimp only
      split_ifs
      · exact .inr ⟨_, rfl, same⟩
      · exact .inr ⟨_, rfl, same⟩
      · exact .inr ⟨_, rfl, same⟩
      · cases present : store.view.objects isNv uid with
        | none => simp [ObjectStore.getInfo, present] at stored
        | some object =>
          simp only [ObjectStore.getInfo, present, Except.ok.injEq] at stored
          subst stored
          have extended := extendObject_view env store' isNv uid data
            ((object.data.length + data.length) % 2 ^ 64) object (by rw [same, present])
            (by omega)
          have objectsSame : store'.objects isNv = store.objects isNv :=
            congrFun (congrArg StoreView.objects same) isNv
          rw [same, objectsSame] at extended
          rcases extended with ⟨done, view⟩ | failed
          · exact .inl ⟨done, nonempty, object, present, view⟩
          · exact .inr failed

end

theorem writeVariableData_view (info : VariableInfo) (variable_ : AccessVariable) :
    let isNv := isNonVolatile info.attributes
    let uid := info.uid
    let result := writeVariableData env store info variable_
    (result.1 = .ok () ∧
      (hasAny variable_.attributes efiVariableAppendWrite = true → variable_.data.length ≠ 0 →
        store.objects isNv uid ≠ none) ∧
      result.2.view = store.view.withObjects isNv
        ((store.objects isNv).put uid (writtenObject variable_ (store.objects isNv uid)))) ∨
    (∃ error, result.1 = .error error ∧ result.2.view = store.view) := by
  rw [writeVariableData]
  by_cases append : hasAny variable_.attributes efiVariableAppendWrite = true
  · simp only [append, Bool.not_true, Bool.false_eq_true, ↓reduceIte, writtenObject]
    rcases storeAppendWrite_view env store (isNonVolatile info.attributes)
      info.uid variable_.data with
      ⟨done, empty, same⟩ | ⟨done, nonempty, object, present, view⟩ | failed
    · refine .inl ⟨done, fun _ nonempty => absurd empty nonempty, ?_⟩
      rw [same, if_pos empty, ObjectStore.put_present]
      exact (store.view.withObjects_self _).symm
    · refine .inl ⟨done, fun _ _ => by rw [present]; exact nofun, ?_⟩
      rw [view, if_neg nonempty, present, Option.map_some]
    · exact .inr failed
  · simp only [append, Bool.not_false, ↓reduceIte, writtenObject, Bool.false_eq_true]
    exact (storeOverwrite_view env store _ _ _).imp_left fun ⟨done, view⟩ => ⟨done, nofun, view⟩

end

/-- The data of a request can be written: it keeps to the size limit, there is an object to append
to, and no call or allocation fails. -/
structure WriteFits (env : Env) (view : StoreView) (info : VariableInfo) (request : AccessVariable) :
    Prop where
  overwrites : hasAny request.attributes efiVariableAppendWrite = false →
    request.data.length ≤ (view.settings (isNonVolatile info.attributes)).2.2 ∧
    ∀ count, env.fault (isNonVolatile info.attributes) count
      ⟨.storeOverwrite, .set, info.uid⟩ = none
  appends : hasAny request.attributes efiVariableAppendWrite = true → request.data.length ≠ 0 →
    env.malloc .rwBuf = true ∧
    (∀ count op, env.fault (isNonVolatile info.attributes) count
      ⟨.storeAppendWrite, op, info.uid⟩ = none) ∧
    ∃ object, view.objects (isNonVolatile info.attributes) info.uid = some object ∧
      object.data.length + request.data.length < 2 ^ 64 ∧
      object.data.length + request.data.length ≤ (view.settings (isNonVolatile info.attributes)).2.2

variable {env : Env} {store : UefiVariableStore} {isNv : Bool} {uid : Nat} {data : Bytes}

theorem backendWrite_set {site : CallSite}
    (works : ∀ count, env.fault isNv count ⟨site, .set, uid⟩ = none) :
    (store.backendWrite env isNv site .set uid (ObjectStore.set uid data)).1 = .ok () := by
  unfold UefiVariableStore.backendWrite FaultyStore.write
  simp only [works, ObjectStore.set]

theorem storeAppendWrite_works {object : Object} (room : env.malloc .rwBuf = true)
    (works : ∀ count op, env.fault isNv count ⟨.storeAppendWrite, op, uid⟩ = none)
    (present : store.objects isNv uid = some object)
    (small : object.data.length + data.length < 2 ^ 64)
    (fits : object.data.length + data.length ≤ (store.delegate isNv).maxVariableSize) :
    (storeAppendWrite env store isNv uid data).1 = .ok () := by
  have size : (object.data.length + data.length) % 2 ^ 64 = object.data.length + data.length :=
    Nat.mod_eq_of_lt small
  unfold storeAppendWrite
  split
  · rfl
  · have informed := store.backendRead_result env isNv .storeAppendWrite .getInfo uid
      (ObjectStore.getInfo uid) fun count => works count _
    have objects := store.backendRead_objects env isNv .storeAppendWrite .getInfo uid
      (ObjectStore.getInfo uid) isNv
    generalize store.backendRead env isNv .storeAppendWrite .getInfo uid (ObjectStore.getInfo uid) =
      result at informed objects ⊢
    obtain ⟨stored, after⟩ := result
    dsimp only at informed objects ⊢
    rw [ObjectStore.getInfo, present] at informed
    rw [informed]
    dsimp only
    rw [size, if_neg (by omega), if_neg (by omega), room, Bool.not_true, if_neg Bool.false_ne_true]
    unfold extendObject
    dsimp only
    have read := after.backendRead_result env isNv .storeAppendWrite .get uid
      (ObjectStore.get uid 0 (object.data.length + data.length)) fun count => works count _
    rw [objects, ObjectStore.get, present] at read
    simp only [Nat.not_lt_zero, ↓reduceIte, slice, List.drop_zero] at read
    rw [List.take_of_length_le (Nat.le_add_right _ _)] at read
    rw [read]
    dsimp only
    rw [if_pos (Nat.le_refl _)]
    exact backendWrite_set fun count => works count _

theorem writeVariableData_works {info : VariableInfo} {request : AccessVariable}
    (fits : WriteFits env store.view info request) :
    (writeVariableData env store info request).1 = .ok () := by
  unfold writeVariableData
  cases append : hasAny request.attributes efiVariableAppendWrite with
  | false =>
    obtain ⟨short, works⟩ := fits.overwrites append
    have limit : ¬ (store.delegate (isNonVolatile info.attributes)).maxVariableSize <
        request.data.length := Nat.not_lt.mpr short
    rw [Bool.not_false, if_pos rfl]
    unfold storeOverwrite
    rw [if_neg limit]
    exact backendWrite_set works
  | true =>
    rw [Bool.not_true, if_neg Bool.false_ne_true]
    by_cases empty : request.data.length = 0
    · unfold storeAppendWrite
      rw [if_pos empty]
    · obtain ⟨room, works, object, present, small, limit⟩ := fits.appends append empty
      exact storeAppendWrite_works room works present small limit

end SmmVariable
