import TrustedServices.SmmVariable.WellFormed

/- What GetVariable answers. -/
namespace SmmVariable

open Lib

/-- Whether a set variable with these attributes may be seen in the current phase. -/
def accessible (isBootService : Bool) (attributes : Attributes) : Bool :=
  !hasAny attributes (efiVariableBootserviceAccess ||| efiVariableRuntimeAccess) ||
    hasAny attributes
      (if isBootService then efiVariableBootserviceAccess else efiVariableRuntimeAccess)

theorem checkAccessPermitted_eq (store : UefiVariableStore) {info : VariableInfo}
    (isSet : info.isVariableSet = true) :
    checkAccessPermitted store info =
      if accessible store.isBootService info.attributes then .success else .notFound := by
  unfold checkAccessPermitted accessible
  by_cases controlled : hasAny info.attributes
      (efiVariableBootserviceAccess ||| efiVariableRuntimeAccess) = true
  · rw [if_pos ⟨isSet, controlled⟩, controlled]
    cases store.isBootService <;> simp
  · simp [controlled]

/-- A variable that is set: its attributes, and its data if there is an object for it. -/
structure StoredVariable where
  attributes : Attributes
  data : Option Bytes
  deriving DecidableEq, Repr

def VariableEntry.key (entry : VariableEntry) : EfiGuid × Bytes :=
  (entry.guid, entry.name)

def StoreView.contents (view : StoreView) (info : VariableInfo) : StoredVariable where
  attributes := info.attributes
  data := (view.objects (isNonVolatile info.attributes) info.uid).map Object.data

def StoreView.lookup (view : StoreView) (guid : EfiGuid) (name : Bytes) : Option StoredVariable :=
  (findVariable view.variableIndex guid name).bind fun pos =>
    if (view.entry pos).isVariableSet then
      some (view.contents (view.entry pos).info)
    else none

def readAnswer (isBootService : Bool) (nameSize dataSize maxDataLen : Nat) :
    Option StoredVariable → GetVariableResult
  | none => ⟨.notFound, none, dataSize, [], some 0⟩
  | some ⟨attributes, data⟩ =>
    if accessible isBootService attributes then
      match data with
      | none => ⟨.notFound, some attributes, dataSize, [], some 0⟩
      | some data =>
        if data.length ≤ min dataSize maxDataLen then
          ⟨.success, some attributes, data.length, data,
            some (smmVariableCommunicateAccessVariableNameOffset + nameSize + data.length)⟩
        else
          ⟨.bufferTooSmall, some attributes, data.length, [],
            some (smmVariableCommunicateAccessVariableNameOffset + nameSize)⟩
    else ⟨.notFound, none, dataSize, [], some 0⟩

/-- The calls that read a variable's data do not fail. -/
def Env.Reads (env : Env) : Prop :=
  ∀ isNv count op uid, env.fault isNv count ⟨.loadVariableData, op, uid⟩ = none

theorem Env.reads_of_works {env : Env}
    (works : ∀ isNv count call, env.fault isNv count call = none) : env.Reads :=
  fun isNv count _ _ => works isNv count _

variable {env : Env} (reads : env.Reads) (store : UefiVariableStore)

include reads in
theorem loadVariableData_answer (info : VariableInfo) (dataSize maxDataLen : Nat) :
    (loadVariableData env store info dataSize maxDataLen).1 =
      match store.objects (isNonVolatile info.attributes) info.uid with
      | none => ⟨.error .doesNotExist, dataSize, []⟩
      | some object =>
        if object.data.length ≤ min dataSize maxDataLen then
          ⟨.ok (), object.data.length, object.data⟩
        else ⟨.error .bufferTooSmall, object.data.length, []⟩ := by
  have informed := store.backendRead_result env (isNonVolatile info.attributes)
    .loadVariableData .getInfo info.uid (ObjectStore.getInfo info.uid)
    fun count => reads _ count _ _
  have objects := store.backendRead_objects env (isNonVolatile info.attributes)
    .loadVariableData .getInfo info.uid (ObjectStore.getInfo info.uid)
    (isNonVolatile info.attributes)
  rw [loadVariableData]
  generalize store.backendRead env (isNonVolatile info.attributes) .loadVariableData
    .getInfo info.uid (ObjectStore.getInfo info.uid) = result
    at informed objects ⊢
  obtain ⟨size, after⟩ := result
  rw [informed, ObjectStore.getInfo]
  cases stored : store.objects (isNonVolatile info.attributes) info.uid with
  | none => rfl
  | some object =>
    have read := after.backendRead_result env (isNonVolatile info.attributes)
      .loadVariableData .get info.uid
      (ObjectStore.get info.uid 0 object.data.length) fun count => reads _ count _ _
    rw [objects, ObjectStore.get, stored] at read
    simp only [Nat.not_lt_zero, ↓reduceIte, slice, List.drop_zero, List.take_length] at read
    dsimp only
    split
    · rw [read]
    · rfl

include reads in
/-- GetVariable answers from the variable of the name alone. -/
theorem getVariable_answer (guid : EfiGuid) (name : Bytes) (dataSize maxDataLen : Nat) :
    (uefiVariableStoreGetVariable env store guid name dataSize maxDataLen).1 =
      if checkNameTerminator name ≠ .success then
        ⟨checkNameTerminator name, none, dataSize, [], none⟩
      else readAnswer store.isBootService name.length dataSize maxDataLen
        (store.view.lookup guid name) := by
  unfold uefiVariableStoreGetVariable
  split
  · rfl
  · unfold variableIndexFind StoreView.lookup
    show _ = readAnswer store.isBootService name.length dataSize maxDataLen
      ((findVariable store.variableIndex guid name).bind _)
    cases found : findVariable store.variableIndex guid name with
    | none => rfl
    | some pos =>
      have loaded := loadVariableData_answer reads store (store.entry pos).info dataSize maxDataLen
      have view : store.view.variableIndex = store.variableIndex := rfl
      simp only [Option.bind_some, view]
      by_cases isSet : (store.entry pos).isVariableSet = true
      · have permitted := checkAccessPermitted_eq store isSet
        rw [if_pos isSet, if_pos isSet, permitted]
        simp only [readAnswer, StoreView.contents, loaded]
        have objects : store.view.objects = store.objects := rfl
        rw [objects]
        by_cases seen : accessible store.isBootService (store.entry pos).attributes = true
        · cases store.objects (isNonVolatile (store.entry pos).attributes)
              (store.entry pos).uid with
          | none => simp [seen, psaToEfiStorageStatus]
          | some object =>
            by_cases fits : object.data.length ≤ min dataSize maxDataLen
            · simp [seen, fits, psaToEfiStorageStatus]
            · simp [seen, fits, psaToEfiStorageStatus]
        · simp [seen]
      · rw [if_neg isSet, if_neg isSet]
        rfl

end SmmVariable
