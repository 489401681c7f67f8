import TrustedServices.SmmVariable.Auth

/- SetVariable with its create, overwrite, append and delete paths. -/
namespace SmmVariable

open Lib

def checkAccessPermittedOnSet (store : UefiVariableStore) (info : VariableInfo) (dataSize : Nat) :
    EfiStatus :=
  if checkAccessPermitted store info = .success ∧ info.isConstraintsSet then
    variableCheckerCheckOnSet info.checkConstraints dataSize
  else checkAccessPermitted store info

section

variable (env : Env) (store : UefiVariableStore) (isNv : Bool) (uid : Nat) (data : Bytes)

def storeOverwrite : Except StorageError Unit × UefiVariableStore :=
  if (store.delegate isNv).maxVariableSize < data.length then (.error .invalidArgument, store)
  else store.backendWrite env isNv .storeOverwrite .set uid (ObjectStore.set uid data)

/-- The read, extend and write back of `store_append_write`. -/
def extendObject (newSize : Nat) : Except StorageError Unit × UefiVariableStore :=
  let got := store.backendRead env isNv .storeAppendWrite .get uid (ObjectStore.get uid 0 newSize)
  match got.1 with
  | .error error => (.error error, got.2)
  | .ok old =>
    if old.length + data.length ≤ newSize then
      got.2.backendWrite env isNv .storeAppendWrite .set uid (ObjectStore.set uid (old ++ data))
    else (.error .storageFailure, got.2)

def storeAppendWrite : Except StorageError Unit × UefiVariableStore :=
  if data.length = 0 then (.ok (), store)
  else
    let storageInfo := store.backendRead env isNv .storeAppendWrite .getInfo uid
      (ObjectStore.getInfo uid)
    match storageInfo.1 with
    | .error error => (.error error, storageInfo.2)
    | .ok size =>
      let newSize := (size + data.length) % 2 ^ 64
      if newSize < size then (.error .invalidArgument, storageInfo.2)
      else if (store.delegate isNv).maxVariableSize < newSize then
        (.error .invalidArgument, storageInfo.2)
      else if !env.malloc .rwBuf then (.error .insufficientMemory, storageInfo.2)
      else extendObject env storageInfo.2 isNv uid data newSize

end

def writeVariableData (env : Env) (store : UefiVariableStore) (info : VariableInfo)
    (variable_ : AccessVariable) : Except StorageError Unit × UefiVariableStore :=
  let isNv := isNonVolatile info.attributes
  if !hasAny variable_.attributes efiVariableAppendWrite then
    storeOverwrite env store isNv info.uid variable_.data
  else storeAppendWrite env store isNv info.uid variable_.data

def storeVariableData (config : BuildConfig) (env : Env) (store : UefiVariableStore)
    (info : VariableInfo) (variable_ : AccessVariable) : EfiStatus × UefiVariableStore :=
  let isNv := isNonVolatile info.attributes
  let written := writeVariableData env store info variable_
  (psaToEfiStorageStatus written.1,
   match written.1 with
   | .ok () => written.2
   | .error _ =>
     if (written.2.delegate isNv).isNv then purgeOrphanIndexEntries config env written.2
     else written.2)

/-- The status is left to the caller, which ignores it. -/
def removeVariableData (env : Env) (store : UefiVariableStore) (info : VariableInfo) :
    Except StorageError Unit × UefiVariableStore :=
  if info.isVariableSet then
    store.backendWrite env (isNonVolatile info.attributes) .removeVariableData .remove
      info.uid (ObjectStore.remove info.uid)
  else (.ok (), store)

/-- The test for a request that deletes an existing variable. -/
def isRemoveOperation (variable_ : AccessVariable) : Bool :=
  !hasAny variable_.attributes (efiVariableBootserviceAccess ||| efiVariableRuntimeAccess) ||
    (!hasAny variable_.attributes
        (efiVariableAppendWrite ||| efiVariableEnhancedAuthenticatedAccess) &&
      variable_.data.length == 0)

/-- The end of `set_variable`, reached by every path that does not return early. -/
def storeAndFinish (config : BuildConfig) (env : Env) (store : UefiVariableStore) (pos : Nat)
    (shouldSyncIndex : Bool) (timestamp : EfiTime) (fingerprint : BitVec 256)
    (variable_ : AccessVariable) : EfiStatus × UefiVariableStore :=
  let synced := if shouldSyncIndex then syncVariableIndex config env store else (.success, store)
  let stored :=
    if (synced.2.info pos).isVariableSet ∧ synced.1 = .success then
      let store :=
        { synced.2 with
          variableIndex := synced.2.variableIndex.modify pos fun entry =>
            entry.withAuthentication timestamp fingerprint }
      storeVariableData config env store (store.info pos) variable_
    else synced
  (stored.1,
   { stored.2 with
     variableIndex := variableIndexRemoveUnusedEntry stored.2.variableIndex pos })

/-- Authenticate a request if it has to be; otherwise keep what is recorded. -/
def authenticateIfNeeded (env : Env) (store : UefiVariableStore) (info : VariableInfo)
    (needed newVariable : Bool) (variable_ : AccessVariable) :
    Except EfiStatus Authenticated × UefiVariableStore :=
  if needed then
    authenticateVariable env store info.timestamp info.fingerprint newVariable variable_
  else
    (.ok ⟨info.timestamp, info.fingerprint, variable_.data⟩, store)

section

variable (config : BuildConfig) (env : Env) (store : UefiVariableStore)

section

variable (pos : Nat) (variable_ : AccessVariable)

def setExistingVariable : EfiStatus × UefiVariableStore :=
  let info := store.info pos
  let authenticated := authenticateIfNeeded env store info
    (config.authVar && hasAny info.attributes efiVariableTimeBasedAuthenticatedWriteAccess)
    false variable_
  let store := authenticated.2
  match authenticated.1 with
  | .error status => (status, store)
  | .ok ⟨timestamp, fingerprint, data⟩ =>
    let variable_ := { variable_ with data := data }
    if isRemoveOperation variable_ then
      let store := (removeVariableData env store info).2
      storeAndFinish config env
        { store with variableIndex := variableIndexClearVariable store.variableIndex pos } pos
        (isNonVolatile variable_.attributes) timestamp fingerprint variable_
    else if info.attributes ||| efiVariableAppendWrite ≠
        variable_.attributes ||| efiVariableAppendWrite then (.invalidParameter, store)
    else if variable_.attributes &&& ~~~efiVariableAppendWrite ≠ info.attributes then
      (.invalidParameter, store)
    else storeAndFinish config env store pos false timestamp fingerprint variable_

def setNewVariable : EfiStatus × UefiVariableStore :=
  let authenticated := authenticateIfNeeded env store (store.info pos)
    (config.authVar && hasAny variable_.attributes efiVariableTimeBasedAuthenticatedWriteAccess)
    true variable_
  let store := authenticated.2
  match authenticated.1 with
  | .error status => (status, store)
  | .ok ⟨timestamp, fingerprint, data⟩ =>
    let variable_ := { variable_ with data := data }
    if variable_.data.length ≠ 0 then
      storeAndFinish config env
        { store with
          variableIndex :=
            variableIndexSetVariable store.variableIndex pos variable_.attributes } pos
        (isNonVolatile variable_.attributes) timestamp fingerprint variable_
    else (.notFound, store)

/-- SetVariable once the request has an index entry. -/
def setVariableAt : EfiStatus × UefiVariableStore :=
  let info := store.info pos
  let permitted := checkAccessPermittedOnSet store info variable_.data.length
  if permitted = .success then
    if info.isVariableSet then setExistingVariable config env store pos variable_
    else setNewVariable config env store pos variable_
  else
    (permitted,
     { store with variableIndex := variableIndexRemoveUnusedEntry store.variableIndex pos })

end

def uefiVariableStoreSetVariable (variable_ : AccessVariable) : EfiStatus × UefiVariableStore :=
  if checkNameTerminator variable_.name ≠ .success then (checkNameTerminator variable_.name, store)
  else if checkCapabilities variable_.attributes ≠ .success then
    (checkCapabilities variable_.attributes, store)
  else
    match variableIndexFind store.variableIndex variable_.guid variable_.name with
    | some pos => setVariableAt config env store pos variable_
    | none =>
      if variable_.data.length ≠ 0 then
        let added := variableIndexAddEntry store.variableIndex variable_.guid variable_.name
        let store := { store with variableIndex := added.1 }
        match added.2 with
        | some pos => setVariableAt config env store pos variable_
        | none => (.outOfResources, store)
      else (.notFound, store)

def setVarCheckPropertyAt (pos : Nat)
    (property : VarCheckVariableProperty) : EfiStatus × UefiVariableStore :=
  let result :=
    match variableCheckerSetConstraints property with
    | .error status => (status, store)
    | .ok constraints =>
      syncVariableIndex config env
        { store with
          variableIndex := variableIndexSetConstraints store.variableIndex pos constraints }
  (result.1,
   { result.2 with variableIndex := variableIndexRemoveUnusedEntry result.2.variableIndex pos })

def uefiVariableStoreSetVarCheckProperty (guid : EfiGuid) (name : Bytes)
    (property : VarCheckVariableProperty) : EfiStatus × UefiVariableStore :=
  if checkNameTerminator name ≠ .success then (checkNameTerminator name, store)
  else
    match variableIndexFind store.variableIndex guid name with
    | some pos => setVarCheckPropertyAt config env store pos property
    | none =>
      let added := variableIndexAddEntry store.variableIndex guid name
      let store := { store with variableIndex := added.1 }
      match added.2 with
      | some pos => setVarCheckPropertyAt config env store pos property
      | none => (.outOfResources, store)

end

end SmmVariable
