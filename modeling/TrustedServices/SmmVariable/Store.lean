import TrustedServices.SmmVariable.IndexDump

/- The store over a persistent and a volatile backend. Every call carries one owner id. -/
namespace SmmVariable

open Lib

/-- The function that makes a backend call. -/
inductive CallSite
  | getActiveVariableUid
  | loadVariableIndex
  | syncVariableIndex
  | purgeOrphanIndexEntries
  | spaceUsed
  | loadVariableData
  | storeOverwrite
  | storeAppendWrite
  | removeVariableData
  deriving DecidableEq, Repr

inductive BackendOp
  | set
  | get
  | getInfo
  | remove
  | create
  | setExtended
  deriving DecidableEq, Repr

structure BackendCall where
  site : CallSite
  op : BackendOp
  uid : Nat
  deriving DecidableEq, Repr

inductive AllocSite
  | entries
  | indexSyncBuffer
  | rwBuf
  | pkVariable
  | allowedKeyStoreVariable (index : Nat)
  deriving DecidableEq, Repr

/-- What is outside the store while it serves one request: which calls to the
persistent (`true`) and volatile backend fail, which allocations succeed, the
bytes that follow a key variable in its heap block, and the crypto functions. -/
structure Env where
  fault : Bool → Fault BackendCall
  malloc : AllocSite → Bool
  heap : Nat → UInt8
  hash : Bytes → Option Bytes
  verifyPkcs7Signature : (signatureCert hash publicKeyCert : Bytes) → Bool
  fingerprint : (signatureCert : Bytes) → Option (BitVec 256)

structure Env.ErrorFree (env : Env) : Prop where
  calls : ∀ isNv count call, env.fault isNv count call = none
  allocations : ∀ site, env.malloc site = true

/-- The build-time settings. The shared memory of an RPC session holds at least
the index counter. -/
structure BuildConfig where
  authVar : Bool
  sharedMemorySize : Nat
  defaultMaxVariableSize : Nat
  sharedMemoryHoldsCounter : 4 ≤ sharedMemorySize
  variableFitsSharedMemory : defaultMaxVariableSize ≤ sharedMemorySize

/-- Nothing fails, every signature is refused, and no fingerprint stands out. -/
def Env.calm : Env where
  fault _ _ _ := none
  malloc _ := true
  heap _ := 0
  hash := some
  verifyPkcs7Signature _ _ _ := false
  fingerprint _ := some 0

theorem Env.calm_errorFree : Env.calm.ErrorFree := ⟨fun _ _ _ => rfl, fun _ => rfl⟩

/-- The default sizes of shared memory and variables. -/
def BuildConfig.standard (authVar : Bool) : BuildConfig where
  authVar := authVar
  sharedMemorySize := 4096
  defaultMaxVariableSize := 4096
  sharedMemoryHoldsCounter := by decide
  variableFitsSharedMemory := by decide

def smmVariableIndexStorageAUid : Nat := 0x8000000000000001
def smmVariableIndexStorageBUid : Nat := 0x8000000000000002

structure DelegateVariableStore where
  isNv : Bool
  totalCapacity : Nat
  maxVariableSize : Nat
  storageBackend : FaultyStore

structure UefiVariableStore extends variableIndex : VariableIndex where
  isBootService : Bool
  indexSyncBufferSize : Nat
  activeVariableIndexUid : Nat
  persistentStore : DelegateVariableStore
  volatileStore : DelegateVariableStore

namespace UefiVariableStore

section

variable (store : UefiVariableStore) (isNv : Bool)

def delegate : DelegateVariableStore :=
  if isNv then store.persistentStore else store.volatileStore

def setBackend (backend : FaultyStore) : UefiVariableStore :=
  if isNv then { store with persistentStore.storageBackend := backend }
  else { store with volatileStore.storageBackend := backend }

/-- The objects of the persistent (`true`) or volatile backend. -/
def objects : ObjectStore :=
  (store.delegate isNv).storageBackend.objects

end

section

variable (store : UefiVariableStore) (isNv : Bool) (backend : FaultyStore)

@[simp] theorem setBackend_isBootService :
    (store.setBackend isNv backend).isBootService = store.isBootService := by
  cases isNv <;> rfl

@[simp] theorem setBackend_indexSyncBufferSize :
    (store.setBackend isNv backend).indexSyncBufferSize = store.indexSyncBufferSize := by
  cases isNv <;> rfl

@[simp] theorem setBackend_activeVariableIndexUid :
    (store.setBackend isNv backend).activeVariableIndexUid = store.activeVariableIndexUid := by
  cases isNv <;> rfl

@[simp] theorem setBackend_variableIndex :
    (store.setBackend isNv backend).variableIndex = store.variableIndex := by
  cases isNv <;> rfl

end

def backendRead {α : Type} (store : UefiVariableStore) (env : Env) (isNv : Bool) (site : CallSite)
    (op : BackendOp) (uid : Nat) (query : ObjectStore → Except StorageError α) :
    Except StorageError α × UefiVariableStore :=
  let result := (store.delegate isNv).storageBackend.read (env.fault isNv) ⟨site, op, uid⟩ query
  (result.1, store.setBackend isNv result.2)

def backendWrite (store : UefiVariableStore) (env : Env) (isNv : Bool) (site : CallSite)
    (op : BackendOp) (uid : Nat) (update : ObjectStore → Except StorageError ObjectStore) :
    Except StorageError Unit × UefiVariableStore :=
  let result := (store.delegate isNv).storageBackend.write (env.fault isNv) ⟨site, op, uid⟩ update
  (result.1, store.setBackend isNv result.2)

variable {α : Type} (store : UefiVariableStore) (env : Env) (isNv : Bool) (site : CallSite)
  (op : BackendOp) (uid : Nat) (query : ObjectStore → Except StorageError α)

@[simp] theorem backendRead_variableIndex :
    (store.backendRead env isNv site op uid query).2.variableIndex = store.variableIndex := by
  simp [backendRead]

@[simp] theorem backendRead_indexSyncBufferSize :
    (store.backendRead env isNv site op uid query).2.indexSyncBufferSize =
      store.indexSyncBufferSize := by
  simp [backendRead]

@[simp] theorem backendRead_activeVariableIndexUid :
    (store.backendRead env isNv site op uid query).2.activeVariableIndexUid =
      store.activeVariableIndexUid := by
  simp [backendRead]

@[simp] theorem backendRead_objects (other : Bool) :
    (store.backendRead env isNv site op uid query).2.objects other = store.objects other := by
  cases isNv <;> cases other <;> rfl

theorem backendRead_result (works : ∀ count, env.fault isNv count ⟨site, op, uid⟩ = none) :
    (store.backendRead env isNv site op uid query).1 = query (store.objects isNv) :=
  FaultyStore.read_result _ _ _ _ (works _)

end UefiVariableStore

def selectDelegateStore (store : UefiVariableStore) (attributes : Attributes) :
    DelegateVariableStore :=
  store.delegate (isNonVolatile attributes)

section

variable (config : BuildConfig) (fault : Fault BackendCall)

/-- The write loop of `sync_variable_index`; every turn writes at least one byte,
so the fuel of one turn a byte does not run out. -/
def writeIndexChunks (uid : Nat) (buffer : Bytes) :
    Nat → Nat → Nat → FaultyStore → Except StorageError Unit × FaultyStore
  | 0, _, _, backend => (.ok (), backend)
  | fuel + 1, dataOffset, remainingDataLen, backend =>
    let dataOfThisIteration := min remainingDataLen config.sharedMemorySize
    let written := backend.write fault ⟨.syncVariableIndex, .setExtended, uid⟩
      (ObjectStore.setExtended uid dataOffset (slice buffer dataOffset dataOfThisIteration))
    match written.1 with
    | .error error => (.error error, written.2)
    | .ok () =>
      if remainingDataLen - dataOfThisIteration = 0 then (.ok (), written.2)
      else writeIndexChunks uid buffer fuel (dataOffset + config.sharedMemorySize)
        (remainingDataLen - dataOfThisIteration) written.2

/-- Replace one copy of the index: remove, create, write. -/
def writeVariableIndex (uid : Nat) (buffer : Bytes) (backend : FaultyStore) :
    Except StorageError Unit × FaultyStore :=
  let removed := backend.write fault ⟨.syncVariableIndex, .remove, uid⟩ (ObjectStore.remove uid)
  if removed.1 = .ok () ∨ removed.1 = .error .doesNotExist then
    let created := removed.2.write fault ⟨.syncVariableIndex, .create, uid⟩
      (ObjectStore.create uid buffer.length)
    match created.1 with
    | .error error => (.error error, created.2)
    | .ok () => writeIndexChunks config fault uid buffer (buffer.length + 1) 0 buffer.length created.2
  else removed

/-- The copy a sync writes: the one that is not active. -/
def nextIndexUid (activeIndexUid : Nat) : Nat :=
  if activeIndexUid = smmVariableIndexStorageAUid then smmVariableIndexStorageBUid
  else smmVariableIndexStorageAUid

/-- What `get_active_variable_uid` learns about one copy. -/
inductive IndexProbe
  | missing
  | found (counter : BitVec 32)
  | unreadable
  | erroneous
  deriving DecidableEq, Repr

/-- Read the counter of one copy. An empty copy is removed and counts as missing. -/
def probeVariableIndex (uid : Nat) (backend : FaultyStore) : IndexProbe × FaultyStore :=
  let got := backend.read fault ⟨.getActiveVariableUid, .get, uid⟩ (ObjectStore.get uid 0 4)
  match got.1 with
  | .ok [] =>
    let removed := got.2.write fault ⟨.getActiveVariableUid, .remove, uid⟩ (ObjectStore.remove uid)
    match removed.1 with
    | .ok () => (.missing, removed.2)
    | .error _ => (.erroneous, removed.2)
  | .ok data => (.found (BitVec.ofNat 32 (leNat data)), got.2)
  | .error .doesNotExist => (.missing, got.2)
  | .error _ => (.unreadable, got.2)

/-- Which of two probed copies is the latest; the counter may wrap around. -/
def chooseVariableIndex : IndexProbe → IndexProbe → Except StorageError (Nat × BitVec 32)
  | .missing, .missing => .error .doesNotExist
  | .missing, .found counterB => .ok (smmVariableIndexStorageBUid, counterB)
  | .found counterA, .missing => .ok (smmVariableIndexStorageAUid, counterA)
  | .found counterA, .found counterB =>
    if counterA + 1 = counterB then .ok (smmVariableIndexStorageBUid, counterB)
    else if counterB + 1 = counterA then .ok (smmVariableIndexStorageAUid, counterA)
    else .error .storageFailure
  | _, _ => .error .storageFailure

def getActiveVariableUid (backend : FaultyStore) :
    Except StorageError (Nat × BitVec 32) × FaultyStore :=
  let probeA := probeVariableIndex fault smmVariableIndexStorageAUid backend
  if probeA.1 = .erroneous then (.error .storageFailure, probeA.2)
  else
    let probeB := probeVariableIndex fault smmVariableIndexStorageBUid probeA.2
    (chooseVariableIndex probeA.1 probeB.1, probeB.2)

/-- The read loop of `load_variable_index`. -/
def readIndexChunks (uid : Nat) : Nat → Nat → FaultyStore → Except StorageError Bytes × FaultyStore
  | 0, _, backend => (.ok [], backend)
  | fuel + 1, dataOffset, backend =>
    let got := backend.read fault ⟨.loadVariableIndex, .get, uid⟩
      (ObjectStore.get uid dataOffset config.sharedMemorySize)
    match got.1 with
    | .error error => (.error error, got.2)
    | .ok data =>
      if data.length = config.sharedMemorySize then
        let rest := readIndexChunks uid fuel (dataOffset + data.length) got.2
        (rest.1.map (data ++ ·), rest.2)
      else (.ok data, got.2)

end

/-- An object is read in at most one turn a byte, and a last one that finds its end. -/
def loadFuel (objects : ObjectStore) (uid : Nat) : Nat :=
  match objects uid with
  | some object => object.data.length + 1
  | none => 1

section

variable (config : BuildConfig) (env : Env) (store : UefiVariableStore)

/-- The part of `load_variable_index` that reads the copy it found to be active. -/
def readVariableIndex (uid : Nat) : EfiStatus × UefiVariableStore :=
  let variableIndexInfo :=
    store.backendRead env true .loadVariableIndex .getInfo uid (ObjectStore.getInfo uid)
  let store := variableIndexInfo.2
  if store.indexSyncBufferSize < variableIndexInfo.1.toOption.getD 0 then (.loadError, store)
  else
    let loaded := readIndexChunks config (env.fault true) uid
      (loadFuel (store.objects true) uid) 0 store.persistentStore.storageBackend
    let store := store.setBackend true loaded.2
    match loaded.1 with
    | .error _ => (.loadError, store)
    | .ok data =>
      (.success, { store with variableIndex := (variableIndexRestore store.variableIndex data).1 })

def loadVariableIndex : EfiStatus × UefiVariableStore :=
  let active := getActiveVariableUid (env.fault true) store.persistentStore.storageBackend
  let store := store.setBackend true active.2
  match active.1 with
  | .error error =>
    (if error = .doesNotExist then .success else .loadError,
     { store with
       activeVariableIndexUid := smmVariableIndexStorageAUid
       variableIndex.counter := 0 })
  | .ok (uid, counter) =>
    readVariableIndex config env
      { store with activeVariableIndexUid := uid, variableIndex.counter := counter } uid

def syncVariableIndex : EfiStatus × UefiVariableStore :=
  let dump := variableIndexDump store.variableIndex store.indexSyncBufferSize
  let store := { store with variableIndex.entries := dump.entries }
  if dump.status ≠ .success then (dump.status, store)
  else if dump.anyDirty then
    let uid := nextIndexUid store.activeVariableIndexUid
    let written := writeVariableIndex config (env.fault true) uid dump.data
      store.persistentStore.storageBackend
    let store := store.setBackend true written.2
    match written.1 with
    | .error error => (psaToEfiStorageStatus (.error error : Except StorageError Unit), store)
    | .ok () =>
      (.success,
       { store with
         variableIndex := variableIndexConfirmWrite store.variableIndex
         activeVariableIndexUid := uid })
  else (.success, store)

end

/-- The loop of `purge_orphan_index_entries`: clear every non-volatile variable
whose object the backend does not report. -/
def purgeLoop (fault : Fault BackendCall) :
    List VariableEntry → FaultyStore → List VariableEntry × Bool × FaultyStore
  | [], backend => ([], false, backend)
  | entry :: rest, backend =>
    if entry.isDumped then
      let uid := entry.uid
      let got := backend.read fault ⟨.purgeOrphanIndexEntries, .getInfo, uid⟩
        (ObjectStore.getInfo uid)
      let next := purgeLoop fault rest got.2
      match got.1 with
      | .ok _ => (entry :: next.1, next.2)
      | .error _ => (entry.withoutVariable :: next.1, true, next.2.2)
    else
      let next := purgeLoop fault rest backend
      (entry :: next.1, next.2)

def purgeOrphanIndexEntries (config : BuildConfig) (env : Env) (store : UefiVariableStore) :
    UefiVariableStore :=
  let purged := purgeLoop (env.fault true) store.entries
    store.persistentStore.storageBackend
  let store := { store with variableIndex.entries := purged.1 }.setBackend true purged.2.2
  if purged.2.1 then (syncVariableIndex config env store).2 else store

def initialStore (config : BuildConfig) (maxVariables : Nat)
    (persistentStore volatileStore : FaultyStore) : UefiVariableStore :=
  let capacity := config.defaultMaxVariableSize * maxVariables
  { isBootService := true
    indexSyncBufferSize := variableIndexMaxDumpSize (variableIndexInit maxVariables)
    activeVariableIndexUid := 0
    variableIndex := variableIndexInit maxVariables
    persistentStore := ⟨true, capacity, config.defaultMaxVariableSize, persistentStore⟩
    volatileStore := ⟨false, capacity, config.defaultMaxVariableSize, volatileStore⟩ }

def uefiVariableStoreInit (config : BuildConfig) (env : Env) (maxVariables : Nat)
    (persistentStore volatileStore : FaultyStore) : EfiStatus × UefiVariableStore :=
  let store := initialStore config maxVariables persistentStore volatileStore
  if !env.malloc .entries then (.outOfResources, store)
  else if !env.malloc .indexSyncBuffer then (.outOfResources, store)
  else
    let loaded := loadVariableIndex config env store
    if loaded.1 = .success then (.success, purgeOrphanIndexEntries config env loaded.2)
    else loaded

def uefiVariableStoreSetStorageLimits (store : UefiVariableStore) (attributes : Attributes)
    (totalCapacity maxVariableSize : Nat) : UefiVariableStore :=
  if isNonVolatile attributes then
    { store with
      persistentStore.totalCapacity := totalCapacity
      persistentStore.maxVariableSize := maxVariableSize }
  else
    { store with
      volatileStore.totalCapacity := totalCapacity
      volatileStore.maxVariableSize := maxVariableSize }

/-- The loop of `space_used`. -/
def spaceUsedLoop (fault : Fault BackendCall) (attributes : Attributes) :
    List VariableEntry → FaultyStore → Nat × FaultyStore
  | [], backend => (0, backend)
  | entry :: rest, backend =>
    if entry.inUse && entry.isVariableSet &&
        isNonVolatile entry.attributes == isNonVolatile attributes then
      let uid := entry.uid
      let got := backend.read fault ⟨.spaceUsed, .getInfo, uid⟩ (ObjectStore.getInfo uid)
      let next := spaceUsedLoop fault attributes rest got.2
      (got.1.toOption.getD 0 + next.1, next.2)
    else spaceUsedLoop fault attributes rest backend

structure QueryVariableInfo where
  maximumVariableStorageSize : Nat
  remainingVariableStorageSize : Nat
  maximumVariableSize : Nat
  deriving DecidableEq, Repr

def uefiVariableStoreQueryVariableInfo (env : Env) (store : UefiVariableStore)
    (attributes : Attributes) : QueryVariableInfo × UefiVariableStore :=
  let isNv := isNonVolatile attributes
  let delegateStore := selectDelegateStore store attributes
  let used := spaceUsedLoop (env.fault isNv) attributes store.entries
    delegateStore.storageBackend
  (⟨delegateStore.totalCapacity, delegateStore.totalCapacity - used.1,
     delegateStore.maxVariableSize⟩,
   store.setBackend isNv used.2)

def checkAccessPermitted (store : UefiVariableStore) (info : VariableInfo) : EfiStatus :=
  if info.isVariableSet ∧ hasAny info.attributes
      (efiVariableBootserviceAccess ||| efiVariableRuntimeAccess) then
    if store.isBootService then
      if hasAny info.attributes efiVariableBootserviceAccess then .success else .notFound
    else
      if hasAny info.attributes efiVariableRuntimeAccess then .success else .notFound
  else .success

/-- What `load_variable_data` leaves in the variable: its status, `DataSize` and
the bytes it read. -/
structure LoadedData where
  status : Except StorageError Unit
  dataSize : Nat
  data : Bytes

def loadVariableData (env : Env) (store : UefiVariableStore) (info : VariableInfo)
    (dataSize maxDataLen : Nat) : LoadedData × UefiVariableStore :=
  let isNv := isNonVolatile info.attributes
  let uid := info.uid
  let storageInfo := store.backendRead env isNv .loadVariableData .getInfo uid
    (ObjectStore.getInfo uid)
  match storageInfo.1 with
  | .error error => (⟨.error error, dataSize, []⟩, storageInfo.2)
  | .ok size =>
    if size ≤ min dataSize maxDataLen then
      let got := storageInfo.2.backendRead env isNv .loadVariableData .get uid
        (ObjectStore.get uid 0 size)
      match got.1 with
      | .error error => (⟨.error error, 0, []⟩, got.2)
      | .ok data => (⟨.ok (), data.length, data⟩, got.2)
    else (⟨.error .bufferTooSmall, size, []⟩, storageInfo.2)

def smmVariableCommunicateAccessVariableNameOffset : Nat := 36

/-- The answer to GetVariable. `attributes` and `totalLength` are `none` where
the call leaves them as the caller had them. -/
structure GetVariableResult where
  status : EfiStatus
  attributes : Option Attributes
  dataSize : Nat
  data : Bytes
  totalLength : Option Nat
  deriving DecidableEq, Repr

def uefiVariableStoreGetVariable (env : Env) (store : UefiVariableStore) (guid : EfiGuid)
    (name : Bytes) (dataSize maxDataLen : Nat) : GetVariableResult × UefiVariableStore :=
  if checkNameTerminator name ≠ .success then
    (⟨checkNameTerminator name, none, dataSize, [], none⟩, store)
  else
    match variableIndexFind store.variableIndex guid name with
    | none => (⟨.notFound, none, dataSize, [], some 0⟩, store)
    | some pos =>
      let info := store.info pos
      if info.isVariableSet then
        if checkAccessPermitted store info = .success then
          let loaded := loadVariableData env store info dataSize maxDataLen
          let status := psaToEfiStorageStatus loaded.1.status
          let nameEnd := smmVariableCommunicateAccessVariableNameOffset + name.length
          (⟨status, some info.attributes, loaded.1.dataSize, loaded.1.data,
             some (if status = .success then nameEnd + loaded.1.dataSize
               else if status = .bufferTooSmall then nameEnd else 0)⟩,
           loaded.2)
        else (⟨checkAccessPermitted store info, none, dataSize, [], some 0⟩, store)
      else (⟨.notFound, none, dataSize, [], some 0⟩, store)

def smmVariableCommunicateGetNextVariableNameNameOffset : Nat := 24

/-- The `GetNextVariableName` parameter in and out: `name` is the whole name
buffer, `nameSize` its size on entry and the size of the name on return. -/
structure GetNextResult where
  status : EfiStatus
  guid : EfiGuid
  nameSize : Nat
  name : Bytes
  totalLength : Option Nat
  deriving DecidableEq, Repr

/-- The size of the name in the buffer, with its terminator if there is one. -/
def usedNameSize (buffer : Bytes) : Nat :=
  match (List.range (buffer.length / 2)).find? fun index => int16At buffer index == 0 with
  | some index => 2 * (index + 1)
  | none => buffer.length

/-- The search loop of `get_next_variable_name`. Every turn moves the cursor to
a later entry, or starts over at an entry with an empty name and then never
ends; `none` is the endless loop. -/
def getNextLoop (store : UefiVariableStore) : Nat → EfiGuid → Nat → Bytes → Option GetNextResult
  | 0, _, _, _ => none
  | fuel + 1, guid, nameSize, buffer =>
    match variableIndexFindNext store.variableIndex guid (buffer.take nameSize) with
    | (.success, some pos) =>
      let info := store.info pos
      let metadata := info.metadata
      if metadata.nameSize ≤ buffer.length then
        let copied := metadata.name ++ buffer.drop metadata.nameSize
        if checkAccessPermitted store info = .success then
          some ⟨.success, metadata.guid, metadata.nameSize, copied,
            some (smmVariableCommunicateGetNextVariableNameNameOffset + metadata.nameSize)⟩
        else getNextLoop store fuel metadata.guid metadata.nameSize copied
      else
        some ⟨.bufferTooSmall, .zero, metadata.nameSize, List.replicate buffer.length 0,
          some smmVariableCommunicateGetNextVariableNameNameOffset⟩
    | (status, _) =>
      some ⟨if status = .success then .notFound else status, .zero, 0,
        List.replicate buffer.length 0,
        some smmVariableCommunicateGetNextVariableNameNameOffset⟩

def uefiVariableStoreGetNextVariableName (store : UefiVariableStore) (guid : EfiGuid)
    (buffer : Bytes) : Option GetNextResult :=
  let nameSize := usedNameSize buffer
  if checkNameTerminator (buffer.take nameSize) ≠ .success then
    some ⟨checkNameTerminator (buffer.take nameSize), guid, nameSize, buffer, none⟩
  else getNextLoop store (store.maxVariables + 1) guid nameSize buffer

def uefiVariableStoreExitBootService (store : UefiVariableStore) : UefiVariableStore :=
  { store with isBootService := false }

end SmmVariable
