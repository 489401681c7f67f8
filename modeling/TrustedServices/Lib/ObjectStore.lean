import TrustedServices.Lib.Bytes

set_option autoImplicit false

/- A store of byte objects, and the same store behind calls that may fail. -/
namespace Lib

inductive StorageError
  | notPermitted
  | invalidArgument
  | badState
  | bufferTooSmall
  | doesNotExist
  | alreadyExists
  | insufficientMemory
  | insufficientStorage
  | storageFailure
  | hardwareFailure
  | other
  deriving DecidableEq, Repr

structure Object where
  data : Bytes
  capacity : Nat
  deriving DecidableEq, Repr

/-- Replace the bytes at `offset`, extending with zeros up to it if needed. -/
def overwrite (data : Bytes) (offset : Nat) (bytes : Bytes) : Bytes :=
  (data ++ List.replicate (offset - data.length) 0).take offset ++ bytes ++
    data.drop (offset + bytes.length)

theorem overwrite_end (data bytes : Bytes) : overwrite data data.length bytes = data ++ bytes := by
  simp [overwrite]

abbrev ObjectStore := Nat → Option Object

namespace ObjectStore

def empty : ObjectStore := fun _ => none

section

variable (store : ObjectStore)

def insert (uid : Nat) (object : Object) : ObjectStore :=
  fun other => if other = uid then some object else store other

def erase (uid : Nat) : ObjectStore :=
  fun other => if other = uid then none else store other

@[simp] theorem insert_self (uid : Nat) (object : Object) :
    store.insert uid object uid = some object := by
  simp [insert]

@[simp] theorem insert_other (uid other : Nat) (object : Object)
    (apart : other ≠ uid) : store.insert uid object other = store other := by
  simp [insert, apart]

@[simp] theorem erase_self (uid : Nat) : store.erase uid uid = none := by
  simp [erase]

@[simp] theorem erase_other (uid other : Nat) (apart : other ≠ uid) :
    store.erase uid other = store other := by
  simp [erase, apart]

end

theorem insert_present {store : ObjectStore} {uid : Nat} {object : Object}
    (present : store uid = some object) : store.insert uid object = store := by
  funext other
  by_cases same : other = uid
  · rw [same, insert_self, present]
  · rw [insert_other _ _ _ _ same]

@[simp] theorem insert_insert (store : ObjectStore) (uid : Nat) (first second : Object) :
    (store.insert uid first).insert uid second = store.insert uid second := by
  funext other
  by_cases same : other = uid
  · rw [same, insert_self, insert_self]
  · rw [insert_other _ _ _ _ same, insert_other _ _ _ _ same, insert_other _ _ _ _ same]

@[simp] theorem insert_erase (store : ObjectStore) (uid : Nat) (object : Object) :
    (store.erase uid).insert uid object = store.insert uid object := by
  funext other
  by_cases same : other = uid
  · rw [same, insert_self, insert_self]
  · rw [insert_other _ _ _ _ same, insert_other _ _ _ _ same, erase_other _ _ _ same]

theorem erase_absent {store : ObjectStore} {uid : Nat} (absent : store uid = none) :
    store.erase uid = store := by
  funext other
  by_cases same : other = uid
  · rw [same, erase_self, absent]
  · rw [erase_other _ _ _ same]

section

variable (store : ObjectStore)

/-- Replace what is stored under one number. -/
def put (uid : Nat) (value : Option Object) : ObjectStore :=
  fun other => if other = uid then value else store other

@[simp] theorem put_self (uid : Nat) (value : Option Object) : store.put uid value uid = value := by
  simp [put]

@[simp] theorem put_other (uid other : Nat) (value : Option Object)
    (apart : other ≠ uid) : store.put uid value other = store other := by
  simp [put, apart]

@[simp] theorem put_present (uid : Nat) : store.put uid (store uid) = store := by
  funext other
  by_cases same : other = uid
  · rw [same, put_self]
  · rw [put_other _ _ _ _ same]

end

def set (uid : Nat) (data : Bytes) (store : ObjectStore) : Except StorageError ObjectStore :=
  .ok (store.insert uid ⟨data, data.length⟩)

/-- Up to `size` bytes from `offset` on. -/
def get (uid offset size : Nat) (store : ObjectStore) : Except StorageError Bytes :=
  match store uid with
  | none => .error .doesNotExist
  | some object =>
    if object.data.length < offset then .error .invalidArgument
    else .ok (slice object.data offset size)

def getInfo (uid : Nat) (store : ObjectStore) : Except StorageError Nat :=
  match store uid with
  | none => .error .doesNotExist
  | some object => .ok object.data.length

def remove (uid : Nat) (store : ObjectStore) : Except StorageError ObjectStore :=
  match store uid with
  | none => .error .doesNotExist
  | some _ => .ok (store.erase uid)

def create (uid capacity : Nat) (store : ObjectStore) : Except StorageError ObjectStore :=
  match store uid with
  | some _ => .error .alreadyExists
  | none => .ok (store.insert uid ⟨[], capacity⟩)

/-- Write part of an existing object, within the reserved capacity. -/
def setExtended (uid offset : Nat) (bytes : Bytes) (store : ObjectStore) :
    Except StorageError ObjectStore :=
  match store uid with
  | none => .error .doesNotExist
  | some object =>
    if object.capacity < offset + bytes.length then .error .invalidArgument
    else .ok (store.insert uid { object with data := overwrite object.data offset bytes })

end ObjectStore

/-- Which calls fail: the number of the call, and what it asks for. -/
abbrev Fault (Call : Type) := Nat → Call → Option StorageError

/-- The power fails after `limit` calls: no later call has an effect. -/
def powerFailure {Call : Type} (limit : Nat) : Fault Call :=
  fun count _ => if count < limit then none else some .hardwareFailure

/-- A store that counts the calls made to it. -/
structure FaultyStore where
  objects : ObjectStore
  calls : Nat

namespace FaultyStore

/-- A store without objects that has not been called yet. -/
def fresh : FaultyStore := ⟨ObjectStore.empty, 0⟩

variable {Call α : Type}

def read (fault : Fault Call) (call : Call) (query : ObjectStore → Except StorageError α)
    (store : FaultyStore) : Except StorageError α × FaultyStore :=
  (match fault store.calls call with
    | some error => .error error
    | none => query store.objects,
   { store with calls := store.calls + 1 })

def write (fault : Fault Call) (call : Call)
    (update : ObjectStore → Except StorageError ObjectStore) (store : FaultyStore) :
    Except StorageError Unit × FaultyStore :=
  match fault store.calls call with
  | some error => (.error error, { store with calls := store.calls + 1 })
  | none =>
    match update store.objects with
    | .error error => (.error error, { store with calls := store.calls + 1 })
    | .ok objects => (.ok (), ⟨objects, store.calls + 1⟩)

section

variable (fault : Fault Call) (call : Call) (query : ObjectStore → Except StorageError α)
  (store : FaultyStore)

include fault call query store

@[simp] theorem read_objects : (read fault call query store).2.objects = store.objects := rfl

theorem read_result (works : fault store.calls call = none) :
    (read fault call query store).1 = query store.objects := by
  simp only [read, works]

end

variable {fault : Fault Call}

/-- A read either reports the stored value, or an injected error. -/
theorem read_ok {call : Call}
    {query : ObjectStore → Except StorageError α} {store : FaultyStore} {value : α}
    (success : (read fault call query store).1 = .ok value) :
    fault store.calls call = none ∧ query store.objects = .ok value := by
  simp only [read] at success
  split at success
  · cases success
  · rename_i works
    exact ⟨works, success⟩

@[simp] theorem write_calls (fault : Fault Call) (call : Call)
    (update : ObjectStore → Except StorageError ObjectStore) (store : FaultyStore) :
    (write fault call update store).2.calls = store.calls + 1 := by
  simp only [write]
  split
  · rfl
  · split <;> rfl

section

variable (fault : Fault Call) (call : Call)

/-- A write takes effect, or it fails, by a fault or by itself, and changes nothing. -/
theorem write_cases (update : ObjectStore → Except StorageError ObjectStore) (store : FaultyStore) :
    (∃ objects, fault store.calls call = none ∧ update store.objects = .ok objects ∧
      write fault call update store = (.ok (), ⟨objects, store.calls + 1⟩)) ∨
    ∃ error, (fault store.calls call = some error ∨ update store.objects = .error error) ∧
      write fault call update store = (.error error, ⟨store.objects, store.calls + 1⟩) := by
  unfold write
  cases fault store.calls call with
  | some error => exact .inr ⟨error, .inl rfl, rfl⟩
  | none =>
    cases update store.objects with
    | error error => exact .inr ⟨error, .inr rfl, rfl⟩
    | ok objects => exact .inl ⟨objects, rfl, rfl, rfl⟩

theorem write_works (update : ObjectStore → Except StorageError ObjectStore) (store : FaultyStore)
    (objects : ObjectStore) (works : fault store.calls call = none)
    (result : update store.objects = .ok objects) :
    write fault call update store = (.ok (), ⟨objects, store.calls + 1⟩) := by
  simp only [write, works, result]

theorem write_remove (uid : Nat) (store : FaultyStore) :
    let result := write fault call (ObjectStore.remove uid) store
    (result.1 = .ok () ∧ result.2.objects = store.objects.erase uid) ∨
    (∃ error, result.1 = .error error ∧ result.2.objects = store.objects ∧
      (fault store.calls call = some error ∨ error = .doesNotExist ∧ store.objects uid = none)) := by
  obtain ⟨objects, _, effect, result⟩ | ⟨error, source, result⟩ :=
    write_cases fault call (ObjectStore.remove uid) store
  all_goals
    dsimp only
    rw [result]
  · rw [ObjectStore.remove] at effect
    split at effect
    · cases effect
    · exact .inl ⟨rfl, (Except.ok.inj effect).symm⟩
  · refine .inr ⟨error, rfl, rfl, source.imp_right fun refused => ?_⟩
    rw [ObjectStore.remove] at refused
    split at refused
    · exact ⟨(Except.error.inj refused).symm, by assumption⟩
    · cases refused

theorem write_create (uid capacity : Nat) (store : FaultyStore) :
    let result := write fault call (ObjectStore.create uid capacity) store
    (result.1 = .ok () ∧ result.2.objects = store.objects.insert uid ⟨[], capacity⟩) ∨
    (∃ error, result.1 = .error error ∧ result.2.objects = store.objects ∧
      (fault store.calls call = some error ∨ store.objects uid ≠ none)) := by
  obtain ⟨objects, _, effect, result⟩ | ⟨error, source, result⟩ :=
    write_cases fault call (ObjectStore.create uid capacity) store
  all_goals
    dsimp only
    rw [result]
  · rw [ObjectStore.create] at effect
    split at effect
    · cases effect
    · exact .inl ⟨rfl, (Except.ok.inj effect).symm⟩
  · refine .inr ⟨error, rfl, rfl, source.imp_right fun refused => ?_⟩
    rw [ObjectStore.create] at refused
    split at refused
    · rename_i object present
      rw [present]
      exact Option.some_ne_none object
    · cases refused

end

end FaultyStore

end Lib
