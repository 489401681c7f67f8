import TrustedServices.Lib.Bytes

set_option autoImplicit false

/- Programs over named buffers that keep a record of what they access. -/
namespace Lib

/-- The bytes behind each buffer's start, inside it and beyond. -/
abbrev Memory (Buffer : Type) := Buffer → Nat → UInt8

/-- A run of bytes that is read, written or pointed to. -/
structure Access (Buffer : Type) where
  buffer : Buffer
  offset : Nat
  length : Nat
  deriving DecidableEq, Repr

section

variable {Buffer : Type}

/-- Every byte of the access lies below its buffer's bound. -/
def Access.Within (bound : Buffer → Nat) (access : Access Buffer) : Prop :=
  ∀ position, access.offset ≤ position → position < access.offset + access.length →
    position < bound access.buffer

theorem Access.within_iff {bound : Buffer → Nat} {access : Access Buffer} :
    access.Within bound ↔
      access.length = 0 ∨ access.offset + access.length ≤ bound access.buffer := by
  constructor
  · intro within
    by_cases empty : access.length = 0
    · exact .inl empty
    · have last := within (access.offset + access.length - 1) (by omega) (by omega)
      omega
  · intro fits position _ inside
    omega

instance (bound : Buffer → Nat) (access : Access Buffer) : Decidable (access.Within bound) :=
  decidable_of_iff _ Access.within_iff.symm

end

/-- What a program did: its value, the memory it leaves and its accesses in order. -/
structure Accessed (Buffer α : Type) where
  value : α
  memory : Memory Buffer
  accesses : List (Access Buffer)

def Accessing (Buffer α : Type) : Type := Memory Buffer → Accessed Buffer α

namespace Accessing

variable {Buffer α β : Type}

instance : Monad (Accessing Buffer) where
  pure value := fun memory => ⟨value, memory, []⟩
  bind first next := fun memory =>
    let early := first memory
    let late := next early.value early.memory
    ⟨late.value, late.memory, early.accesses ++ late.accesses⟩

def load (buffer : Buffer) (offset length : Nat) : Accessing Buffer Bytes := fun memory =>
  ⟨(List.range length).map fun index => memory buffer (offset + index), memory,
    [⟨buffer, offset, length⟩]⟩

def loadWord (buffer : Buffer) (offset width : Nat) : Accessing Buffer Nat := do
  let bytes ← load buffer offset width
  return leNat bytes

def store [DecidableEq Buffer] (buffer : Buffer) (offset : Nat) (bytes : Bytes) :
    Accessing Buffer Unit := fun memory =>
  ⟨(),
    fun other position =>
      if other = buffer ∧ offset ≤ position ∧ position < offset + bytes.length then
        bytes.getD (position - offset) 0
      else memory other position,
    [⟨buffer, offset, bytes.length⟩]⟩

/-- Everything that the program accesses lies inside the buffers. -/
def Within (bound : Buffer → Nat) (program : Accessing Buffer α) (memory : Memory Buffer) : Prop :=
  ∀ access ∈ (program memory).accesses, access.Within bound

instance (bound : Buffer → Nat) (program : Accessing Buffer α) (memory : Memory Buffer) :
    Decidable (Within bound program memory) :=
  inferInstanceAs (Decidable (∀ _ ∈ _, _))

section

variable {bound : Buffer → Nat} {memory : Memory Buffer} {buffer : Buffer} {offset length : Nat}

@[simp] theorem value_pure (value : α) :
    ((pure value : Accessing Buffer α) memory).value = value := rfl

@[simp] theorem value_bind (first : Accessing Buffer α) (next : α → Accessing Buffer β) :
    ((first >>= next) memory).value = (next (first memory).value (first memory).memory).value :=
  rfl

@[simp] theorem memory_pure (value : α) :
    ((pure value : Accessing Buffer α) memory).memory = memory := rfl

@[simp] theorem memory_bind (first : Accessing Buffer α) (next : α → Accessing Buffer β) :
    ((first >>= next) memory).memory =
      (next (first memory).value (first memory).memory).memory :=
  rfl

@[simp] theorem memory_load : (load buffer offset length memory).memory = memory := rfl

@[simp] theorem memory_loadWord : (loadWord buffer offset length memory).memory = memory := rfl

@[simp] theorem within_pure (value : α) :
    Within bound (pure value : Accessing Buffer α) memory ↔ True :=
  iff_of_true (fun _ member => nomatch member) trivial

@[simp] theorem within_bind (first : Accessing Buffer α) (next : α → Accessing Buffer β) :
    Within bound (first >>= next) memory ↔
      Within bound first memory ∧
        Within bound (next (first memory).value) (first memory).memory :=
  List.forall_mem_append

@[simp] theorem within_load :
    Within bound (load buffer offset length) memory ↔
      length = 0 ∨ offset + length ≤ bound buffer := by
  rw [Within, load, List.forall_mem_singleton, Access.within_iff]

@[simp] theorem within_loadWord :
    Within bound (loadWord buffer offset length) memory ↔
      length = 0 ∨ offset + length ≤ bound buffer := by
  rw [loadWord, within_bind, within_load, within_pure, and_true]

end

/-- Run one program after the other and put together what they give. -/
def both (first second : Accessing Buffer (List α)) : Accessing Buffer (List α) := do
  let early ← first
  let late ← second
  return early ++ late

/-- Run the body for every index below the count. -/
def forRange (body : Nat → Accessing Buffer (List α)) : Nat → Accessing Buffer (List α)
  | 0 => pure []
  | count + 1 => both (forRange body count) (body count)

/-- The program reads inside the buffers, writes nothing and gives only what is good. -/
structure Reads (bound : Buffer → Nat) (memory : Memory Buffer) (good : α → Prop)
    (program : Accessing Buffer (List α)) : Prop where
  within : Within bound program memory
  keeps : (program memory).memory = memory
  gives : ∀ value ∈ (program memory).value, good value

namespace Reads

variable {bound : Buffer → Nat} {memory : Memory Buffer} {good : α → Prop}

theorem pure {values : List α} (gives : ∀ value ∈ values, good value) :
    Reads bound memory good (pure values) :=
  ⟨nofun, rfl, gives⟩

theorem loadWord {buffer : Buffer} {offset width : Nat} {next : Nat → Accessing Buffer (List α)}
    (inside : offset + width ≤ bound buffer) (rest : ∀ word, Reads bound memory good (next word)) :
    Reads bound memory good (loadWord buffer offset width >>= next) where
  within := (within_bind _ _).mpr ⟨within_loadWord.mpr (.inr inside), (rest _).within⟩
  keeps := (rest _).keeps
  gives := (rest _).gives

theorem both {first second : Accessing Buffer (List α)} (early : Reads bound memory good first)
    (late : Reads bound memory good second) : Reads bound memory good (both first second) := by
  obtain ⟨within, keeps, gives⟩ := early
  refine ⟨?_, ?_, ?_⟩
  · rw [Accessing.both, within_bind, within_bind, keeps]
    exact ⟨within, late.within, nofun⟩
  · rw [Accessing.both, memory_bind, memory_bind, keeps]
    exact late.keeps
  · rw [Accessing.both, value_bind, value_bind, keeps]
    exact List.forall_mem_append.mpr ⟨gives, late.gives⟩

theorem forRange {body : Nat → Accessing Buffer (List α)} {count : Nat}
    (each : ∀ index < count, Reads bound memory good (body index)) :
    Reads bound memory good (forRange body count) := by
  induction count with
  | zero => exact .pure nofun
  | succ count ih => exact (ih fun index below => each index (by omega)).both (each count (by omega))

end Reads

end Accessing

end Lib
