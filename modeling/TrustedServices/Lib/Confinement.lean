import TrustedServices.Lib.Memory

set_option autoImplicit false

/- Programs over named buffers that touch only an area of them. -/
namespace Lib

variable {Buffer α β : Type}

/-- The access reaches the byte at a position of a buffer. -/
def Access.Covers (access : Access Buffer) (buffer : Buffer) (position : Nat) : Prop :=
  access.buffer = buffer ∧ access.offset ≤ position ∧ position < access.offset + access.length

namespace Accessing

/-- Every byte that the program reads or writes is in the area. -/
def TouchesOnly (area : Buffer → Nat → Prop) (program : Accessing Buffer α)
    (memory : Memory Buffer) : Prop :=
  ∀ access ∈ (program memory).accesses, ∀ buffer position, access.Covers buffer position →
    area buffer position

/-- A byte that the program does not touch keeps its value. -/
def Framed (program : Accessing Buffer α) : Prop :=
  ∀ memory buffer position,
    (∀ access ∈ (program memory).accesses, ¬ access.Covers buffer position) →
    (program memory).memory buffer position = memory buffer position

section

variable {area other : Buffer → Nat → Prop} {memory : Memory Buffer} {buffer : Buffer}
  {offset length : Nat}

theorem TouchesOnly.mono {program : Accessing Buffer α} (touches : TouchesOnly area program memory)
    (inside : ∀ buffer position, area buffer position → other buffer position) :
    TouchesOnly other program memory := by
  intro access member buffer position covers
  exact inside buffer position (touches access member buffer position covers)

@[simp] theorem touchesOnly_pure (value : α) :
    TouchesOnly area (pure value : Accessing Buffer α) memory ↔ True :=
  iff_of_true (fun _ member => nomatch member) trivial

@[simp] theorem touchesOnly_bind (first : Accessing Buffer α) (next : α → Accessing Buffer β) :
    TouchesOnly area (first >>= next) memory ↔
      TouchesOnly area first memory ∧
        TouchesOnly area (next (first memory).value) (first memory).memory :=
  List.forall_mem_append

theorem covered_iff :
    (∀ named position, (Access.mk buffer offset length).Covers named position →
        area named position) ↔
      ∀ position, offset ≤ position → position < offset + length → area buffer position := by
  constructor
  · intro inside position lower upper
    exact inside buffer position ⟨rfl, lower, upper⟩
  · rintro inside named position ⟨rfl, lower, upper⟩
    exact inside position lower upper

@[simp] theorem touchesOnly_load :
    TouchesOnly area (load buffer offset length) memory ↔
      ∀ position, offset ≤ position → position < offset + length → area buffer position := by
  unfold TouchesOnly load
  rw [List.forall_mem_singleton, covered_iff]

@[simp] theorem touchesOnly_loadWord :
    TouchesOnly area (loadWord buffer offset length) memory ↔
      ∀ position, offset ≤ position → position < offset + length → area buffer position := by
  unfold loadWord
  rw [touchesOnly_bind, touchesOnly_load, touchesOnly_pure, and_true]

@[simp] theorem touchesOnly_store [DecidableEq Buffer] (bytes : Bytes) :
    TouchesOnly area (store buffer offset bytes) memory ↔
      ∀ position, offset ≤ position → position < offset + bytes.length → area buffer position := by
  unfold TouchesOnly store
  rw [List.forall_mem_singleton, covered_iff]

/-- A little-endian word. -/
def wordAt (cells : Nat → UInt8) (offset width : Nat) : Nat :=
  leNat ((List.range width).map fun index => cells (offset + index))

theorem loadWord_value (buffer : Buffer) (offset width : Nat) :
    (loadWord buffer offset width memory).value = wordAt (memory buffer) offset width := rfl

theorem length_load (buffer : Buffer) (offset length : Nat) :
    (load buffer offset length memory).value.length = length := by
  simp [load]

theorem store_other [DecidableEq Buffer] {other : Buffer} (different : other ≠ buffer)
    (offset : Nat) (bytes : Bytes) :
    (store buffer offset bytes memory).memory other = memory other := by
  funext position
  simp only [store, different, false_and, ↓reduceIte]

theorem below_iff {bound : Nat} :
    (∀ position, offset ≤ position → position < offset + length → position < bound) ↔
      length = 0 ∨ offset + length ≤ bound :=
  @Access.within_iff Unit (fun _ => bound) ⟨(), offset, length⟩

end

theorem framed_pure (value : α) : Framed (pure value : Accessing Buffer α) := by
  intro memory buffer position _
  rfl

theorem framed_load (buffer : Buffer) (offset length : Nat) :
    Framed (load buffer offset length) := by
  intro memory buffer position _
  rfl

theorem framed_store [DecidableEq Buffer] (buffer : Buffer) (offset : Nat) (bytes : Bytes) :
    Framed (store buffer offset bytes) := by
  intro memory named position untouched
  have apart := untouched _ (List.mem_singleton.mpr rfl)
  simp only [store, ite_eq_right_iff]
  intro ⟨same, lower, upper⟩
  exact absurd ⟨same.symm, lower, upper⟩ apart

theorem Framed.bind {first : Accessing Buffer α} {next : α → Accessing Buffer β}
    (early : Framed first) (late : ∀ value, Framed (next value)) : Framed (first >>= next) := by
  intro memory buffer position untouched
  have split := List.forall_mem_append.mp untouched
  rw [memory_bind, late _ _ buffer position split.2]
  exact early memory buffer position split.1

theorem framed_loadWord (buffer : Buffer) (offset length : Nat) :
    Framed (loadWord buffer offset length) :=
  (framed_load buffer offset length).bind fun _ => framed_pure _

end Accessing

end Lib
