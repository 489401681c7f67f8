import Mathlib

set_option autoImplicit false

/- Byte strings as a C program sees them. -/
namespace Lib

abbrev Bytes := List UInt8

/-- The `width` low bytes of a word, least significant first. -/
def leBytes : Nat → Nat → Bytes
  | 0, _ => []
  | width + 1, value => UInt8.ofNat value :: leBytes width (value / 256)

/-- The word a little-endian byte string holds. -/
def leNat : Bytes → Nat
  | [] => 0
  | byte :: rest => byte.toNat + 256 * leNat rest

@[simp] theorem length_leBytes (width value : Nat) : (leBytes width value).length = width := by
  induction width generalizing value with
  | zero => rfl
  | succ width ih => simp only [leBytes, List.length_cons, ih]

theorem leNat_lt (bytes : Bytes) : leNat bytes < 256 ^ bytes.length := by
  induction bytes with
  | nil => simp [leNat]
  | cons byte rest ih =>
    have small := byte.toNat_lt
    simp only [leNat, List.length_cons, Nat.pow_succ]
    omega

theorem leNat_leBytes_mod (width value : Nat) :
    leNat (leBytes width value) = value % 256 ^ width := by
  induction width generalizing value with
  | zero =>
    rw [Nat.pow_zero, Nat.mod_one]
    rfl
  | succ width ih =>
    rw [leBytes, leNat, ih, UInt8.toNat_ofNat', Nat.pow_succ 256, Nat.mul_comm (256 ^ width),
      Nat.mod_mul]

@[simp] theorem leNat_leBytes (width value : Nat) (fits : value < 256 ^ width) :
    leNat (leBytes width value) = value := by
  rw [leNat_leBytes_mod, Nat.mod_eq_of_lt fits]

theorem leNat_leBytes_bitVec (width : Nat) (word : BitVec (8 * width)) :
    BitVec.ofNat (8 * width) (leNat (leBytes width word.toNat)) = word := by
  have bound : word.toNat < 256 ^ width := by
    have := word.isLt
    rwa [Nat.pow_mul] at this
  rw [leNat_leBytes width _ bound, BitVec.ofNat_toNat, BitVec.setWidth_eq]

/-- The bytes `[offset, offset + width)` of an image. -/
def slice (bytes : Bytes) (offset width : Nat) : Bytes :=
  (bytes.drop offset).take width

theorem length_slice (bytes : Bytes) (offset width : Nat)
    (inside : offset + width ≤ bytes.length) : (slice bytes offset width).length = width := by
  simp only [slice, List.length_take, List.length_drop]
  omega

theorem slice_append_right (front back : Bytes) (offset width : Nat)
    (behind : front.length ≤ offset) :
    slice (front ++ back) offset width = slice back (offset - front.length) width := by
  simp only [slice, List.drop_append]
  rw [List.drop_eq_nil_of_le behind, List.nil_append]

theorem slice_append_left (front back : Bytes) (width : Nat) (exactly : front.length = width) :
    slice (front ++ back) 0 width = front := by
  rw [← exactly]
  exact List.take_left

/-- Fields of a structure image: step over a word, and read the leading one. -/
theorem slice_leBytes_behind (width value : Nat) (back : Bytes) (offset size : Nat)
    (far : width ≤ offset) :
    slice (leBytes width value ++ back) offset size = slice back (offset - width) size := by
  rw [slice_append_right _ _ _ _ (by simpa using far), length_leBytes]

theorem slice_leBytes_front (width value : Nat) (back : Bytes) :
    slice (leBytes width value ++ back) 0 width = leBytes width value :=
  slice_append_left _ _ _ (length_leBytes _ _)

theorem slice_append_inside (front back : Bytes) (offset width : Nat)
    (inside : offset + width ≤ front.length) :
    slice (front ++ back) offset width = slice front offset width := by
  simp only [slice]
  rw [List.drop_append_of_le_length (by omega), List.take_append_of_le_length (by
    simp only [List.length_drop]
    omega)]

/-- Unsigned bytes in order; the first difference decides. -/
def memcmp : Bytes → Bytes → Ordering
  | [], [] => .eq
  | [], _ :: _ => .lt
  | _ :: _, [] => .gt
  | a :: as, b :: bs => if a < b then .lt else if b < a then .gt else memcmp as bs

/-- The word a big-endian byte string holds. -/
def beNat : Bytes → Nat
  | [] => 0
  | byte :: rest => byte.toNat * 256 ^ rest.length + beNat rest

theorem beNat_lt (bytes : Bytes) : beNat bytes < 256 ^ bytes.length := by
  induction bytes with
  | nil => simp [beNat]
  | cons byte rest ih =>
    have small : byte.toNat ≤ 255 := by have := byte.toNat_lt; omega
    have scaled := Nat.mul_le_mul_right (256 ^ rest.length) small
    rw [beNat, List.length_cons, Nat.pow_succ]
    omega

/-- On equally long strings `memcmp` orders the big-endian values. -/
theorem memcmp_gt_iff (left right : Bytes) (same : left.length = right.length) :
    memcmp left right = .gt ↔ beNat right < beNat left := by
  induction left generalizing right with
  | nil =>
    cases right with
    | nil => simp [memcmp]
    | cons b bs => simp at same
  | cons a as ih =>
    cases right with
    | nil => simp at same
    | cons b bs =>
      have tails : as.length = bs.length := by simpa using same
      have leftBound := beNat_lt as
      have rightBound := beNat_lt bs
      rw [beNat, beNat, tails]
      rw [tails] at leftBound
      simp only [memcmp, UInt8.lt_iff_toNat_lt]
      split_ifs with less more
      · have scaled := Nat.mul_le_mul_right (256 ^ bs.length) (Nat.succ_le_of_lt less)
        rw [Nat.succ_mul] at scaled
        constructor
        · intro impossible
          cases impossible
        · intro reversed
          omega
      · have scaled := Nat.mul_le_mul_right (256 ^ bs.length) (Nat.succ_le_of_lt more)
        rw [Nat.succ_mul] at scaled
        constructor
        · intro _
          omega
        · intro _
          rfl
      · have equal : a.toNat = b.toNat := by omega
        rw [ih bs tails, equal]
        omega

end Lib
