import TrustedServices.Lib.Bytes

set_option autoImplicit false

/- The fields of a structure in memory, and the words of either byte order in them. -/
namespace Lib

abbrev Field (width : Nat) := Fin width → UInt8

namespace Field

variable {width other start place address value : Nat} {memory later : Nat → UInt8}

/-- The byte at an offset. There is none behind the end of a field. -/
def byte (field : Field width) (offset : Nat) : UInt8 :=
  if inside : offset < width then field ⟨offset, inside⟩ else 0

def load (memory : Nat → UInt8) (start width : Nat) : Field width :=
  fun i => memory (start + i)

def store (memory : Nat → UInt8) (start : Nat) (field : Field width) : Nat → UInt8 :=
  fun address =>
    if start ≤ address ∧ address < start + width then field.byte (address - start)
    else memory address

theorem byte_val (field : Field width) (i : Fin width) : field.byte i = field i := dif_pos i.isLt

theorem load_congr (same : ∀ address, start ≤ address → address < start + width →
    memory address = later address) : load memory start width = load later start width := by
  funext i
  exact same (start + i) (by omega) (by omega)

theorem store_outside (field : Field width) (outside : address < start ∨ start + width ≤ address) :
    store memory start field address = memory address :=
  if_neg (by omega)

theorem load_store (field : Field width) : load (store memory start field) start width = field := by
  funext i
  show (if start ≤ start + i.val ∧ start + i.val < start + width
    then field.byte (start + i.val - start) else memory (start + i.val)) = field i
  rw [if_pos (by omega), Nat.add_sub_cancel_left, byte_val]

theorem load_store_apart (field : Field other)
    (apart : start + width ≤ place ∨ place + other ≤ start) :
    load (store memory place field) start width = load memory start width := by
  apply load_congr
  intro address above below
  exact store_outside field (by omega)

/-- The word a field holds, least significant byte first. -/
def leWord (field : Field width) : Nat := leNat (List.ofFn field)

def ofLeWord (width value : Nat) : Field width := fun i => UInt8.ofNat (value / 256 ^ i.val)

theorem ofFn_ofLeWord (width value : Nat) :
    List.ofFn (ofLeWord width value) = leBytes width value := by
  induction width generalizing value with
  | zero => rfl
  | succ width ih =>
    rw [List.ofFn_succ, leBytes, ← ih (value / 256)]
    congr 1
    · show UInt8.ofNat (value / 256 ^ 0) = UInt8.ofNat value
      rw [Nat.pow_zero, Nat.div_one]
    · congr 1
      funext i
      show UInt8.ofNat (value / 256 ^ (i.val + 1)) = UInt8.ofNat (value / 256 / 256 ^ i.val)
      rw [Nat.div_div_eq_div_mul, Nat.pow_succ, Nat.mul_comm]

theorem leWord_ofLeWord (fits : value < 256 ^ width) : (ofLeWord width value).leWord = value := by
  unfold leWord
  rw [ofFn_ofLeWord, leNat_leBytes width value fits]

/-- The word a field holds, most significant byte first. -/
def beWord (field : Field width) : Nat := beNat (List.ofFn field)

def ofBeWord (width value : Nat) : Field width :=
  fun i => UInt8.ofNat (value / 256 ^ (width - 1 - i.val))

end Field

end Lib
