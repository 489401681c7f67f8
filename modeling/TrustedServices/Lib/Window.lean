import Mathlib

set_option autoImplicit false

/- Intervals of a memory, and a memory with a list laid over an interval. -/
namespace Lib

variable {α : Type} {cells other : Nat → α} {start length i : Nat} {data front back : List α}

/-- What an interval of a memory holds. -/
def window (cells : Nat → α) (start length : Nat) : List α :=
  (List.range length).map fun i => cells (start + i)

/-- The memory with a list laid over the cells from a start on. -/
def overlay (cells : Nat → α) (start : Nat) (data : List α) : Nat → α :=
  fun address =>
    if start ≤ address then data[address - start]?.getD (cells address) else cells address

@[simp] theorem length_window : (window cells start length).length = length := by
  unfold window
  rw [List.length_map, List.length_range]

@[simp] theorem window_zero : window cells start 0 = [] := rfl

theorem window_add (first second : Nat) :
    window cells start (first + second) =
      window cells start first ++ window cells (start + first) second := by
  unfold window
  rw [List.range_add, List.map_append, List.map_map]
  congr 1
  apply List.map_congr_left
  intro i _
  exact congrArg cells (Nat.add_assoc start first i).symm

theorem window_congr {otherStart : Nat}
    (same : ∀ i < length, cells (start + i) = other (otherStart + i)) :
    window cells start length = window other otherStart length := by
  apply List.map_congr_left
  intro i member
  exact same i (List.mem_range.mp member)

theorem overlay_outside (outside : i < start ∨ start + data.length ≤ i) :
    overlay cells start data i = cells i := by
  unfold overlay
  split
  · rw [List.getElem?_eq_none (by omega)]
    rfl
  · rfl

@[simp] theorem overlay_nil : overlay cells start [] = cells := by
  funext i
  exact overlay_outside (by rw [List.length_nil]; omega)

theorem overlay_overlay :
    overlay (overlay cells start front) (start + front.length) back =
      overlay cells start (front ++ back) := by
  funext i
  unfold overlay
  by_cases before : i < start
  · rw [if_neg (by omega), if_neg (by omega), if_neg (by omega)]
  · rw [if_pos (show start ≤ i by omega)]
    by_cases inFront : i - start < front.length
    · rw [if_neg (by omega), if_pos (by omega), List.getElem?_append_left inFront]
    · rw [if_pos (by omega), if_pos (by omega), List.getElem?_append_right (by omega),
        List.getElem?_eq_none (Nat.le_of_not_lt inFront), Nat.sub_sub]
      rfl

end Lib
