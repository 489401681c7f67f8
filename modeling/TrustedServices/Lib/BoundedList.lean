import Mathlib

set_option autoImplicit false

/- Lists that are filled up to a limit and drop what comes after. -/
namespace Lib

structure BoundedList (Item : Type) where
  items : List Item
  limit : Nat
  fits : items.length ≤ limit

namespace BoundedList

variable {Item : Type}

def empty (limit : Nat) : BoundedList Item := ⟨[], limit, Nat.zero_le _⟩

/-- The item is appended if there is room, and dropped otherwise. -/
def push (list : BoundedList Item) (item : Item) : BoundedList Item :=
  if room : list.items.length < list.limit then
    ⟨list.items ++ [item], list.limit, by rw [List.length_append]; exact room⟩
  else list

variable (list : BoundedList Item)

@[simp] theorem push_limit (item : Item) : (list.push item).limit = list.limit := by
  unfold push
  split
  · rfl
  · rfl

theorem push_items (item : Item) :
    (list.push item).items = (list.items ++ [item]).take list.limit := by
  have fits := list.fits
  unfold push
  split
  case isTrue room =>
    symm
    apply List.take_of_length_le
    simp only [List.length_append, List.length_singleton]
    omega
  case isFalse full =>
    have same : list.limit = list.items.length := by omega
    rw [same, List.take_left]

theorem take_append_take (limit : Nat) (front behind : List Item) :
    (front.take limit ++ behind).take limit = (front ++ behind).take limit := by
  rw [List.take_append, List.take_append, List.take_take, Nat.min_self, List.length_take]
  by_cases room : front.length ≤ limit
  · rw [Nat.min_eq_right room]
  · have full : limit - front.length = 0 := by omega
    rw [full, Nat.min_eq_left (by omega), Nat.sub_self]

/-- The items replaced by others. -/
def map {Other : Type} (change : Item → Other) : BoundedList Other :=
  ⟨list.items.map change, list.limit, by rw [List.length_map]; exact list.fits⟩

theorem map_push {Other : Type} (change : Item → Other) (item : Item) :
    (list.push item).map change = (list.map change).push (change item) := by
  unfold push map
  simp only [List.length_map]
  split
  · simp only [List.map_append, List.map_singleton]
  · rfl

end BoundedList

end Lib
