import Mathlib

set_option autoImplicit false

/- The registers that a message is passed in. -/
namespace Lib

/-- Five registers of some width. -/
abbrev Registers (width : Nat) := Fin 5 → BitVec width

-- Five registers, or ten of half their width, are named by numerals.
instance neZeroFive : NeZero 5 := ⟨by decide⟩

instance neZeroTen : NeZero 10 := ⟨by decide⟩

end Lib
