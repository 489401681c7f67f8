import Mathlib

set_option autoImplicit false

/- Programs that obtain, read and release buffers, with a record of it. -/
namespace Lib

inductive Custody
  | acquire
  | read
  | release
  deriving DecidableEq, Repr

abbrev CustodyTrace (Buffer : Type) := List (Custody × Buffer)

namespace Custody

/-- The buffer is held: it may be read until it is released, and nothing follows. -/
def closes : List Custody → Bool
  | [.release] => true
  | .read :: rest => closes rest
  | _ => false

/-- What may happen to one buffer: nothing, or it is obtained, read and released once. -/
def orderly : List Custody → Bool
  | [] => true
  | .acquire :: rest => closes rest
  | _ => false

end Custody

section

variable {Buffer : Type} [DecidableEq Buffer]

def history (buffer : Buffer) (trace : CustodyTrace Buffer) : List Custody :=
  trace.filterMap fun entry => if entry.2 = buffer then some entry.1 else none

/-- Every buffer that was obtained is released once, and not used before or after. -/
def Settled (trace : CustodyTrace Buffer) : Prop :=
  ∀ buffer, Custody.orderly (history buffer trace) = true

@[simp] theorem history_nil (buffer : Buffer) : history buffer [] = [] := rfl

@[simp] theorem history_cons (buffer : Buffer) (entry : Custody × Buffer)
    (trace : CustodyTrace Buffer) :
    history buffer (entry :: trace) =
      if entry.2 = buffer then entry.1 :: history buffer trace else history buffer trace := by
  unfold history
  rw [List.filterMap_cons]
  split
  case h_1 absent => simp_all
  case h_2 action present =>
    split at present
    · cases present
      simp_all
    · cases present

@[simp] theorem history_append (buffer : Buffer) (first second : CustodyTrace Buffer) :
    history buffer (first ++ second) = history buffer first ++ history buffer second :=
  List.filterMap_append

theorem settled_nil : Settled ([] : CustodyTrace Buffer) := fun _ => rfl

end

/-- What a program did: its value, the state it leaves and the buffers it handled. -/
structure Handled (State Buffer α : Type) where
  value : α
  state : State
  trace : CustodyTrace Buffer

def Handling (State Buffer α : Type) : Type := State → Handled State Buffer α

namespace Handling

variable {State Buffer α β : Type}

instance : Monad (Handling State Buffer) where
  pure value := fun state => ⟨value, state, []⟩
  bind first next := fun state =>
    let early := first state
    let late := next early.value early.state
    ⟨late.value, late.state, early.trace ++ late.trace⟩

def getState : Handling State Buffer State := fun state => ⟨state, state, []⟩

def setState (state : State) : Handling State Buffer Unit := fun _ => ⟨(), state, []⟩

def note (action : Custody) (buffer : Buffer) : Handling State Buffer Unit :=
  fun state => ⟨(), state, [(action, buffer)]⟩

variable (state : State)

@[simp] theorem pure_run (value : α) :
    (pure value : Handling State Buffer α) state = ⟨value, state, []⟩ := rfl

@[simp] theorem bind_run (first : Handling State Buffer α) (next : α → Handling State Buffer β) :
    (first >>= next) state =
      ⟨(next (first state).value (first state).state).value,
        (next (first state).value (first state).state).state,
        (first state).trace ++ (next (first state).value (first state).state).trace⟩ := rfl

@[simp] theorem getState_run :
    (getState : Handling State Buffer State) state = ⟨state, state, []⟩ := rfl

@[simp] theorem setState_run (next : State) :
    (setState next : Handling State Buffer Unit) state = ⟨(), next, []⟩ := rfl

@[simp] theorem note_run (action : Custody) (buffer : Buffer) :
    (note action buffer : Handling State Buffer Unit) state = ⟨(), state, [(action, buffer)]⟩ :=
  rfl

end Handling

end Lib
