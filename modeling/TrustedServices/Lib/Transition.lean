import Mathlib

set_option autoImplicit false

/- Runs of a deterministic system, and the rule for what holds in all of their states. -/
namespace Lib

variable {State Event : Type} {step : State → Event → State} {initial : State}
  {admits : State → Event → Prop}

/-- The states of the runs from `initial` in which `admits` allows every event. -/
inductive Reached (step : State → Event → State) (initial : State)
    (admits : State → Event → Prop) : State → Prop
  | start : Reached step initial admits initial
  | step {state : State} {event : Event} (reached : Reached step initial admits state)
      (admitted : admits state event) : Reached step initial admits (step state event)

/-- What holds at the start and is kept by every admitted event of a run holds in
every state reached. -/
theorem Reached.invariant (holds : State → Prop) (initially : holds initial)
    (kept : ∀ state event, Reached step initial admits state → holds state → admits state event →
      holds (step state event))
    {state : State} (reached : Reached step initial admits state) : holds state := by
  induction reached with
  | start => exact initially
  | step earlier admitted ih => exact kept _ _ earlier ih admitted

theorem reached_foldl (events : List Event)
    (admitted : ∀ event ∈ events, ∀ state, admits state event) {state : State}
    (reached : Reached step initial admits state) :
    Reached step initial admits (events.foldl step state) := by
  induction events generalizing state with
  | nil => exact reached
  | cons event rest ih =>
    obtain ⟨first, later⟩ := List.forall_mem_cons.mp admitted
    exact ih later (.step reached (first state))

/-- Each event of a list is admitted in the state that the earlier ones lead to. -/
def Admitted (step : State → Event → State) (admits : State → Event → Prop) :
    State → List Event → Prop
  | _, [] => True
  | state, event :: rest => admits state event ∧ Admitted step admits (step state event) rest

instance Admitted.decidable [∀ state event, Decidable (admits state event)] :
    ∀ state events, Decidable (Admitted step admits state events)
  | _, [] => isTrue trivial
  | state, event :: rest =>
    @instDecidableAnd _ _ _ (Admitted.decidable (step state event) rest)

theorem admitted_append {state : State} {events others : List Event} :
    Admitted step admits state (events ++ others) ↔
      Admitted step admits state events ∧ Admitted step admits (events.foldl step state) others := by
  induction events generalizing state with
  | nil => exact (and_iff_right trivial).symm
  | cons event rest ih => exact (and_congr_right fun _ => ih).trans and_assoc.symm

/-- Two conditions that agree wherever a good run leads allow the same runs. -/
theorem admitted_congr {other : State → Event → Prop} (good : State → Prop)
    (agree : ∀ state event, good state → (admits state event ↔ other state event))
    (kept : ∀ state event, good state → admits state event → good (step state event))
    {state : State} (start : good state) (events : List Event) :
    Admitted step admits state events ↔ Admitted step other state events := by
  induction events generalizing state with
  | nil => exact Iff.rfl
  | cons event rest ih =>
    constructor
    · rintro ⟨first, later⟩
      exact ⟨(agree state event start).mp first, (ih (kept state event start first)).mp later⟩
    · rintro ⟨first, later⟩
      have admitted := (agree state event start).mpr first
      exact ⟨admitted, (ih (kept state event start admitted)).mpr later⟩

theorem Reached.run {state : State} {events : List Event}
    (reached : Reached step initial admits state) (admitted : Admitted step admits state events) :
    Reached step initial admits (events.foldl step state) := by
  induction events generalizing state with
  | nil => exact reached
  | cons event rest ih => exact ih (.step reached admitted.1) admitted.2

end Lib
