import Mathlib

set_option autoImplicit false

/- Programs that wait for an environment. What one has done before it waits stays visible. -/
namespace Lib

/-- A program on a state: it returns a value, or waits in the state it has reached. -/
def Blocking (State Value : Type) : Type := State → Option Value × State

namespace Blocking

variable {State Value : Type}

instance : Monad (Blocking State) where
  pure value := fun state => (some value, state)
  bind first next := fun state =>
    match first state with
    | (some value, later) => next value later
    | (none, later) => (none, later)

def stuck : Blocking State Value := fun state => (none, state)

def read (field : State → Value) : Blocking State Value := fun state => (some (field state), state)

def modify (change : State → State) : Blocking State Unit := fun state => (some (), change state)

variable {Result : Type} {waits pre : State → Prop}

/-- From every state with `pre`, the program returns as `post` says or waits as `waits` says. -/
def Meets (waits pre : State → Prop) (program : Blocking State Value)
    (post : Value → State → Prop) : Prop :=
  ∀ state, pre state →
    match program state with
    | (some value, later) => post value later
    | (none, later) => waits later

variable {post : Value → State → Prop} {program : Blocking State Value}

theorem Meets.pure {value : Value} (holds : ∀ state, pre state → post value state) :
    Meets waits pre (Pure.pure value : Blocking State Value) post :=
  holds

theorem Meets.bind {first : Blocking State Value} {next : Value → Blocking State Result}
    {between : Value → State → Prop} {post : Result → State → Prop}
    (begins : Meets waits pre first between)
    (goesOn : ∀ value, Meets waits (between value) (next value) post) :
    Meets waits pre (first >>= next) post := by
  intro state holds
  have reached := begins state holds
  show match (match first state with
    | (some value, later) => next value later
    | (none, later) => (none, later)) with
    | (some value, later) => post value later
    | (none, later) => waits later
  cases outcome : first state with
  | mk value later =>
    rw [outcome] at reached
    cases value with
    | none => exact reached
    | some value => exact goesOn value later reached

theorem Meets.map {f : Value → Result}
    {post : Result → State → Prop} (meets : Meets waits pre program fun value => post (f value)) :
    Meets waits pre (program >>= fun value => Pure.pure (f value)) post :=
  meets.bind fun _ => .pure fun _ holds => holds

theorem Meets.read {field : State → Value} (holds : ∀ state, pre state → post (field state) state) :
    Meets waits pre (Blocking.read field) post :=
  holds

theorem Meets.modify {change : State → State} {post : Unit → State → Prop}
    (holds : ∀ state, pre state → post () (change state)) :
    Meets waits pre (Blocking.modify change) post :=
  holds

theorem Meets.ite {condition : Prop} [Decidable condition] {yes no : Blocking State Value}
    (ifTrue : condition → Meets waits pre yes post)
    (ifFalse : ¬condition → Meets waits pre no post) :
    Meets waits pre (if condition then yes else no) post := by
  split
  · exact ifTrue ‹_›
  · exact ifFalse ‹_›

theorem Meets.assume {fact : Prop} (given : fact → Meets waits pre program post) :
    Meets waits (fun state => fact ∧ pre state) program post :=
  fun state holds => given holds.1 state holds.2

theorem Meets.choose {Index : Type} {pre : Index → State → Prop}
    (given : ∀ index, Meets waits (pre index) program post) :
    Meets waits (fun state => ∃ index, pre index state) program post :=
  fun state ⟨index, holds⟩ => given index state holds

theorem Meets.weaken {stronger : State → Prop}
    {precise : Value → State → Prop} (meets : Meets waits stronger program precise)
    (before : ∀ state, pre state → stronger state)
    (after : ∀ value state, precise value state → post value state) :
    Meets waits pre program post := by
  intro state holds
  have reached := meets state (before state holds)
  cases outcome : program state with
  | mk value later =>
    rw [outcome] at reached
    cases value with
    | none => exact reached
    | some value => exact after value later reached

end Blocking

end Lib
