import Dnsix.Transition
import Mathlib.Algebra.BigOperators.Group.List.Basic
import Mathlib.Algebra.GroupWithZero.Nat

/-!
Processes that share a state. They arrive one after the other, a step moves one of
them, and it may leave traces of its own in the state. What the steps of one process
preserve holds of every process of a run, whatever the others do in between.
-/

namespace Dnsix.Processes
open Transition

universe u v w x y
variable {State : Type u} {Action : Type v} {Process : Type w} {Event : Type x} {Trace : Type y}

/-- How the processes, and the traces they left, are read off the state, and which
process an action moves, by which event. -/
structure Reading (State : Type u) (Action : Type v) (Process : Type w) (Event : Type x)
    (Trace : Type y) where
  processes : State → List Process
  traces : State → Nat → List Trace
  mover : Action → Option (Nat × Event)

/-- Nothing but its own steps moves a process or leaves its traces. -/
structure Separate (reading : Reading State Action Process Event Trace)
    (step : Action → State → Option State) (begins : Process → Prop)
    (moves : Process → Event → Process → List Trace → Prop) : Prop where
  arrival : ∀ action before after, reading.mover action = none →
    step action before = some after → ∃ fresh, begins fresh ∧
      reading.processes after = reading.processes before ++ [fresh] ∧
      ∀ id, reading.traces after id = reading.traces before id
  advance : ∀ action before after id event, reading.mover action = some (id, event) →
    step action before = some after → ∃ process later left,
      (reading.processes before)[id]? = some process ∧ moves process event later left ∧
      reading.processes after = (reading.processes before).set id later ∧
      ∀ other, reading.traces after other =
        reading.traces before other ++ if id = other then left else []

/-- The events that moved a process, in their order. -/
def Reading.eventsOf (reading : Reading State Action Process Event Trace) (id : Nat)
    (actions : List Action) : List Event :=
  actions.filterMap fun action =>
    match reading.mover action with
    | some (other, event) => if other = id then some event else none
    | none => none

variable {reading : Reading State Action Process Event Trace}
variable {step : Action → State → Option State} {allowed : Action → State → Prop}
variable {begins : Process → Prop} {moves : Process → Event → Process → List Trace → Prop}
variable {motive : List Event → Process → List Trace → Prop}

theorem events_arrival (id : Nat) (front : List Action) (action : Action)
    (arrives : reading.mover action = none) :
    reading.eventsOf id (front ++ [action]) = reading.eventsOf id front := by
  simp [Reading.eventsOf, arrives]

theorem events_advance (id mover : Nat) (front : List Action) (action : Action) (event : Event)
    (moved : reading.mover action = some (mover, event)) :
    reading.eventsOf id (front ++ [action]) =
      reading.eventsOf id front ++ if mover = id then [event] else [] := by
  by_cases own : mover = id <;> simp [Reading.eventsOf, moved, own]

theorem mem_events (id : Nat) (actions : List Action) (event : Event) :
    event ∈ reading.eventsOf id actions ↔
      ∃ action ∈ actions, reading.mover action = some (id, event) := by
  unfold Reading.eventsOf
  rw [List.mem_filterMap]
  refine exists_congr fun action => and_congr_right fun _ => ?_
  cases moved : reading.mover action with
  | none => simp
  | some mover =>
      obtain ⟨other, own⟩ := mover
      by_cases same : other = id <;> simp [same]

/-- Each process has the property of its events, its state and its traces, and one that
has not arrived has neither events nor traces. -/
structure Recorded (reading : Reading State Action Process Event Trace)
    (motive : List Event → Process → List Trace → Prop) (actions : List Action)
    (state : State) : Prop where
  arrived : ∀ id process, (reading.processes state)[id]? = some process →
    motive (reading.eventsOf id actions) process (reading.traces state id)
  awaited : ∀ id, (reading.processes state)[id]? = none →
    reading.eventsOf id actions = [] ∧ reading.traces state id = []

theorem recorded_arrival (start : ∀ fresh, begins fresh → motive [] fresh [])
    (separate : Separate reading step begins moves) (front : List Action) (action : Action)
    (before after : State) (arrives : reading.mover action = none)
    (taken : step action before = some after) (recorded : Recorded reading motive front before) :
    Recorded reading motive (front ++ [action]) after := by
  obtain ⟨fresh, begun, joined, traced⟩ := separate.arrival action before after arrives taken
  constructor
  · intro id process present
    rw [events_arrival id front action arrives, traced]
    rw [joined] at present
    rcases Nat.lt_trichotomy id (reading.processes before).length with old | last | beyond
    · rw [List.getElem?_append_left old] at present
      exact recorded.arrived id process present
    · subst id
      rw [List.getElem?_concat_length] at present
      cases present
      obtain ⟨unmoved, untraced⟩ := recorded.awaited _ (List.getElem?_eq_none (Nat.le_refl _))
      rw [unmoved, untraced]
      exact start fresh begun
    · rw [List.getElem?_eq_none (by rw [List.length_append]; exact beyond)] at present
      cases present
  · intro id absent
    rw [events_arrival id front action arrives, traced]
    rw [joined, List.getElem?_eq_none_iff, List.length_append, List.length_singleton] at absent
    exact recorded.awaited id (List.getElem?_eq_none (by omega))

theorem recorded_advance (kept : ∀ front process traces event later left,
      motive front process traces → moves process event later left →
      motive (front ++ [event]) later (traces ++ left))
    (separate : Separate reading step begins moves) (front : List Action) (action : Action)
    (before after : State) (mover : Nat) (event : Event)
    (owned : reading.mover action = some (mover, event)) (taken : step action before = some after)
    (recorded : Recorded reading motive front before) :
    Recorded reading motive (front ++ [action]) after := by
  obtain ⟨process, later, left, present, moved, replaced, traced⟩ :=
    separate.advance action before after mover event owned taken
  have inside : mover < (reading.processes before).length :=
    (List.getElem?_eq_some_iff.mp present).1
  constructor
  · intro id found located
    rw [events_advance id mover front action event owned, traced]
    rw [replaced] at located
    by_cases same : mover = id
    · subst mover
      rw [List.getElem?_set_self inside] at located
      cases located
      rw [if_pos rfl, if_pos rfl]
      exact kept _ process _ event later left (recorded.arrived id process present) moved
    · rw [List.getElem?_set_ne same] at located
      rw [if_neg same, if_neg same, List.append_nil, List.append_nil]
      exact recorded.arrived id found located
  · intro id absent
    rw [replaced, List.getElem?_eq_none_iff, List.length_set] at absent
    have apart : mover ≠ id := by omega
    rw [events_advance id mover front action event owned, traced, if_neg apart, if_neg apart,
      List.append_nil, List.append_nil]
    exact recorded.awaited id (List.getElem?_eq_none absent)

/-- The induction rule for one process of a run. -/
theorem process_run (separate : Separate reading step begins moves)
    (start : ∀ fresh, begins fresh → motive [] fresh [])
    (kept : ∀ front process traces event later left, motive front process traces →
      moves process event later left → motive (front ++ [event]) later (traces ++ left))
    {first after : State} {actions : List Action}
    (empty : reading.processes first = []) (untraced : ∀ id, reading.traces first id = [])
    (run : Run step allowed first actions after) (id : Nat) (process : Process)
    (present : (reading.processes after)[id]? = some process) :
    motive (reading.eventsOf id actions) process (reading.traces after id) := by
  have recorded : Recorded reading motive actions after := by
    refine run_history (motive := Recorded reading motive) ?_ ?_ run
    · constructor
      · intro id process present
        rw [empty] at present
        cases present
      · exact fun id _ => ⟨rfl, untraced id⟩
    · intro front action before after _ recorded _ taken
      cases owner : reading.mover action with
      | none => exact recorded_arrival start separate front action before after owner taken recorded
      | some moved =>
          exact recorded_advance kept separate front action before after moved.1 moved.2 owner
            taken recorded
  exact recorded.arrived id process present

/-! Weights. -/
section Weights

/-- The sum moves with the one process that is replaced. -/
theorem sum_set (weight : Process → Nat) (processes : List Process) (id : Nat)
    (process later : Process) (present : processes[id]? = some process) :
    ((processes.set id later).map weight).sum + weight process =
      (processes.map weight).sum + weight later := by
  induction processes generalizing id with
  | nil => cases present
  | cons first rest ih =>
      cases id with
      | zero =>
          cases present
          simp only [List.set_cons_zero, List.map_cons, List.sum_cons]
          omega
      | succ id =>
          have tail := ih id present
          simp only [List.set_cons_succ, List.map_cons, List.sum_cons]
          omega

theorem count_sum (holds : Process → Bool) (processes : List Process) :
    (processes.map fun process => (holds process).toNat).sum = processes.countP holds := by
  induction processes with
  | nil => rfl
  | cons first rest ih => cases here : holds first <;> simp [here, ih]; omega

variable (reading) in
/-- What moves with the weight of the moving process is the weight of all of them. -/
theorem weight_run (weight : Process → Nat) (read : State → Nat)
    {first after : State} {actions : List Action} (empty : reading.processes first = [])
    (arrival : ∀ action before after, reading.mover action = none →
      step action before = some after → read after = read before ∧
      ∃ fresh, reading.processes after = reading.processes before ++ [fresh] ∧ weight fresh = 0)
    (advance : ∀ front action before after id event, Run step allowed first front before →
      reading.mover action = some (id, event) → step action before = some after →
      ∃ process later, (reading.processes before)[id]? = some process ∧
        reading.processes after = (reading.processes before).set id later ∧
        read after + weight process = read before + weight later)
    (run : Run step allowed first actions after) :
    read after = read first + ((reading.processes after).map weight).sum := by
  refine run_history (motive := fun _ after =>
    read after = read first + ((reading.processes after).map weight).sum) ?_ ?_ run
  · rw [empty]
    rfl
  · intro front action before after begun total _ taken
    cases owner : reading.mover action with
    | none =>
        obtain ⟨still, fresh, joined, light⟩ := arrival action before after owner taken
        rw [still, total, joined]
        simp [light]
    | some moved =>
        obtain ⟨process, later, present, replaced, change⟩ :=
          advance front action before after moved.1 moved.2 begun owner taken
        have sums := sum_set weight (reading.processes before) moved.1 process later present
        rw [replaced]
        omega

end Weights

end Dnsix.Processes
