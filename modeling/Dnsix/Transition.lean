import Mathlib.Data.List.Induction

/-!
Runs of a guarded transition function. `step` refuses an action by returning
`none`; `allowed` restricts the actions a run may take in the state it takes
them in. Nothing here depends on what the states and actions are.
-/

namespace Dnsix.Transition

universe u v
variable {State : Type u} {Action : Type v}
variable {step : Action → State → Option State} {allowed : Action → State → Prop}

/-- The states a guarded run passes through, one accepted action at a time. -/
inductive Run (step : Action → State → Option State) (allowed : Action → State → Prop) :
    State → List Action → State → Prop where
  | refl (state : State) : Run step allowed state [] state
  | next {before middle after : State} {action : Action} {rest : List Action} :
      allowed action before → step action before = some middle →
      Run step allowed middle rest after → Run step allowed before (action :: rest) after

/-- The executable run: actions in order, refused as soon as one of them is. -/
def exec (step : Action → State → Option State) : List Action → State → Option State
  | [], state => some state
  | action :: rest, state => (step action state).bind (exec step rest)

def anyAction : Action → State → Prop := fun _ _ => True

theorem run_weaken {wider : Action → State → Prop}
    (weaker : ∀ action state, allowed action state → wider action state)
    {before after : State} {actions : List Action}
    (run : Run step allowed before actions after) : Run step wider before actions after := by
  induction run with
  | refl state => exact Run.refl state
  | next admitted taken _ ih => exact Run.next (weaker _ _ admitted) taken ih

/-- The induction rule for runs: what every allowed step preserves, every run
preserves. -/
theorem run_invariant {motive : State → Prop}
    (kept : ∀ action before after, motive before → allowed action before →
      step action before = some after → motive after)
    {before after : State} {actions : List Action}
    (run : Run step allowed before actions after) (start : motive before) : motive after := by
  induction run with
  | refl => exact start
  | next admitted taken _ ih => exact ih (kept _ _ _ start admitted taken)

/-- What a run keeps may let each of its steps through another guard. -/
theorem run_admitted {motive : State → Prop} {other : Action → State → Prop}
    (kept : ∀ action before after, motive before → allowed action before →
      step action before = some after → motive after)
    (admits : ∀ action before after, motive before → step action before = some after →
      other action before)
    {before after : State} {actions : List Action}
    (run : Run step allowed before actions after) (start : motive before) :
    Run step other before actions after := by
  induction run with
  | refl state => exact Run.refl state
  | next admitted taken _ ih =>
      exact Run.next (admits _ _ _ start taken) taken (ih (kept _ _ _ start admitted taken))

/-- An executed list of actions that are each allowed in every state is a run. -/
theorem exec_allowed {before after : State} {actions : List Action}
    (admitted : ∀ action ∈ actions, ∀ state, allowed action state)
    (executed : exec step actions before = some after) :
    Run step allowed before actions after := by
  induction actions generalizing before with
  | nil =>
      simp only [exec, Option.some.injEq] at executed
      subst after
      exact Run.refl before
  | cons action rest ih =>
      rcases Option.bind_eq_some_iff.mp executed with ⟨middle, taken, remaining⟩
      refine Run.next (admitted action List.mem_cons_self before) taken (ih ?_ remaining)
      intro other member
      exact admitted other (List.mem_cons_of_mem action member)

theorem exec_run {before after : State} {actions : List Action}
    (executed : exec step actions before = some after) :
    Run step anyAction before actions after :=
  exec_allowed (fun _ _ _ => trivial) executed

/-- A run is executed with its guard when the guard can be checked. -/
theorem exec_checked {check : Action → State → Bool}
    (sound : ∀ action state, check action state = true → allowed action state)
    {before after : State} {actions : List Action}
    (executed : exec (fun action state => if check action state then step action state else none)
      actions before = some after) : Run step allowed before actions after := by
  induction actions generalizing before with
  | nil =>
      simp only [exec, Option.some.injEq] at executed
      subst after
      exact Run.refl before
  | cons action rest ih =>
      rcases Option.bind_eq_some_iff.mp executed with ⟨middle, taken, remaining⟩
      dsimp only at taken
      split at taken
      · rename_i passes
        exact Run.next (sound action before passes) taken (ih remaining)
      · cases taken

theorem run_append {before middle after : State} {front back : List Action}
    (first : Run step allowed before front middle) (second : Run step allowed middle back after) :
    Run step allowed before (front ++ back) after := by
  induction first with
  | refl => exact second
  | next admitted taken _ ih => exact Run.next admitted taken (ih second)

theorem run_split {before after : State} {front back : List Action}
    (run : Run step allowed before (front ++ back) after) :
    ∃ middle, Run step allowed before front middle ∧ Run step allowed middle back after := by
  induction front generalizing before with
  | nil => exact ⟨before, Run.refl before, run⟩
  | cons action rest ih =>
      cases run with
      | next admitted taken later =>
          rcases ih later with ⟨middle, first, second⟩
          exact ⟨middle, Run.next admitted taken first, second⟩

theorem run_deterministic {other : Action → State → Prop} {before left right : State}
    {actions : List Action} (first : Run step allowed before actions left)
    (second : Run step other before actions right) : left = right := by
  induction first with
  | refl =>
      cases second
      rfl
  | next _ taken _ ih =>
      cases second with
      | next _ again later =>
          rw [taken, Option.some.injEq] at again
          exact ih (again ▸ later)

/-- The induction rule for runs that remembers how each state was reached. -/
theorem run_history {motive : List Action → State → Prop} {start : State}
    (begins : motive [] start)
    (kept : ∀ front action before after, Run step allowed start front before →
      motive front before → allowed action before → step action before = some after →
      motive (front ++ [action]) after)
    {after : State} {actions : List Action} (run : Run step allowed start actions after) :
    motive actions after := by
  induction actions using List.reverseRecOn generalizing after with
  | nil =>
      cases run
      exact begins
  | append_singleton front action ih =>
      rcases run_split run with ⟨before, first, last⟩
      cases last with
      | next admitted taken ended =>
          cases ended
          exact kept front action before _ first (ih first) admitted taken

/-- At some step of a run of the actions, this held of the state before it, of the action
and of the state after it. -/
def Occurred (step : Action → State → Option State) (start : State) (actions : List Action)
    (fact : State → Action → State → Prop) : Prop :=
  ∃ front action back before after, actions = front ++ action :: back ∧
    Run step anyAction start front before ∧ step action before = some after ∧
    fact before action after

theorem occurred_now {start before after : State} {front : List Action} {action : Action}
    {fact : State → Action → State → Prop} (begun : Run step anyAction start front before)
    (taken : step action before = some after) (holds : fact before action after) :
    Occurred step start (front ++ [action]) fact :=
  ⟨front, action, [], before, after, rfl, begun, taken, holds⟩

theorem Occurred.later {start : State} {actions : List Action}
    {fact : State → Action → State → Prop} (more : List Action)
    (occurred : Occurred step start actions fact) : Occurred step start (actions ++ more) fact := by
  obtain ⟨front, action, back, before, after, rfl, rest⟩ := occurred
  exact ⟨front, action, back ++ more, before, after, by simp, rest⟩

/-- A run is an allowed run when each of its steps is allowed where it is taken. -/
theorem run_each {start after : State} {actions : List Action}
    (run : Run step anyAction start actions after)
    (each : ∀ front action back before next, actions = front ++ action :: back →
      Run step anyAction start front before → step action before = some next →
      allowed action before) : Run step allowed start actions after := by
  induction run with
  | refl state => exact Run.refl state
  | @next before middle after action rest _ taken _ ih =>
      refine Run.next (each [] action rest before middle rfl (Run.refl before) taken) taken
        (ih ?_)
      rintro front later back here next rfl begun moved
      exact each (action :: front) later back here next rfl (Run.next trivial taken begun) moved

/-- What holds of every action of a run may be assumed of each of its steps. -/
theorem run_restrict {kind : Action → Prop} {before after : State} {actions : List Action}
    (all : ∀ action ∈ actions, kind action) (run : Run step allowed before actions after) :
    Run step (fun action _ => kind action) before actions after := by
  induction run with
  | refl state => exact Run.refl state
  | next _ taken _ ih =>
      rw [List.forall_mem_cons] at all
      exact Run.next all.1 taken (ih all.2)

theorem run_all {kind : Action → Prop} {before after : State} {actions : List Action}
    (run : Run step (fun action _ => kind action) before actions after) :
    ∀ action ∈ actions, kind action := by
  induction run with
  | refl => exact fun _ impossible => nomatch impossible
  | next admitted _ _ ih => exact List.forall_mem_cons.mpr ⟨admitted, ih⟩

/-- Erasing from a run the actions that leave a view alone gives a run with the same
view, from any state with the same view, when the view decides what the others do. -/
theorem run_erased {View : Type v} {view : State → View} {visible : Action → Bool}
    (good : State → Prop)
    (kept : ∀ action before after, good before → allowed action before →
      step action before = some after → good after)
    (silent : ∀ action before after, good before → allowed action before →
      visible action = false → step action before = some after → view after = view before)
    (decided : ∀ action before after other, good before → good other → allowed action before →
      visible action = true → view before = view other → step action before = some after →
      allowed action other ∧ ∃ last, step action other = some last ∧ view after = view last)
    {before after : State} {actions : List Action} (run : Run step allowed before actions after)
    (other : State) (fit : good before) (fits : good other) (same : view before = view other) :
    ∃ last, Run step allowed other (actions.filter visible) last ∧ view after = view last := by
  induction run generalizing other with
  | refl state => exact ⟨other, Run.refl other, same⟩
  | @next before middle after action rest admitted taken _ ih =>
      have fitNext := kept action before middle fit admitted taken
      cases seen : visible action with
      | true =>
          rcases decided action before middle other fit fits admitted seen same taken with
            ⟨admits, last, moved, agreed⟩
          rcases ih last fitNext (kept action other last fits admits moved) agreed with
            ⟨final, rerun, ended⟩
          rw [List.filter_cons_of_pos seen]
          exact ⟨final, Run.next admits moved rerun, ended⟩
      | false =>
          have unchanged := silent action before middle fit admitted seen taken
          rw [List.filter_cons_of_neg (by simp [seen])]
          exact ih other fitNext fits (unchanged.trans same)

end Dnsix.Transition
