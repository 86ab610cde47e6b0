import Dnsix.Attribution

/-!
Budgets for the work of a transition system. Every owner carries a load; an owner's
step costs no more than it takes off the load and what the step brings in, and leaves
the loads of the others alone. So a run costs no more than it has brought in, and a
system that goes on taking steps that cost something comes to a state where no such
step is left, after as many of them as there is load at most.
-/

namespace Dnsix.Draining
open Transition Attribution

universe u v w
variable {State : Type u} {Action : Type v} {Owner : Type w} [DecidableEq Owner]
variable {step : Action → State → Option State} {allowed : Action → State → Prop}
variable {owner : Action → Option Owner} {load : State → Owner → Nat}
variable {cost income : Action → Nat}

def total (price : Action → Nat) : List Action → Nat
  | [] => 0
  | action :: rest => price action + total price rest

@[simp] theorem total_nil (price : Action → Nat) : total price [] = 0 := rfl

@[simp] theorem total_cons (price : Action → Nat) (action : Action) (rest : List Action) :
    total price (action :: rest) = price action + total price rest := rfl

theorem total_append (price : Action → Nat) (front back : List Action) :
    total price (front ++ back) = total price front + total price back := by
  induction front with
  | nil => simp
  | cons action rest ih =>
      rw [List.cons_append, total_cons, total_cons, ih]
      omega

/-- The account of each single step. -/
structure Metered (step : Action → State → Option State) (allowed : Action → State → Prop)
    (owner : Action → Option Owner) (load : State → Owner → Nat) (cost income : Action → Nat) :
    Prop where
  others : ∀ action before after who, allowed action before → step action before = some after →
    owner action ≠ some who → load after who = load before who
  own : ∀ action before after who, allowed action before → step action before = some after →
    owner action = some who → cost action + load after who ≤ load before who + income action
  unowned : ∀ action, owner action = none → cost action ≤ income action

/-- The loads of some owners together. -/
def carried (load : State → Owner → Nat) (among : Finset Owner) (state : State) : Nat :=
  ∑ who ∈ among, load state who

/-- A step moves the loads together as it moves the load of its owner. -/
theorem carried_step (metered : Metered step allowed owner load cost income)
    (among : Finset Owner) {action : Action} {before after : State}
    (admitted : allowed action before) (taken : step action before = some after)
    (known : ∀ who, owner action = some who → who ∈ among) :
    cost action + carried load among after ≤ carried load among before + income action := by
  cases mover : owner action with
  | none =>
      have same : carried load among after = carried load among before :=
        Finset.sum_congr rfl fun who _ =>
          metered.others action before after who admitted taken (by simp [mover])
      have free := metered.unowned action mover
      omega
  | some who =>
      have here : who ∈ among := known who mover
      have rest : ∑ other ∈ among.erase who, load after other =
          ∑ other ∈ among.erase who, load before other := by
        refine Finset.sum_congr rfl fun other member => ?_
        refine metered.others action before after other admitted taken ?_
        intro same
        rw [mover, Option.some.injEq] at same
        exact Finset.ne_of_mem_erase member same.symm
      have paid := metered.own action before after who admitted taken mover
      simp only [carried, ← Finset.add_sum_erase among _ here, rest]
      omega

/-- Whoever has not moved carries nothing. -/
theorem idle_unloaded (metered : Metered step allowed owner load cost income)
    {start after : State} (fresh : ∀ who, load start who = 0) {actions : List Action}
    (run : Run step allowed start actions after) (who : Owner)
    (idle : who ∉ owners owner actions) : load after who = 0 := by
  refine run_history (motive := fun actions state => who ∉ owners owner actions →
    load state who = 0) (fun _ => fresh who) ?_ run idle
  intro front action before after _ unmoved admitted taken absent
  rw [owners_append] at absent
  have other : owner action ≠ some who := by
    intro mover
    rw [mover] at absent
    exact absent (Finset.mem_insert_self who _)
  have earlier : who ∉ owners owner front := by
    intro member
    apply absent
    split
    · exact Finset.mem_insert_of_mem member
    · exact member
  exact (metered.others action before after who admitted taken other).trans (unmoved earlier)

/-- A run costs no more than it brought in, what is still carried included. -/
theorem metered_run (metered : Metered step allowed owner load cost income)
    {start after : State} (fresh : ∀ who, load start who = 0) {actions : List Action}
    (run : Run step allowed start actions after) :
    total cost actions + carried load (owners owner actions) after ≤ total income actions := by
  refine run_history (motive := fun actions after =>
    total cost actions + carried load (owners owner actions) after ≤ total income actions)
    ?_ ?_ run
  · simp [carried, owners]
  · intro front action before after begun kept admitted taken
    have widened : carried load (owners owner (front ++ [action])) before =
        carried load (owners owner front) before := by
      rw [owners_append]
      cases mover : owner action with
      | none => rfl
      | some who =>
          exact Finset.sum_insert_of_eq_zero_if_notMem (idle_unloaded metered fresh begun who)
    have known : ∀ who, owner action = some who → who ∈ owners owner (front ++ [action]) := by
      intro who mover
      rw [owners_append, mover]
      exact Finset.mem_insert_self who _
    have paid := carried_step metered _ admitted taken known
    rw [widened] at paid
    simp only [total_append, total_cons, total_nil]
    omega

/-- What the runs from a state cost is paid by what they bring in. -/
def Budgeted (step : Action → State → Option State) (start : State) (cost income : Action → Nat) :
    Prop :=
  ∀ actions after, Run step anyAction start actions after →
    total cost actions ≤ total income actions

theorem metered_budgeted (metered : Metered step anyAction owner load cost income) {start : State}
    (fresh : ∀ who, load start who = 0) : Budgeted step start cost income := by
  intro actions after run
  exact Nat.le_of_add_right_le (metered_run metered fresh run)

/-- No step that helps is possible. -/
def Stuck (step : Action → State → Option State) (helps : Action → Prop) (state : State) : Prop :=
  ∀ action, helps action → step action state = none

variable {helps : Action → Prop} {start after last : State} {actions more : List Action}

theorem helped_total (costly : ∀ action, helps action → 0 < cost action ∧ income action = 0)
    (run : Run step (fun action _ => helps action) start actions after) :
    actions.length ≤ total cost actions ∧ total income actions = 0 := by
  induction run with
  | refl => exact ⟨Nat.le_refl 0, rfl⟩
  | next helping _ _ ih =>
      rcases costly _ helping with ⟨priced, free⟩
      simp only [total_cons, List.length_cons]
      omega

/-- A run and the helping steps after it stay within what the run brought in. -/
theorem helped_within (budgeted : Budgeted step start cost income)
    (costly : ∀ action, helps action → 0 < cost action ∧ income action = 0)
    (run : Run step anyAction start actions after)
    (later : Run step (fun action _ => helps action) after more last) :
    total cost actions + more.length ≤ total income actions := by
  have whole := run_append run (run_weaken (fun _ _ _ => trivial) later)
  have within := budgeted _ last whole
  rcases helped_total costly later with ⟨priced, free⟩
  simp only [total_append] at within
  omega

/-- Steps that cost something and bring nothing in run out, whichever are taken. -/
theorem runs_out (budgeted : Budgeted step start cost income)
    (costly : ∀ action, helps action → 0 < cost action ∧ income action = 0)
    (run : Run step anyAction start actions after) :
    ∃ more last, Run step (fun action _ => helps action) after more last ∧
      Stuck step helps last := by
  induction left : total income actions - total cost actions using Nat.strong_induction_on
    generalizing actions after with
  | _ room ih =>
      by_cases stuck : Stuck step helps after
      · exact ⟨[], after, Run.refl after, stuck⟩
      · simp only [Stuck, not_forall, exists_prop] at stuck
        rcases stuck with ⟨action, helping, possible⟩
        rcases Option.ne_none_iff_exists'.mp possible with ⟨next, taken⟩
        have longer := run_append run (Run.next trivial taken (Run.refl next))
        have within := budgeted _ next longer
        rcases costly action helping with ⟨priced, free⟩
        simp only [total_append, total_cons, total_nil] at within
        have fewer : total income (actions ++ [action]) - total cost (actions ++ [action]) <
            room := by
          simp only [total_append, total_cons, total_nil]
          omega
        rcases ih _ fewer longer rfl with ⟨more, last, later, ended⟩
        exact ⟨action :: more, last, Run.next helping taken later, ended⟩

end Dnsix.Draining
