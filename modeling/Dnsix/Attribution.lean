import Dnsix.Transition
import Mathlib.Algebra.BigOperators.Group.Finset.Piecewise

/-!
Whose steps a counter was raised by. In a transition system where an action may
belong to an owner, every counter that only the owners' steps raise is the sum of
what each of them has spent.
-/

namespace Dnsix.Attribution
open Transition

universe u v w
variable {State : Type u} {Action : Type v} {Owner : Type w} [DecidableEq Owner]
variable {step : Action → State → Option State} {allowed : Action → State → Prop}
variable {owner : Action → Option Owner} {read : State → Nat}

variable (step owner read) in
/-- What the actions of `who` add to the counter, from `state` on. -/
def spent (who : Owner) : List Action → State → Nat
  | [], _ => 0
  | action :: rest, state =>
      match step action state with
      | none => 0
      | some after =>
          (if owner action = some who then read after - read state else 0) + spent who rest after

variable (owner) in
def owners (actions : List Action) : Finset Owner := (actions.filterMap owner).toFinset

theorem spent_append (who : Owner) {start before after : State} {front : List Action}
    {action : Action} (run : Run step allowed start front before)
    (taken : step action before = some after) :
    spent step owner read who (front ++ [action]) start =
      spent step owner read who front start +
        if owner action = some who then read after - read before else 0 := by
  induction run with
  | refl => simp [spent, taken]
  | next _ moved _ ih =>
      rw [List.cons_append, spent, spent, moved]
      simp only [ih taken, Nat.add_assoc]

theorem owners_append (front : List Action) (action : Action) :
    owners owner (front ++ [action]) =
      match owner action with
      | some who => insert who (owners owner front)
      | none => owners owner front := by
  cases mover : owner action with
  | none => simp [owners, List.filterMap_append, mover]
  | some who =>
      ext other
      simp [owners, List.filterMap_append, mover]

/-- Who has not moved has spent nothing. -/
theorem spent_idle (who : Owner) (actions : List Action) (state : State)
    (idle : who ∉ owners owner actions) : spent step owner read who actions state = 0 := by
  induction actions generalizing state with
  | nil => rfl
  | cons action rest ih =>
      have other : owner action ≠ some who := by
        intro same
        exact idle (by simp [owners, same])
      have later : who ∉ owners owner rest := by
        intro moved
        apply idle
        rw [owners, List.mem_toFinset, List.mem_filterMap] at moved ⊢
        rcases moved with ⟨mover, listed, same⟩
        exact ⟨mover, List.mem_cons_of_mem _ listed, same⟩
      rw [spent]
      split
      · rfl
      · simp only [other, if_false, Nat.zero_add]
        exact ih _ later

variable (read) in
/-- The counter is what it started at and what everyone who moved has spent. -/
theorem read_total (grows : ∀ action before after, allowed action before →
      step action before = some after → read before ≤ read after)
    (owned : ∀ action before after, allowed action before → step action before = some after →
      owner action = none → read after = read before)
    {start after : State} {actions : List Action} (run : Run step allowed start actions after) :
    read after = read start + ∑ who ∈ owners owner actions,
      spent step owner read who actions start := by
  refine run_history (motive := fun actions after => read after = read start +
    ∑ who ∈ owners owner actions, spent step owner read who actions start) ?_ ?_ run
  · simp [owners]
  · intro front action before after begun total admitted taken
    have more := grows action before after admitted taken
    simp only [spent_append _ begun taken, owners_append]
    cases mover : owner action with
    | none =>
        simp only [reduceCtorEq, if_false, Nat.add_zero]
        rw [owned action before after admitted taken mover]
        exact total
    | some first =>
        have widened : ∑ who ∈ insert first (owners owner front),
            spent step owner read who front start =
            ∑ who ∈ owners owner front, spent step owner read who front start := by
          refine Finset.sum_insert_of_eq_zero_if_notMem ?_
          exact spent_idle first front start
        simp only [Option.some.injEq]
        rw [Finset.sum_add_distrib, widened, Finset.sum_ite_eq,
          if_pos (Finset.mem_insert_self first _)]
        omega

end Dnsix.Attribution
