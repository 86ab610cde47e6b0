import Dnsix.Panics

/-!
Alternatives tried in order until one answers. Each attempt may change a state,
also when it answers nothing, and the next attempt goes on from there.
-/

namespace Dnsix.FirstAnswer
open Panics
variable {Item State Answer : Type}

def firstAnswer (attempt : Item → State → Checked (Option Answer × State)) :
    List Item → State → Checked (Option Answer × State)
  | [], state => .ok (none, state)
  | item :: rest, state => do
      match ← attempt item state with
      | (some answer, after) => .ok (some answer, after)
      | (none, after) => firstAnswer attempt rest after

variable {attempt : Item → State → Checked (Option Answer × State)}

variable (attempt) in
/-- Attempts that all answer nothing, from the first state to the last. -/
inductive Barren : List Item → State → State → Prop
  | nil (state : State) : Barren [] state state
  | cons (item : Item) (rest : List Item) (state middle after : State)
      (nothing : attempt item state = .ok (none, middle)) (others : Barren rest middle after) :
      Barren (item :: rest) state after

theorem first_answer_won (item : Item) (rest : List Item) (state after : State)
    (answer : Answer) (won : attempt item state = .ok (some answer, after)) :
    firstAnswer attempt (item :: rest) state = .ok (some answer, after) := by
  rw [firstAnswer, won]
  rfl

theorem first_answer_passed (item : Item) (rest : List Item) (state after : State)
    (nothing : attempt item state = .ok (none, after)) :
    firstAnswer attempt (item :: rest) state = firstAnswer attempt rest after := by
  rw [firstAnswer, nothing]
  rfl

theorem first_answer_panicked (item : Item) (rest : List Item) (state : State) (panic : Panic)
    (failed : attempt item state = .error panic) :
    firstAnswer attempt (item :: rest) state = .error panic := by
  rw [firstAnswer, failed]
  rfl

/-- The loop gets past a barren beginning. -/
theorem barren_skipped (before : List Item) (rest : List Item) (state middle : State)
    (barren : Barren attempt before state middle) :
    firstAnswer attempt (before ++ rest) state = firstAnswer attempt rest middle := by
  induction barren with
  | nil state => rfl
  | cons item others state middle after nothing _ ih =>
      rw [List.cons_append, first_answer_passed item _ state middle nothing]
      exact ih

theorem first_answer_none_iff (items : List Item) (state after : State) :
    firstAnswer attempt items state = .ok (none, after) ↔ Barren attempt items state after := by
  constructor
  · intro returned
    induction items generalizing state with
    | nil =>
        cases returned
        exact .nil _
    | cons item rest ih =>
        cases tried : attempt item state with
        | error panic =>
            rw [first_answer_panicked item rest state panic tried] at returned
            cases returned
        | ok pair =>
            rcases pair with ⟨answer, middle⟩
            cases answer with
            | some found =>
                rw [first_answer_won item rest state middle found tried] at returned
                cases returned
            | none =>
                rw [first_answer_passed item rest state middle tried] at returned
                exact .cons item rest state middle after tried (ih middle returned)
  · intro barren
    have skipped := barren_skipped items [] state after barren
    rw [List.append_nil] at skipped
    rw [skipped]
    rfl

theorem first_answer_some_iff (items : List Item) (state after : State) (answer : Answer) :
    firstAnswer attempt items state = .ok (some answer, after) ↔
      ∃ before item rest middle, items = before ++ item :: rest ∧
        Barren attempt before state middle ∧ attempt item middle = .ok (some answer, after) := by
  constructor
  · intro returned
    induction items generalizing state with
    | nil => cases returned
    | cons item rest ih =>
        cases tried : attempt item state with
        | error panic =>
            rw [first_answer_panicked item rest state panic tried] at returned
            cases returned
        | ok pair =>
            rcases pair with ⟨first, middle⟩
            cases first with
            | some found =>
                rw [first_answer_won item rest state middle found tried] at returned
                cases returned
                exact ⟨[], item, rest, state, rfl, .nil state, tried⟩
            | none =>
                rw [first_answer_passed item rest state middle tried] at returned
                rcases ih middle returned with ⟨before, winner, others, last, split, barren, won⟩
                refine ⟨item :: before, winner, others, last, ?_, ?_, won⟩
                · rw [split, List.cons_append]
                · exact .cons item before state middle last tried barren
  · rintro ⟨before, item, rest, middle, split, barren, won⟩
    rw [split, barren_skipped before _ state middle barren]
    exact first_answer_won item rest middle after answer won

theorem first_answer_completes (items : List Item) (state : State)
    (completes : ∀ item ∈ items, ∀ state, Completes (attempt item state)) :
    Completes (firstAnswer attempt items state) := by
  induction items generalizing state with
  | nil => exact completes_ok _
  | cons item rest ih =>
      refine ensures_bind (completes item List.mem_cons_self state) fun pair _ => ?_
      rcases pair with ⟨answer, after⟩
      cases answer with
      | some found => exact completes_ok _
      | none =>
          exact ih after fun other listed => completes other (List.mem_cons_of_mem item listed)

end Dnsix.FirstAnswer
