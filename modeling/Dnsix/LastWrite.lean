import Mathlib.Data.List.Induction
import Mathlib.Logic.Function.Basic

/-!
A map written and dropped key by key. A history replays into the map it leaves
behind; independently of any map, `latest` picks the last write to a key. Drops
may happen anywhere, so the map may have lost a key, but what it still holds is
always the latest write.
-/

namespace Dnsix.LastWrite

universe u v
variable {Key : Type u} {Value : Type v} [DecidableEq Key]

inductive Event (Key : Type u) (Value : Type v) where
  | write (key : Key) (value : Value)
  | drop (key : Key)

def apply (map : Key → Option Value) : Event Key Value → Key → Option Value
  | .write key value => Function.update map key (some value)
  | .drop key => Function.update map key none

def replay (map : Key → Option Value) (history : List (Event Key Value)) : Key → Option Value :=
  history.foldl apply map

def writeTo (key : Key) : Event Key Value → Option Value
  | .write written value => if written = key then some value else none
  | .drop _ => none

def latest (key : Key) (history : List (Event Key Value)) : Option Value :=
  (history.filterMap (writeTo key)).getLast?

/-- What a map holds after a write is what was written, or was held under another key. -/
theorem update_some {map after : Key → Option Value} {key other : Key} {written value : Value}
    (wrote : after = Function.update map key (some written)) (held : after other = some value) :
    (other = key ∧ value = written) ∨ (other ≠ key ∧ map other = some value) := by
  by_cases same : other = key
  · rw [wrote, same, Function.update_self, Option.some.injEq] at held
    exact .inl ⟨same, held.symm⟩
  · rw [wrote, Function.update_of_ne same] at held
    exact .inr ⟨same, held⟩

theorem latest_append (key : Key) (history : List (Event Key Value)) (event : Event Key Value) :
    latest key (history ++ [event]) = (writeTo key event).or (latest key history) := by
  cases written : writeTo key event with
  | none => simp [latest, List.filterMap_append, written]
  | some value => simp [latest, List.filterMap_append, written]

/-- Whatever the map still holds under a key is the latest write to it. -/
theorem replay_latest (history : List (Event Key Value)) (key : Key) (value : Value)
    (held : replay (fun _ => none) history key = some value) :
    latest key history = some value := by
  induction history using List.reverseRecOn with
  | nil => simp [replay] at held
  | append_singleton history event ih =>
      rw [latest_append]
      simp only [replay, List.foldl_append, List.foldl_cons, List.foldl_nil] at held ih
      cases event with
      | write written stored =>
          by_cases same : written = key
          · subst written
            simpa [apply, writeTo] using held
          · have kept := ih (by simpa [apply, Function.update_of_ne (Ne.symm same)] using held)
            simp [writeTo, same, kept]
      | drop dropped =>
          by_cases same : dropped = key
          · subst dropped
            simp [apply] at held
          · have kept := ih (by simpa [apply, Function.update_of_ne (Ne.symm same)] using held)
            simp [writeTo, kept]

end Dnsix.LastWrite
