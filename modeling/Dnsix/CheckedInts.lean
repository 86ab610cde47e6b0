import Mathlib.Data.Int.Notation

/-!
Signed 64-bit arithmetic on the integers, checked: an operation whose result does not fit
has none. A conversion keeps the low bits.
-/

namespace Dnsix.CheckedInts

def InI64 (number : Int) : Prop :=
  -9223372036854775808 ≤ number ∧ number ≤ 9223372036854775807

instance (number : Int) : Decidable (InI64 number) :=
  inferInstanceAs (Decidable (_ ∧ _))

def fitted (number : Int) : Option Int := if InI64 number then some number else none

def add (left right : Int) : Option Int := fitted (left + right)

def sub (left right : Int) : Option Int := fitted (left - right)

def mul (left right : Int) : Option Int := fitted (left * right)

/-- Division drops the fraction, of a negative quotient too. -/
def div (left right : Int) : Option Int :=
  if right = 0 then none else fitted (left.tdiv right)

/-- Division whose remainder is never negative. -/
def divEuclid (left right : Int) : Option Int :=
  if right = 0 then none else fitted (left / right)

def remEuclid (left right : Int) : Option Int :=
  if right = 0 then none else fitted (left % right)

def asI64 (number : Int) : Int :=
  (number + 9223372036854775808) % 18446744073709551616 - 9223372036854775808

def asU32 (number : Int) : Nat := (number % 4294967296).toNat

theorem fitted_exact (number : Int) (fits : InI64 number) : fitted number = some number :=
  if_pos fits

theorem fitted_some (number result : Int) (same : fitted number = some result) :
    InI64 number ∧ result = number := by
  unfold fitted at same
  split at same
  · rename_i fits
    exact ⟨fits, (Option.some.inj same).symm⟩
  · cases same

/-- A quotient of natural numbers fits where the dividend does. -/
theorem div_exact (left right : Int) (natural : 0 ≤ left) (fits : InI64 left)
    (positive : 0 < right) : div left right = some (left / right) := by
  have smaller := Int.ediv_le_self right natural
  have quotient := Int.ediv_nonneg natural (Int.le_of_lt positive)
  unfold InI64 at fits
  unfold div
  rw [if_neg (Int.ne_of_gt positive), Int.tdiv_eq_ediv_of_nonneg natural]
  exact fitted_exact _ ⟨by omega, by omega⟩

theorem as_i64_in (number : Int) : InI64 (asI64 number) := by
  unfold InI64 asI64
  omega

theorem as_u32_exact (number : Int) (natural : 0 ≤ number) (small : number < 4294967296) :
    asU32 number = number.toNat := by
  rw [asU32, Int.emod_eq_of_lt natural small]

end Dnsix.CheckedInts
