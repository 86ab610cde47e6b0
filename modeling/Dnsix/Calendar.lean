import Mathlib.Algebra.Group.End
import Mathlib.Algebra.Group.Int.Defs
import Mathlib.Algebra.GroupWithZero.Nat

/-!
The proleptic Gregorian calendar. A date is a day of a month of a year, counted on
without end in both directions, so that the dates after and before a date by any whole
number of days are the powers of one permutation.
-/

namespace Dnsix.Calendar

/-- A year divisible by four, with the centuries left out that 400 does not divide. -/
def Leap (year : Int) : Prop := year % 4 = 0 ∧ (year % 100 ≠ 0 ∨ year % 400 = 0)

instance (year : Int) : Decidable (Leap year) :=
  inferInstanceAs (Decidable (_ ∧ _))

def monthLength (year : Int) : Nat → Nat
  | 2 => if Leap year then 29 else 28
  | 4 | 6 | 9 | 11 => 30
  | _ => 31

@[ext] structure Date where
  year : Int
  month : Nat
  day : Nat
  monthly : 1 ≤ month ∧ month ≤ 12
  daily : 1 ≤ day ∧ day ≤ monthLength year month
  deriving DecidableEq

theorem month_length_range (year : Int) (month : Nat) :
    28 ≤ monthLength year month ∧ monthLength year month ≤ 31 := by
  unfold monthLength
  split
  · split <;> decide
  all_goals decide

theorem month_length_pos (year : Int) (month : Nat) : 1 ≤ monthLength year month :=
  Nat.le_trans (by decide) (month_length_range year month).1

def newYear (year : Int) : Date :=
  ⟨year, 1, 1, ⟨by decide, by decide⟩, Nat.le_refl _, month_length_pos _ _⟩

/-! The dates around a date. -/
section Succession

def Date.next (date : Date) : Date :=
  if inside : date.day < monthLength date.year date.month then
    ⟨date.year, date.month, date.day + 1, date.monthly, Nat.le_add_left _ _, inside⟩
  else if early : date.month < 12 then
    ⟨date.year, date.month + 1, 1, ⟨Nat.le_add_left _ _, early⟩, Nat.le_refl _,
      month_length_pos _ _⟩
  else newYear (date.year + 1)

def Date.previous (date : Date) : Date :=
  if inside : 1 < date.day then
    ⟨date.year, date.month, date.day - 1, date.monthly, Nat.le_sub_one_of_lt inside,
      Nat.le_trans (Nat.sub_le _ _) date.daily.2⟩
  else if late : 1 < date.month then
    ⟨date.year, date.month - 1, monthLength date.year (date.month - 1),
      ⟨Nat.le_sub_one_of_lt late, Nat.le_trans (Nat.sub_le _ _) date.monthly.2⟩,
      month_length_pos _ _, Nat.le_refl _⟩
  else
    ⟨date.year - 1, 12, monthLength (date.year - 1) 12, ⟨by decide, by decide⟩,
      month_length_pos _ _, Nat.le_refl _⟩

theorem previous_next (date : Date) : date.next.previous = date := by
  obtain ⟨year, month, day, monthly, daily⟩ := date
  unfold Date.next
  split
  · have later : 1 < day + 1 := Nat.lt_add_of_pos_left daily.1
    simp [Date.previous, later]
  · rename_i ended
    have last : day = monthLength year month := Nat.le_antisymm daily.2 (Nat.le_of_not_lt ended)
    subst day
    dsimp only
    split
    · have later : 1 < month + 1 := Nat.lt_add_of_pos_left monthly.1
      simp [Date.previous, later]
    · rename_i late
      have december : month = 12 := Nat.le_antisymm monthly.2 (Nat.le_of_not_lt late)
      subst month
      simp [Date.previous, newYear]

theorem next_previous (date : Date) : date.previous.next = date := by
  obtain ⟨year, month, day, monthly, daily⟩ := date
  unfold Date.previous
  split
  · rename_i inside
    have before : day - 1 < monthLength year month :=
      Nat.lt_of_lt_of_le (Nat.sub_lt daily.1 Nat.one_pos) daily.2
    simp [Date.next, before, Nat.sub_add_cancel daily.1]
  · rename_i first
    have opens : day = 1 := Nat.le_antisymm (Nat.le_of_not_lt first) daily.1
    subst day
    dsimp only
    split
    · have early : month - 1 < 12 :=
        Nat.lt_of_lt_of_le (Nat.sub_lt monthly.1 Nat.one_pos) monthly.2
      simp [Date.next, early, Nat.sub_add_cancel monthly.1]
    · rename_i early
      have january : month = 1 := Nat.le_antisymm (Nat.le_of_not_lt early) monthly.1
      subst month
      simp [Date.next, newYear]

/-- The dates count on: its `z`-th power leads `z` days further. -/
def succession : Equiv.Perm Date where
  toFun := Date.next
  invFun := Date.previous
  left_inv := previous_next
  right_inv := next_previous

def Date.after (date : Date) (days : Int) : Date := (succession ^ days) date

theorem after_zero (date : Date) : date.after 0 = date := rfl

theorem after_next (date : Date) (days : Int) : date.after (days + 1) = (date.after days).next := by
  unfold Date.after
  rw [Int.add_comm, zpow_one_add, Equiv.Perm.mul_apply]
  rfl

end Succession

/-! The number of a date, counted from the day before January 1 of the year 1. -/
section Numbers

def daysBeforeYear (year : Int) : Int :=
  365 * (year - 1) + (year - 1) / 4 - (year - 1) / 100 + (year - 1) / 400

def daysBeforeMonth (year : Int) (month : Nat) : Nat :=
  ((List.range (month - 1)).map fun before => monthLength year (before + 1)).sum

def Date.number (date : Date) : Int :=
  daysBeforeYear date.year + daysBeforeMonth date.year date.month + date.day

theorem days_before_next_month (year : Int) (month : Nat) (monthly : 1 ≤ month) :
    daysBeforeMonth year (month + 1) = daysBeforeMonth year month + monthLength year month := by
  obtain ⟨before, rfl⟩ := Nat.exists_eq_add_of_le' monthly
  simp [daysBeforeMonth, List.range_succ]

theorem days_before_next_year (year : Int) :
    daysBeforeYear (year + 1) = daysBeforeYear year + daysBeforeMonth year 13 := by
  have whole : (daysBeforeMonth year 13 : Int) = if Leap year then 366 else 365 := by
    by_cases leap : Leap year <;> simp [daysBeforeMonth, List.range_succ, monthLength, leap]
  rw [whole]
  unfold daysBeforeYear
  by_cases leap : Leap year
  · rw [if_pos leap]
    unfold Leap at leap
    omega
  · rw [if_neg leap]
    unfold Leap at leap
    omega

theorem number_next (date : Date) : date.next.number = date.number + 1 := by
  obtain ⟨year, month, day, monthly, daily⟩ := date
  have turned := days_before_next_month year month monthly.1
  unfold Date.next
  split
  · simp only [Date.number]
    omega
  · rename_i ended
    dsimp only at ended ⊢
    split
    · simp only [Date.number]
      omega
    · rename_i late
      have december : month = 12 := Nat.le_antisymm monthly.2 (Nat.le_of_not_lt late)
      subst month
      have wrapped := days_before_next_year year
      have none : daysBeforeMonth (year + 1) 1 = 0 := rfl
      simp only [Date.number, newYear]
      rw [turned] at wrapped
      omega

theorem number_after (date : Date) (days : Int) :
    (date.after days).number = date.number + days := by
  induction days using Int.induction_on with
  | zero => rw [after_zero, Int.add_zero]
  | succ days ih =>
      rw [after_next, number_next, ih]
      omega
  | pred days ih =>
      have back := after_next date (-days - 1)
      rw [Int.sub_add_cancel] at back
      rw [back, number_next] at ih
      omega

end Numbers

end Dnsix.Calendar
