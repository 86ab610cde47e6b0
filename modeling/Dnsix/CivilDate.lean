import Dnsix.Ascii
import Dnsix.Calendar
import Dnsix.CheckedInts
import Mathlib.Tactic.IntervalCases

/-!
The dates of the dashboard: `civil_from_days` and the timestamps that call it. A time is
a number of nanoseconds from the Unix epoch.
-/

namespace Dnsix.CivilDate
open Ascii Calendar CheckedInts

/-! The functions of `web.rs`. -/
section Dashboard

abbrev SystemTime := Int

/-- The whole seconds since the epoch, which a time before it does not have. -/
def secondsSinceEpoch (t : SystemTime) : Option Nat :=
  if 0 ≤ t then some (t / 1000000000).toNat else none

def unixSecs (t : SystemTime) : Int :=
  match secondsSinceEpoch t with
  | some secs => asI64 secs
  | none => 0

/-- The year of a 400-year era from the day of the era. -/
def yearOfEra (doe : Int) : Option Int := do
  div (← sub (← add (← sub doe (← div doe 1460)) (← div doe 36524)) (← div doe 146096)) 365

/-- The day of a year that begins in March. -/
def dayOfYear (doe yoe : Int) : Option Int := do
  sub doe (← sub (← add (← mul 365 yoe) (← div yoe 4)) (← div yoe 100))

/-- The month and the day of the month from the day of a year that begins in March. -/
def monthAndDay (doy : Int) : Option (Nat × Nat) := do
  let mp ← div (← add (← mul 5 doy) 2) 153
  let d ← add (← sub doy (← div (← add (← mul 153 mp) 2) 5)) 1
  let m ← (if mp < 10 then add mp 3 else sub mp 9)
  some (asU32 m, asU32 d)

/-- Civil date from a day count since the Unix epoch: year, month and day. -/
def civilFromDays (z : Int) : Option (Int × Nat × Nat) := do
  let z ← add z 719468
  let below ← (if 0 ≤ z then some z else sub z 146096)
  let era ← div below 146097
  let doe ← sub z (← mul era 146097)
  let yoe ← yearOfEra doe
  let y ← add yoe (← mul era 400)
  let (m, d) ← monthAndDay (← dayOfYear doe yoe)
  let year ← add y (if m ≤ 2 then 1 else 0)
  some (year, m, d)

/-- At least `width` characters, a sign among them. -/
def zeroPadded (width : Nat) (number : Int) : Text :=
  let sign : Text := if number < 0 then ['-'] else []
  let digits := Nat.toDigits 10 number.natAbs
  sign ++ List.replicate (width - sign.length - digits.length) '0' ++ digits

def clock (rem : Int) : Text :=
  zeroPadded 2 (rem / 3600) ++ ':' :: zeroPadded 2 (rem % 3600 / 60) ++
    ':' :: zeroPadded 2 (rem % 60)

def stamp : Int × Nat × Nat → Int → Text
  | (y, m, d), rem =>
      zeroPadded 4 y ++ '-' :: zeroPadded 2 m ++ '-' :: zeroPadded 2 d ++ ' ' :: clock rem ++
        " UTC".toList

/-- Full UTC timestamp. -/
def fmtUtc (t : SystemTime) : Option Text := do
  let secs := unixSecs t
  let day ← divEuclid secs 86400
  let rem ← remEuclid secs 86400
  some (stamp (← civilFromDays day) rem)

/-- Just the wall-clock time of day in UTC. -/
def fmtClock (t : SystemTime) : Option Text := do
  some (clock (← remEuclid (unixSecs t) 86400))

end Dashboard

example : civilFromDays 20633 = some (2026, 6, 29) := by decide

/-! The divisions. -/
section Divisions

theorem era_floor (z : Int) :
    (if 0 ≤ z then z else z - 146096).tdiv 146097 = z / 146097 := by
  split
  · rename_i natural
    exact Int.tdiv_eq_ediv_of_nonneg natural
  · rw [Int.tdiv_eq_ediv, Int.sign_eq_one_of_pos (by decide)]
    split <;> omega

/-- The correction terms take the leap days out again, also on the last day of a leap
year, of a century and of the era. -/
theorem year_of_era (y doy doe : Int) (natural : 0 ≤ y) (within : y < 400) (first : 0 ≤ doy)
    (last : doy ≤ 365) (leap : doy = 365 → Leap (y + 1))
    (here : doe = 365 * y + y / 4 - y / 100 + doy) :
    (doe - doe / 1460 + doe / 36524 - doe / 146096) / 365 = y := by
  obtain ⟨c, q, k, centuries, fours, years, parts⟩ :
      ∃ c q k : Int, (0 ≤ c ∧ c < 4) ∧ (0 ≤ q ∧ q < 25) ∧ (0 ≤ k ∧ k < 4) ∧
        y = 100 * c + 4 * q + k :=
    ⟨y / 100, y % 100 / 4, y % 4, by omega, by omega, by omega, by omega⟩
  have quarters : y / 4 = 25 * c + q := by omega
  have hundreds : y / 100 = c := by omega
  have day : doe = 36524 * c + 1461 * q + 365 * k + doy := by omega
  have ended : doy = 365 → k = 3 ∧ (q < 24 ∨ c = 3) := by
    intro whole
    have turned := leap whole
    unfold Leap at turned
    omega
  have century : doe / 36524 - doe / 146096 = c := by
    by_cases short : 1461 * q + 365 * k + doy < 36524
    · have passed : doe / 36524 = c := by omega
      have inside : doe / 146096 = 0 := by omega
      omega
    · have third : c = 3 := by omega
      have beyond : doe = 146096 := by omega
      subst doe
      omega
  have days : doe - doe / 1460 + doe / 36524 - doe / 146096 =
      36500 * c + 1460 * q + 365 * k + doy - (doe / 1460 - (25 * c + q)) := by omega
  rw [days]
  -- The first term runs one ahead near the end of a cycle of four years.
  by_cases ahead : 1460 ≤ 24 * c + q + 365 * k + doy
  · have one : doe / 1460 = 25 * c + q + 1 := by omega
    omega
  · have none : doe / 1460 = 25 * c + q := by omega
    have short : doy < 365 := by omega
    omega

theorem month_of_year (mp day : Int) (first : 1 ≤ day)
    (last : (153 * mp + 2) / 5 + day ≤ (153 * (mp + 1) + 2) / 5) :
    (5 * ((153 * mp + 2) / 5 + day - 1) + 2) / 153 = mp := by
  omega

end Divisions

/-! A date counted from March 1 of the year 0: its year and month of a year that begins
in March, and its day. -/
section March

def marchYear (date : Date) : Int := if date.month ≤ 2 then date.year - 1 else date.year

def marchMonth (date : Date) : Int :=
  if date.month ≤ 2 then (date.month : Int) + 9 else (date.month : Int) - 3

def marchDay (date : Date) : Int := (153 * marchMonth date + 2) / 5 + date.day - 1

theorem march_month_range (date : Date) : 0 ≤ marchMonth date ∧ marchMonth date < 12 := by
  have monthly := date.monthly
  unfold marchMonth
  split <;> omega

/-- The months from March on are as long as the formula of the source has them. -/
theorem month_from_march (year : Int) (past : Nat) (within : past ≤ 9) :
    (153 * past + 2) / 5 + monthLength year (past + 3) = (153 * (past + 1) + 2) / 5 := by
  interval_cases past <;> rfl

theorem days_from_march (year : Int) (past : Nat) (within : past ≤ 9) :
    daysBeforeMonth year (past + 3) = 31 + monthLength year 2 + (153 * past + 2) / 5 := by
  induction past with
  | zero => rfl
  | succ past ih =>
      have longer := month_from_march year past (Nat.le_of_lt within)
      rw [days_before_next_month year (past + 3) (Nat.le_add_left 1 (past + 2)),
        ih (Nat.le_of_lt within)]
      omega

theorem february_length (year : Int) :
    monthLength year 2 ≤ 29 ∧ (monthLength year 2 = 29 ↔ Leap year) := by
  unfold monthLength
  by_cases leap : Leap year <;> simp [leap]

theorem march_number (date : Date) :
    date.number + 305 = 365 * marchYear date + marchYear date / 4 - marchYear date / 100 +
      marchYear date / 400 + marchDay date := by
  obtain ⟨year, month, day, ⟨first, last⟩, daily⟩ := date
  simp only [Date.number, marchDay, marchYear, marchMonth, daysBeforeYear]
  by_cases early : month ≤ 2
  · have before : daysBeforeMonth year month = 31 * (month - 1) := by
      interval_cases month <;> rfl
    rw [if_pos early, if_pos early, before]
    omega
  · obtain ⟨past, rfl⟩ := Nat.exists_eq_add_of_le' (show 3 ≤ month by omega)
    rw [if_neg early, if_neg early, days_from_march year past (by omega)]
    by_cases leap : Leap year
    · rw [show monthLength year 2 = 29 from if_pos leap]
      unfold Leap at leap
      omega
    · rw [show monthLength year 2 = 28 from if_neg leap]
      unfold Leap at leap
      omega

theorem march_length (date : Date) :
    (153 * marchMonth date + 2) / 5 + date.day ≤ (153 * (marchMonth date + 1) + 2) / 5 := by
  obtain ⟨year, month, day, ⟨first, last⟩, _, within⟩ := date
  simp only [marchMonth]
  by_cases early : month ≤ 2
  · rw [if_pos early]
    have february := (february_length year).1
    have january : monthLength year 1 = 31 := rfl
    interval_cases month <;> omega
  · obtain ⟨past, rfl⟩ := Nat.exists_eq_add_of_le' (show 3 ≤ month by omega)
    have longer : (153 * (past : Int) + 2) / 5 + monthLength year (past + 3) =
        (153 * (past + 1) + 2) / 5 := by
      exact_mod_cast month_from_march year past (by omega)
    have shifted : ((past + 3 : Nat) : Int) - 3 = past := by omega
    rw [if_neg early, shifted]
    omega

theorem march_day_range (date : Date) :
    0 ≤ marchDay date ∧ marchDay date ≤ 365 ∧
      (marchDay date = 365 → Leap (marchYear date + 1)) := by
  have length := march_length date
  obtain ⟨year, month, day, ⟨first, last⟩, begins, within⟩ := date
  simp only [marchDay, marchYear, marchMonth] at length ⊢
  by_cases second : month = 2
  · subst month
    obtain ⟨longest, leap⟩ := february_length year
    rw [if_pos (Nat.le_refl 2)]
    refine ⟨by omega, by omega, fun whole => ?_⟩
    rw [if_pos (Nat.le_refl 2), Int.sub_add_cancel]
    exact leap.mp (by omega)
  · have short : (if month ≤ 2 then (month : Int) + 9 else month - 3) ≤ 10 := by
      split <;> omega
    have natural : 0 ≤ (if month ≤ 2 then (month : Int) + 9 else month - 3) := by
      split <;> omega
    exact ⟨by omega, by omega, by omega⟩

end March

/-! The checked computation. -/
section Computation

theorem year_of_era_exact (doe : Int) (natural : 0 ≤ doe) (within : doe < 146097) :
    yearOfEra doe = some ((doe - doe / 1460 + doe / 36524 - doe / 146096) / 365) := by
  have fits : InI64 doe := ⟨by omega, by omega⟩
  have less : sub doe (doe / 1460) = some (doe - doe / 1460) :=
    fitted_exact _ ⟨by omega, by omega⟩
  have more : add (doe - doe / 1460) (doe / 36524) = some (doe - doe / 1460 + doe / 36524) :=
    fitted_exact _ ⟨by omega, by omega⟩
  have last : sub (doe - doe / 1460 + doe / 36524) (doe / 146096) =
      some (doe - doe / 1460 + doe / 36524 - doe / 146096) :=
    fitted_exact _ ⟨by omega, by omega⟩
  have years : div (doe - doe / 1460 + doe / 36524 - doe / 146096) 365 =
      some ((doe - doe / 1460 + doe / 36524 - doe / 146096) / 365) :=
    div_exact _ _ (by omega) ⟨by omega, by omega⟩ (by decide)
  simp only [yearOfEra, div_exact doe _ natural fits (by decide : (0 : Int) < 1460),
    div_exact doe _ natural fits (by decide : (0 : Int) < 36524),
    div_exact doe _ natural fits (by decide : (0 : Int) < 146096), Option.bind_eq_bind,
    Option.bind_some, less, more, last, years]

theorem day_of_year_exact (y doy doe : Int) (natural : 0 ≤ y) (within : y < 400)
    (first : 0 ≤ doy) (last : doy ≤ 365) (here : doe = 365 * y + y / 4 - y / 100 + doy) :
    dayOfYear doe y = some doy := by
  have fits : InI64 y := ⟨by omega, by omega⟩
  have days : mul 365 y = some (365 * y) := fitted_exact _ ⟨by omega, by omega⟩
  have leaps : add (365 * y) (y / 4) = some (365 * y + y / 4) :=
    fitted_exact _ ⟨by omega, by omega⟩
  have before : sub (365 * y + y / 4) (y / 100) = some (365 * y + y / 4 - y / 100) :=
    fitted_exact _ ⟨by omega, by omega⟩
  have rest : sub doe (365 * y + y / 4 - y / 100) = some doy := by
    rw [sub, here, add_sub_cancel_left]
    exact fitted_exact _ ⟨by omega, by omega⟩
  simp only [dayOfYear, days, div_exact y _ natural fits (by decide : (0 : Int) < 4),
    div_exact y _ natural fits (by decide : (0 : Int) < 100), leaps, before, rest,
    Option.bind_eq_bind, Option.bind_some]

theorem month_and_day_exact (date : Date) :
    monthAndDay (marchDay date) = some (date.month, date.day) := by
  have monthly := date.monthly
  have daily := date.daily
  have longest := (month_length_range date.year date.month).2
  obtain ⟨natural, within⟩ := march_month_range date
  obtain ⟨low, high, _⟩ := march_day_range date
  have month : (5 * marchDay date + 2) / 153 = marchMonth date :=
    month_of_year (marchMonth date) date.day (by omega) (march_length date)
  have times : mul 5 (marchDay date) = some (5 * marchDay date) :=
    fitted_exact _ ⟨by omega, by omega⟩
  have plus : add (5 * marchDay date) 2 = some (5 * marchDay date + 2) :=
    fitted_exact _ ⟨by omega, by omega⟩
  have found : div (5 * marchDay date + 2) 153 = some (marchMonth date) := by
    rw [div_exact _ _ (by omega) ⟨by omega, by omega⟩ (by decide), month]
  have whole : mul 153 (marchMonth date) = some (153 * marchMonth date) :=
    fitted_exact _ ⟨by omega, by omega⟩
  have shifted : add (153 * marchMonth date) 2 = some (153 * marchMonth date + 2) :=
    fitted_exact _ ⟨by omega, by omega⟩
  have before : div (153 * marchMonth date + 2) 5 = some ((153 * marchMonth date + 2) / 5) :=
    div_exact _ _ (by omega) ⟨by omega, by omega⟩ (by decide)
  have past :
      sub (marchDay date) ((153 * marchMonth date + 2) / 5) = some ((date.day : Int) - 1) := by
    have left : marchDay date - (153 * marchMonth date + 2) / 5 = date.day - 1 := by
      unfold marchDay
      omega
    rw [sub, left]
    exact fitted_exact _ ⟨by omega, by omega⟩
  have day : add ((date.day : Int) - 1) 1 = some (date.day : Int) := by
    rw [add, Int.sub_add_cancel]
    exact fitted_exact _ ⟨by omega, by omega⟩
  have named : (if marchMonth date < 10 then add (marchMonth date) 3 else sub (marchMonth date) 9) =
      some (date.month : Int) := by
    unfold marchMonth
    by_cases early : date.month ≤ 2
    · rw [if_pos early, if_neg (by omega), sub, add_sub_cancel_right]
      exact fitted_exact _ ⟨by omega, by omega⟩
    · rw [if_neg early, if_pos (by omega), add, sub_add_cancel]
      exact fitted_exact _ ⟨by omega, by omega⟩
  simp only [monthAndDay, times, plus, found, whole, shifted, before, past, day, named,
    Option.bind_eq_bind, Option.bind_some]
  rw [as_u32_exact _ (by omega) (by omega), as_u32_exact _ (by omega) (by omega)]
  rfl

/-- A day, placed in its era and in a year of it that begins in March. -/
structure Placed (date : Date) (z era yoe doe : Int) : Prop where
  year : marchYear date = 400 * era + yoe
  yoeLow : 0 ≤ yoe
  yoeHigh : yoe < 400
  days : doe = 365 * yoe + yoe / 4 - yoe / 100 + marchDay date
  doeLow : 0 ≤ doe
  doeHigh : doe < 146097
  whole : z + 719468 = 146097 * era + doe

theorem date_placed (date : Date) (z : Int) (here : date.number = z + 719163) :
    ∃ era yoe doe, Placed date z era yoe doe := by
  obtain ⟨first, last, leap⟩ := march_day_range date
  have counted := march_number date
  obtain ⟨era, yoe, year, yoeLow, yoeHigh⟩ :
      ∃ era yoe, marchYear date = 400 * era + yoe ∧ 0 ≤ yoe ∧ yoe < 400 :=
    ⟨marchYear date / 400, marchYear date % 400, by omega, by omega, by omega⟩
  have quarters : marchYear date / 4 = 100 * era + yoe / 4 := by omega
  have hundreds : marchYear date / 100 = 4 * era + yoe / 100 := by omega
  have eras : marchYear date / 400 = era := by omega
  exact ⟨era, yoe, _, year, yoeLow, yoeHigh, rfl, by omega, by omega, by omega⟩

theorem era_exact (date : Date) (z era yoe doe : Int) (low : -9223372036854775808 ≤ z)
    (room : z + 719468 ≤ 9223372036854775807) (placed : Placed date z era yoe doe) :
    ∃ below, (if 0 ≤ z + 719468 then some (z + 719468) else sub (z + 719468) 146096) = some below ∧
      div below 146097 = some era ∧ mul era 146097 = some (era * 146097) ∧
      sub (z + 719468) (era * 146097) = some doe := by
  obtain ⟨_, _, _, _, doeLow, doeHigh, whole⟩ := placed
  refine ⟨if 0 ≤ z + 719468 then z + 719468 else z + 719468 - 146096, ?_, ?_,
    fitted_exact _ ⟨by omega, by omega⟩, ?_⟩
  · split
    · rfl
    · exact fitted_exact _ ⟨by omega, by omega⟩
  · have floor : (z + 719468) / 146097 = era := by omega
    rw [div, if_neg (by decide), era_floor, floor]
    exact fitted_exact _ ⟨by omega, by omega⟩
  · have rest : z + 719468 - era * 146097 = doe := by omega
    rw [sub, rest]
    exact fitted_exact _ ⟨by omega, by omega⟩

theorem placed_year_of_era (date : Date) (z era yoe doe : Int)
    (placed : Placed date z era yoe doe) : yearOfEra doe = some yoe := by
  obtain ⟨first, last, leap⟩ := march_day_range date
  rw [year_of_era_exact doe placed.doeLow placed.doeHigh]
  refine congrArg some (year_of_era yoe (marchDay date) doe placed.yoeLow placed.yoeHigh first last
    (fun turned => ?_) placed.days)
  have century := leap turned
  rw [placed.year] at century
  unfold Leap at century ⊢
  omega

theorem year_exact (date : Date) (z era yoe doe : Int) (low : -9223372036854775808 ≤ z)
    (room : z + 719468 ≤ 9223372036854775807) (placed : Placed date z era yoe doe) :
    mul era 400 = some (era * 400) ∧ add yoe (era * 400) = some (marchYear date) ∧
      add (marchYear date) (if date.month ≤ 2 then 1 else 0) = some date.year := by
  obtain ⟨year, yoeLow, yoeHigh, _, doeLow, doeHigh, whole⟩ := placed
  have joined : yoe + era * 400 = marchYear date := by omega
  have named : marchYear date + (if date.month ≤ 2 then 1 else 0) = date.year := by
    unfold marchYear
    split <;> omega
  have near : date.year = marchYear date ∨ date.year = marchYear date + 1 := by
    rw [← named]
    split <;> omega
  rw [add, add, joined, named]
  exact ⟨fitted_exact _ ⟨by omega, by omega⟩, fitted_exact _ ⟨by omega, by omega⟩,
    fitted_exact _ ⟨by omega, by omega⟩⟩

theorem civil_exact (date : Date) (z : Int) (low : -9223372036854775808 ≤ z)
    (room : z + 719468 ≤ 9223372036854775807) (here : date.number = z + 719163) :
    civilFromDays z = some (date.year, date.month, date.day) := by
  obtain ⟨first, last, _⟩ := march_day_range date
  obtain ⟨era, yoe, doe, placed⟩ := date_placed date z here
  have shifted : add z 719468 = some (z + 719468) := fitted_exact _ ⟨by omega, room⟩
  obtain ⟨below, belowIs, eraIs, started, doeIs⟩ := era_exact date z era yoe doe low room placed
  have yoeIs := placed_year_of_era date z era yoe doe placed
  have doyIs := day_of_year_exact yoe (marchDay date) doe placed.yoeLow placed.yoeHigh first last
    placed.days
  obtain ⟨before, yearIs, named⟩ := year_exact date z era yoe doe low room placed
  simp only [civilFromDays, shifted, belowIs, eraIs, started, doeIs, yoeIs, before, yearIs, doyIs,
    month_and_day_exact, named, Option.bind_eq_bind, Option.bind_some]

theorem civil_room (z : Int) (returned : (civilFromDays z).isSome) :
    z + 719468 ≤ 9223372036854775807 := by
  obtain ⟨civil, found⟩ := Option.isSome_iff_exists.mp returned
  obtain ⟨shifted, added, _⟩ := Option.bind_eq_some_iff.mp found
  exact (fitted_some _ _ added).1.2

end Computation

/-! The dates after the Unix epoch. -/
section Epoch

def epoch : Date := newYear 1970

def civil (date : Date) : Int × Nat × Nat := (date.year, date.month, date.day)

theorem civil_from_days_after (z : Int) (low : -9223372036854775808 ≤ z)
    (room : z + 719468 ≤ 9223372036854775807) :
    civilFromDays z = some (civil (epoch.after z)) := by
  have number : (epoch.after z).number = z + 719163 := by
    rw [number_after, show epoch.number = 719163 from rfl, Int.add_comm]
  exact civil_exact (epoch.after z) z low room number

theorem day_exact (secs : Int) (fits : InI64 secs) :
    divEuclid secs 86400 = some (secs / 86400) ∧
      civilFromDays (secs / 86400) = some (civil (epoch.after (secs / 86400))) := by
  unfold InI64 at fits
  constructor
  · rw [divEuclid, if_neg (by decide)]
    exact fitted_exact _ ⟨by omega, by omega⟩
  · exact civil_from_days_after _ (by omega) (by omega)

theorem unix_secs_in (t : SystemTime) : InI64 (unixSecs t) := by
  unfold unixSecs
  cases secondsSinceEpoch t with
  | none => exact ⟨by decide, by decide⟩
  | some secs => exact as_i64_in secs

/-- Every time has a timestamp, with the date of its day and the clock of the rest. -/
theorem fmt_utc_date (t : SystemTime) :
    fmtUtc t = some (stamp (civil (epoch.after (unixSecs t / 86400))) (unixSecs t % 86400)) := by
  have fits := unix_secs_in t
  obtain ⟨dayIs, civilIs⟩ := day_exact (unixSecs t) fits
  have remIs : remEuclid (unixSecs t) 86400 = some (unixSecs t % 86400) := by
    rw [remEuclid, if_neg (by decide)]
    exact fitted_exact _ ⟨by omega, by omega⟩
  simp only [fmtUtc, dayIs, remIs, civilIs, Option.bind_eq_bind, Option.bind_some]

theorem civil_from_days_gregorian :
    (∀ z, InI64 z → ((civilFromDays z).isSome ↔ z + 719468 ≤ 9223372036854775807)) ∧
    (∀ z result, InI64 z → civilFromDays z = some result → result = civil (epoch.after z)) ∧
    civilFromDays 0 = some (1970, 1, 1) ∧
    (∀ z result later, InI64 z → civilFromDays z = some result →
      civilFromDays (z + 1) = some later →
        ∃ date : Date, result = civil date ∧ later = civil date.next) ∧
    ∀ t, ∃ day, divEuclid (unixSecs t) 86400 = some day ∧ (civilFromDays day).isSome := by
  have exact_ : ∀ z, InI64 z → ∀ result, civilFromDays z = some result →
      result = civil (epoch.after z) := by
    intro z fits result found
    have room := civil_room z (Option.isSome_iff_exists.mpr ⟨result, found⟩)
    rw [civil_from_days_after z fits.1 room, Option.some.injEq] at found
    exact found.symm
  refine ⟨?_, fun z result fits => exact_ z fits result, by decide, ?_, ?_⟩
  · intro z fits
    refine ⟨civil_room z, fun room => ?_⟩
    rw [civil_from_days_after z fits.1 room, Option.isSome_some]
  · intro z result later fits found next
    have room := civil_room (z + 1) (Option.isSome_iff_exists.mpr ⟨later, next⟩)
    have after : InI64 (z + 1) := ⟨by unfold InI64 at fits; omega, by omega⟩
    refine ⟨epoch.after z, exact_ z fits result found, ?_⟩
    rw [← after_next]
    exact exact_ (z + 1) after later next
  · intro t
    obtain ⟨dayIs, civilIs⟩ := day_exact (unixSecs t) (unix_secs_in t)
    exact ⟨_, dayIs, by rw [civilIs, Option.isSome_some]⟩

end Epoch

end Dnsix.CivilDate
