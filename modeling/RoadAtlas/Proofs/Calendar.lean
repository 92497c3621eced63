import Mathlib.Tactic.IntervalCases
import RoadAtlas.Time.Timestamp

/-!
# The calendar

`civilFromDays` and `daysFromCivil` count days in eras of 400 years (146097 days) with years
beginning in March, so that the leap day is the last day of a year. This module proves that the
two are inverse bijections between day counts and valid dates, for every integer and every date,
and from it that `Civil.ofSeconds` and `Civil.toSeconds` are inverse bijections between second
counts and valid civil times.

Inside an era, the day `doe` falls on the day `D` of the year `Y` (`Era.Split`): the arithmetic
of `civilFromDays` finds that year through `Era.yearOf`. Writing `Y = 100 c + 4 a + b`, the days
before it are `36524 c + 1461 a + 365 b` (`Era.daysBefore_cycle`), and `Era.yearOf_cycle` checks
the formula on that form, where each of its four divisions has a value one can name. The months of
a year are read the same way (`Era.monthOf`, `Era.monthStart`).

## Main results

* `civilFromDays_spec`, `daysFromCivil_spec`: the era, year and day of both functions.
* `civilFromDays_valid`, `daysFromCivil_civilFromDays`, `civilFromDays_daysFromCivil`: the
  bijection.
* `one_le_year_civilFromDays_iff`, `year_civilFromDays_le_iff`: the day counts of the years
  `1 ..= 9999`.
* `Civil.toSeconds_ofSeconds`, `Civil.valid_ofSeconds`, `Civil.ofSeconds_toSeconds`,
  `Civil.inRange_ofSeconds_iff`: the same for seconds.
-/

namespace RoadAtlas

/-- A date of the calendar: a month of the year and a day of that month. -/
structure DateValid (y : Int) (m d : Nat) : Prop where
  month_pos : 1 ≤ m
  month_le : m ≤ 12
  day_pos : 1 ≤ d
  day_le : d ≤ monthDays y m

/-- A civil time of the calendar: a valid date, a time of day and its microseconds. -/
structure Civil.Valid (c : Civil) : Prop where
  date : DateValid c.year c.month c.day
  hour_lt : c.hour < 24
  minute_lt : c.minute < 60
  second_lt : c.second < 60
  micro_lt : c.micro < 1000000

/-- The leap years repeat every 400 years. -/
theorem isLeap_add_400 (y k : Int) : isLeap (y + 400 * k) = isLeap y := by
  rw [Bool.eq_iff_iff, isLeap_iff, isLeap_iff]
  omega

namespace Era

/-! ## Years of an era -/

/-- The days of an era before its year `Y`. -/
def daysBefore (Y : Int) : Int := 365 * Y + Y / 4 - Y / 100

/-- The days of the year `Y` of an era, which ends with the February of the calendar year
`Y + 1`. -/
def yearLength (Y : Int) : Int := if isLeap (Y + 1) then 366 else 365

theorem yearLength_bounds (Y : Int) : 365 ≤ yearLength Y ∧ yearLength Y ≤ 366 := by
  unfold yearLength
  split <;> omega

/-- The year of an era in which its day `doe` falls, as `civilFromDays` computes it. -/
def yearOf (doe : Int) : Int := (doe - doe / 1460 + doe / 36524 - doe / 146096) / 365

/-- The day `doe` of an era is the day `D` of its year `Y`. -/
structure Split (doe Y D : Int) : Prop where
  year_nonneg : 0 ≤ Y
  year_lt : Y < 400
  day_nonneg : 0 ≤ D
  day_lt : D < yearLength Y
  eq : doe = daysBefore Y + D

section Cycle

variable {c a b : Int} (hc0 : 0 ≤ c) (hc : c ≤ 3) (ha0 : 0 ≤ a) (ha : a ≤ 24) (hb0 : 0 ≤ b)
  (hb : b ≤ 3)

include ha0 ha hb0 hb in
/-- The year `100 c + 4 a + b` of an era starts after `c` centuries of 36524 days, `a` cycles
of 1461 days and `b` years of 365 days. -/
theorem daysBefore_cycle : daysBefore (100 * c + 4 * a + b) = 36524 * c + 1461 * a + 365 * b := by
  unfold daysBefore
  omega

include hc0 hc ha0 ha hb0 hb in
/-- Only the last year of a cycle of four ends with a leap day, and of those the last of a
century only in the last century of the era. -/
theorem yearLength_cycle :
    yearLength (100 * c + 4 * a + b) = if b = 3 ∧ (a ≠ 24 ∨ c = 3) then 366 else 365 := by
  unfold yearLength
  by_cases hLeap : b = 3 ∧ (a ≠ 24 ∨ c = 3)
  · rw [if_pos hLeap, if_pos ((isLeap_iff _).mpr (by omega))]
  · rw [if_neg hLeap, if_neg (fun h => hLeap (by rw [isLeap_iff] at h; omega))]

include hc0 hc ha0 ha hb0 hb in
/-- The formula of `civilFromDays` finds the year of every day of an era. Each of its divisions
is `0` or `1` away from the count of whole cycles, and naming those three offsets leaves a
question of linear arithmetic. -/
theorem yearOf_cycle {D : Int} (hD0 : 0 ≤ D) (hD : D < yearLength (100 * c + 4 * a + b)) :
    yearOf (36524 * c + 1461 * a + 365 * b + D) = 100 * c + 4 * a + b := by
  rw [yearLength_cycle hc0 hc ha0 ha hb0 hb] at hD
  unfold yearOf
  have h1 : (36524 * c + 1461 * a + 365 * b + D) / 1460 =
      (24 * c + a + 365 * b + D) / 1460 + (25 * c + a) := by
    rw [← Int.add_mul_ediv_right _ _ (by decide)]
    congr 1
    omega
  have h2 : (36524 * c + 1461 * a + 365 * b + D) / 36524 = (1461 * a + 365 * b + D) / 36524 + c := by
    rw [← Int.add_mul_ediv_right _ _ (by decide)]
    congr 1
    omega
  rw [h1, h2]
  generalize hp : (24 * c + a + 365 * b + D) / 1460 = p
  generalize hq : (1461 * a + 365 * b + D) / 36524 = q
  generalize hr : (36524 * c + 1461 * a + 365 * b + D) / 146096 = r
  have hpb : 1460 * p ≤ 24 * c + a + 365 * b + D ∧ 24 * c + a + 365 * b + D < 1460 * (p + 1) := by
    rw [← hp]
    omega
  have hqb : 36524 * q ≤ 1461 * a + 365 * b + D ∧ 1461 * a + 365 * b + D < 36524 * (q + 1) := by
    rw [← hq]
    omega
  have hrb : 146096 * r ≤ 36524 * c + 1461 * a + 365 * b + D ∧
      36524 * c + 1461 * a + 365 * b + D < 146096 * (r + 1) := by
    rw [← hr]
    omega
  -- the day of the year, once the three offsets are taken off
  have hDay : 0 ≤ D - p + q - r ∧ D - p + q - r < 365 := by
    clear h1 h2 hp hq hr
    have hp1 : p ≤ 1 := by omega
    have hq1 : q ≤ 1 := by omega
    have hr1 : r ≤ 1 := by omega
    have hp0 : 0 ≤ p := by omega
    have hq0 : 0 ≤ q := by omega
    have hr0 : 0 ≤ r := by omega
    interval_cases p <;> interval_cases q <;> interval_cases r <;> split at hD <;> omega
  have hSum : 36524 * c + 1461 * a + 365 * b + D - (p + (25 * c + a)) + (q + c) - r =
      (D - p + q - r) + (100 * c + 4 * a + b) * 365 := by
    omega
  rw [hSum, Int.add_mul_ediv_right _ _ (by decide), Int.ediv_eq_zero_of_lt hDay.1 hDay.2,
    Int.zero_add]

end Cycle

/-- A year of an era written by its centuries, cycles of four years and years. -/
theorem exists_cycle {Y : Int} (h0 : 0 ≤ Y) (h1 : Y < 400) :
    ∃ c a b, 0 ≤ c ∧ c ≤ 3 ∧ 0 ≤ a ∧ a ≤ 24 ∧ 0 ≤ b ∧ b ≤ 3 ∧ Y = 100 * c + 4 * a + b :=
  ⟨Y / 100, Y % 100 / 4, Y % 4, by omega, by omega, by omega, by omega, by omega, by omega,
    by omega⟩

theorem yearOf_of_split {doe Y D : Int} (h : Split doe Y D) : yearOf doe = Y := by
  obtain ⟨h0, h1, hD0, hD, rfl⟩ := h
  obtain ⟨c, a, b, hc0, hc, ha0, ha, hb0, hb, rfl⟩ := exists_cycle h0 h1
  rw [daysBefore_cycle ha0 ha hb0 hb]
  exact yearOf_cycle hc0 hc ha0 ha hb0 hb hD0 hD

/-- Every day of an era falls in one of its years. -/
theorem exists_split {doe : Int} (h0 : 0 ≤ doe) (h1 : doe < 146097) : ∃ Y D, Split doe Y D := by
  by_cases hLast : doe = 146096
  · -- the leap day that ends the era
    subst hLast
    exact ⟨399, 365, by decide, by decide, by decide, by decide, by decide⟩
  · -- whole centuries, whole cycles of four years, then whole years, the last year of a cycle
    -- taking the leap day
    refine ⟨100 * (doe / 36524) + 4 * (doe % 36524 / 1461) + min (doe % 36524 % 1461 / 365) 3,
      doe % 36524 % 1461 - 365 * min (doe % 36524 % 1461 / 365) 3, ?_⟩
    have hc0 : 0 ≤ doe / 36524 := by omega
    have hc : doe / 36524 ≤ 3 := by omega
    have ha0 : 0 ≤ doe % 36524 / 1461 := by omega
    have ha : doe % 36524 / 1461 ≤ 24 := by omega
    have hb0 : 0 ≤ min (doe % 36524 % 1461 / 365) 3 := by omega
    have hb : min (doe % 36524 % 1461 / 365) 3 ≤ 3 := by omega
    refine ⟨by omega, by omega, by omega, ?_, ?_⟩
    · rw [yearLength_cycle hc0 hc ha0 ha hb0 hb]
      split <;> omega
    · rw [daysBefore_cycle ha0 ha hb0 hb]
      omega

/-- The year that `yearOf` finds, and the day in it. -/
theorem split_yearOf {doe : Int} (h0 : 0 ≤ doe) (h1 : doe < 146097) :
    Split doe (yearOf doe) (doe - daysBefore (yearOf doe)) := by
  obtain ⟨Y, D, hSplit⟩ := exists_split h0 h1
  rw [yearOf_of_split hSplit]
  obtain rfl : D = doe - daysBefore Y := by
    have := hSplit.eq
    omega
  exact hSplit

/-- One day of an era has one year and one day in it. -/
theorem Split.unique {doe Y D Y' D' : Int} (h : Split doe Y D) (h' : Split doe Y' D') :
    Y = Y' ∧ D = D' := by
  have hY : Y = Y' := (yearOf_of_split h).symm.trans (yearOf_of_split h')
  subst hY
  exact ⟨rfl, by have := h.eq; have := h'.eq; omega⟩

/-- The days of an era are `0 ..= 146096`. -/
theorem Split.bounds {doe Y D : Int} (h : Split doe Y D) : 0 ≤ doe ∧ doe < 146097 := by
  obtain ⟨h0, h1, hD0, hD, rfl⟩ := h
  have hLen := yearLength_bounds Y
  unfold daysBefore
  omega

/-- The years of an era follow each other, the last one taking the extra day of the era. -/
theorem daysBefore_add_yearLength {Y : Int} (h0 : 0 ≤ Y) (h1 : Y < 399) :
    daysBefore Y + yearLength Y = daysBefore (Y + 1) := by
  unfold daysBefore yearLength
  split
  · rename_i hLeap
    rw [isLeap_iff] at hLeap
    omega
  · rename_i hLeap
    rw [isLeap_iff] at hLeap
    omega

/-! ## Months of a year -/

/-- The month of a year in which its day `D` falls, counted from March. -/
def monthOf (D : Int) : Int := (5 * D + 2) / 153

/-- The first day of the month `mp` of a year, counted from March. -/
def monthStart (mp : Int) : Int := (153 * mp + 2) / 5

/-- The month `mp` of a year, counted from March, as a month of the calendar. -/
def monthNum (mp : Int) : Int := if mp < 10 then mp + 3 else mp - 9

theorem monthOf_bounds {D : Int} (hD0 : 0 ≤ D) (hD : D < 366) :
    0 ≤ monthOf D ∧ monthOf D < 12 ∧ monthStart (monthOf D) ≤ D ∧
      D < monthStart (monthOf D + 1) := by
  unfold monthOf monthStart
  omega

theorem monthOf_eq {mp d : Int} (hd : 1 ≤ d) (hd' : monthStart mp + d ≤ monthStart (mp + 1)) :
    monthOf (monthStart mp + d - 1) = mp := by
  unfold monthOf monthStart at *
  omega

/-- The months from March to January have the lengths of the calendar; February is the rest
of the year. -/
theorem monthDays_monthNum (y : Int) {mp : Int} (h0 : 0 ≤ mp) (h1 : mp < 11) :
    (monthDays y (monthNum mp).toNat : Int) = monthStart (mp + 1) - monthStart mp := by
  interval_cases mp <;> rfl

theorem monthDays_february (y : Int) {Y : Int} (hY : isLeap y = isLeap (Y + 1)) :
    (monthDays y (monthNum 11).toNat : Int) = yearLength Y - monthStart 11 := by
  show ((if isLeap y then 29 else 28 : Nat) : Int) = (if isLeap (Y + 1) then 366 else 365) - 337
  rw [hY]
  split <;> rfl

end Era

open Era

/-! ## Days and dates -/

/-- `civilFromDays` splits a day count into an era, a year of it and a day of that year. -/
theorem civilFromDays_spec (z : Int) :
    ∃ era Y D, z + 719468 = 146097 * era + (daysBefore Y + D) ∧
      Split (daysBefore Y + D) Y D ∧
      civilFromDays z = (Y + era * 400 + (if monthNum (monthOf D) ≤ 2 then 1 else 0),
        (monthNum (monthOf D)).toNat, (D - monthStart (monthOf D) + 1).toNat) := by
  have h0 : 0 ≤ z + 719468 - (z + 719468) / 146097 * 146097 := by omega
  have h1 : z + 719468 - (z + 719468) / 146097 * 146097 < 146097 := by omega
  have hSplit := split_yearOf h0 h1
  generalize hY : yearOf (z + 719468 - (z + 719468) / 146097 * 146097) = Y at hSplit
  refine ⟨(z + 719468) / 146097, Y,
    z + 719468 - (z + 719468) / 146097 * 146097 - daysBefore Y, by omega, ?_, ?_⟩
  · rwa [show daysBefore Y + (z + 719468 - (z + 719468) / 146097 * 146097 - daysBefore Y) =
      z + 719468 - (z + 719468) / 146097 * 146097 by omega]
  · rw [← hY]
    rfl

/-- `daysFromCivil` counts the eras, the years of the era and the days of the year before a
date. -/
theorem daysFromCivil_spec (y : Int) (m d : Nat) :
    daysFromCivil y m d + 719468 =
      146097 * ((if m ≤ 2 then y - 1 else y) / 400) +
        (daysBefore ((if m ≤ 2 then y - 1 else y) % 400) +
          (monthStart (((m : Int) + 9) % 12) + d - 1)) := by
  unfold daysFromCivil
  dsimp only
  unfold daysBefore monthStart
  generalize (if m ≤ 2 then y - 1 else y) = y'
  omega

/-- The month of a valid date, counted from March, and its day in the year. -/
theorem dateValid_split {y : Int} {m d : Nat} (h : DateValid y m d) :
    0 ≤ monthStart (((m : Int) + 9) % 12) + d - 1 ∧
      monthStart (((m : Int) + 9) % 12) + d - 1 < yearLength ((if m ≤ 2 then y - 1 else y) % 400) ∧
      monthNum (((m : Int) + 9) % 12) = m ∧
      monthStart (((m : Int) + 9) % 12) + d ≤ monthStart (((m : Int) + 9) % 12 + 1) := by
  obtain ⟨hm0, hm, hd0, hd⟩ := h
  by_cases hFeb : m = 2
  · -- February ends the year of the era, which is a leap year when the calendar year is
    subst hFeb
    have hLeap : isLeap ((y - 1) % 400 + 1) = isLeap y := by
      rw [← isLeap_add_400 _ ((y - 1) / 400)]
      congr 1
      omega
    have hLen : yearLength ((y - 1) % 400) = 337 + (monthDays y 2 : Int) := by
      unfold yearLength monthDays
      rw [hLeap]
      split <;> rfl
    have hFebDays : monthDays y 2 ≤ 29 := by
      show (if isLeap y then 29 else 28) ≤ 29
      split <;> decide
    rw [if_pos (Nat.le_refl 2), hLen]
    simp only [monthStart, monthNum]
    omega
  · have hLen := yearLength_bounds ((if m ≤ 2 then y - 1 else y) % 400)
    generalize yearLength ((if m ≤ 2 then y - 1 else y) % 400) = L at hLen ⊢
    interval_cases m <;> simp only [monthDays] at hd <;> simp only [monthStart, monthNum] <;>
      split <;> omega

/-- The date of a day count is valid. -/
theorem civilFromDays_valid (z : Int) {y : Int} {m d : Nat} (h : civilFromDays z = (y, m, d)) :
    DateValid y m d := by
  obtain ⟨era, Y, D, -, hSplit, hEq⟩ := civilFromDays_spec z
  rw [hEq, Prod.mk.injEq, Prod.mk.injEq] at h
  obtain ⟨rfl, rfl, rfl⟩ := h
  have hLen := (yearLength_bounds Y).2
  obtain ⟨hM0, hM, hStart, hNext⟩ := monthOf_bounds hSplit.day_nonneg (by have := hSplit.day_lt; omega)
  have hDay := hSplit.day_lt
  generalize monthOf D = mp at *
  by_cases hFeb : mp = 11
  · -- February: the rest of the year, 28 or 29 days as the calendar year is a leap year
    subst hFeb
    have hLeap : isLeap (Y + era * 400 + 1) = isLeap (Y + 1) := by
      rw [show Y + era * 400 + 1 = Y + 1 + 400 * era by omega, isLeap_add_400]
    have hFebDays := monthDays_february (Y + era * 400 + 1) hLeap
    refine ⟨by decide, by decide, by omega, ?_⟩
    simp only [show monthNum 11 ≤ 2 by decide, if_true]
    omega
  · have hDays := monthDays_monthNum (Y + era * 400 + (if monthNum mp ≤ 2 then 1 else 0))
      hM0 (by omega : mp < 11)
    refine ⟨?_, ?_, by omega, by omega⟩ <;> unfold monthNum <;> split <;> omega

/-- The day count of the date of a day count is that day count. -/
theorem daysFromCivil_civilFromDays (z : Int) {y : Int} {m d : Nat}
    (h : civilFromDays z = (y, m, d)) : daysFromCivil y m d = z := by
  obtain ⟨era, Y, D, hz, hSplit, hEq⟩ := civilFromDays_spec z
  rw [hEq, Prod.mk.injEq, Prod.mk.injEq] at h
  obtain ⟨rfl, rfl, rfl⟩ := h
  have hLen := (yearLength_bounds Y).2
  obtain ⟨hM0, hM, hStart, hNext⟩ := monthOf_bounds hSplit.day_nonneg (by have := hSplit.day_lt; omega)
  have hY0 := hSplit.year_nonneg
  have hY1 := hSplit.year_lt
  generalize monthOf D = mp at *
  have hSpec := daysFromCivil_spec (Y + era * 400 + if monthNum mp ≤ 2 then 1 else 0)
    (monthNum mp).toNat (D - monthStart mp + 1).toNat
  -- the calendar month gives back the month counted from March, and the year of the era
  have hMonth : (((monthNum mp).toNat : Int) + 9) % 12 = mp ∧
      ((monthNum mp).toNat ≤ 2 ↔ monthNum mp ≤ 2) := by
    unfold monthNum
    split <;> omega
  have hYear : (if (monthNum mp).toNat ≤ 2 then
        (Y + era * 400 + if monthNum mp ≤ 2 then 1 else 0) - 1
      else Y + era * 400 + if monthNum mp ≤ 2 then 1 else 0) = Y + era * 400 := by
    split <;> split <;> omega
  rw [hYear, hMonth.1, show (Y + era * 400) / 400 = era by omega,
    show (Y + era * 400) % 400 = Y by omega] at hSpec
  omega

/-- The date of the day count of a valid date is that date. -/
theorem civilFromDays_daysFromCivil {y : Int} {m d : Nat} (h : DateValid y m d) :
    civilFromDays (daysFromCivil y m d) = (y, m, d) := by
  obtain ⟨hD0, hD, hMonth, hNext⟩ := dateValid_split h
  obtain ⟨era, Y, D, hz, hSplit, hEq⟩ := civilFromDays_spec (daysFromCivil y m d)
  rw [hEq]
  have hSpec := daysFromCivil_spec y m d
  generalize hY' : (if m ≤ 2 then y - 1 else y) = y' at hD hSpec
  generalize ((m : Int) + 9) % 12 = mp at hD0 hD hMonth hNext hSpec
  have hSplit' : Split (daysBefore (y' % 400) + (monthStart mp + d - 1)) (y' % 400)
      (monthStart mp + d - 1) := ⟨by omega, by omega, hD0, hD, rfl⟩
  -- both splits describe one day of one era
  have hB := hSplit.bounds
  have hB' := hSplit'.bounds
  have hEra : era = y' / 400 := by omega
  have hDoe : daysBefore Y + D = daysBefore (y' % 400) + (monthStart mp + d - 1) := by omega
  rw [hDoe] at hSplit
  obtain ⟨rfl, rfl⟩ := hSplit.unique hSplit'
  rw [monthOf_eq (by have := h.day_pos; omega) hNext, hMonth]
  subst hEra
  have hm := h.month_pos
  simp only [Prod.mk.injEq]
  refine ⟨?_, by omega, by omega⟩
  subst hY'
  split <;> split <;> omega

/-! ## The years `1 ..= 9999` -/

/-- A day count falls in year `1` or later exactly from 0001-01-01, day `-719162`. -/
theorem one_le_year_civilFromDays_iff (z : Int) : 1 ≤ (civilFromDays z).1 ↔ -719162 ≤ z := by
  obtain ⟨era, Y, D, hz, hSplit, hEq⟩ := civilFromDays_spec z
  rw [hEq]
  obtain ⟨hY0, hY1, hD0, hD, hDoe⟩ := hSplit
  have hLen := (yearLength_bounds Y).2
  obtain ⟨hM0, hM, hStart, hNext⟩ := monthOf_bounds hD0 (by omega)
  -- the January and February that end a year are those of the next calendar year
  have hMonth : monthNum (monthOf D) ≤ 2 ↔ 306 ≤ D := by
    unfold monthNum monthStart at *
    split <;> omega
  have hBefore : 365 * Y ≤ daysBefore Y := by unfold daysBefore; omega
  have hBefore' : daysBefore Y ≤ 366 * Y := by unfold daysBefore; omega
  dsimp only
  split <;> omega

/-- A day count falls in year `9999` or earlier exactly before 10000-01-01, day `2932897`. -/
theorem year_civilFromDays_le_iff (z : Int) : (civilFromDays z).1 ≤ 9999 ↔ z < 2932897 := by
  obtain ⟨era, Y, D, hz, hSplit, hEq⟩ := civilFromDays_spec z
  rw [hEq]
  have hB := hSplit.bounds
  obtain ⟨hY0, hY1, hD0, hD, hDoe⟩ := hSplit
  have hLen := (yearLength_bounds Y).2
  obtain ⟨hM0, hM, hStart, hNext⟩ := monthOf_bounds hD0 (by omega)
  have hMonth : monthNum (monthOf D) ≤ 2 ↔ 306 ≤ D := by
    unfold monthNum monthStart at *
    split <;> omega
  -- every year of an era before its last ends before the last one starts
  have hLast : Y < 399 → daysBefore Y + D < daysBefore 399 := by
    intro hY
    have hNextYear := daysBefore_add_yearLength hY0 hY
    have hMono : daysBefore (Y + 1) ≤ daysBefore 399 := by unfold daysBefore; omega
    omega
  have h399 : daysBefore 399 = 145731 := by decide
  have hBefore : daysBefore Y = 365 * Y + Y / 4 - Y / 100 := rfl
  dsimp only
  split <;> omega

/-! ## Seconds and civil times -/

namespace Civil

theorem ofSeconds_eq {s : Int} (μ : Nat) {y : Int} {m d : Nat}
    (h : civilFromDays (s / 86400) = (y, m, d)) :
    ofSeconds s μ = ⟨y, m, d, (s % 86400).toNat / 3600, (s % 86400).toNat % 3600 / 60,
      (s % 86400).toNat % 60, μ⟩ := by
  unfold ofSeconds
  rw [h]

theorem exists_civilFromDays_eq (z : Int) : ∃ y m d, civilFromDays z = (y, m, d) :=
  ⟨_, _, _, rfl⟩

theorem micro_ofSeconds (s : Int) (μ : Nat) : (ofSeconds s μ).micro = μ := by
  obtain ⟨y, m, d, h⟩ := exists_civilFromDays_eq (s / 86400)
  rw [ofSeconds_eq μ h]

/-- The civil time of a second count is that many seconds from 1970-01-01T00:00:00. -/
theorem toSeconds_ofSeconds (s : Int) (μ : Nat) : (ofSeconds s μ).toSeconds = s := by
  obtain ⟨y, m, d, h⟩ := exists_civilFromDays_eq (s / 86400)
  rw [ofSeconds_eq μ h]
  unfold toSeconds
  dsimp only
  rw [daysFromCivil_civilFromDays _ h]
  omega

/-- The civil time of a second count is a valid one. -/
theorem valid_ofSeconds (s : Int) {μ : Nat} (hμ : μ < 1000000) : (ofSeconds s μ).Valid := by
  obtain ⟨y, m, d, h⟩ := exists_civilFromDays_eq (s / 86400)
  rw [ofSeconds_eq μ h]
  refine ⟨civilFromDays_valid _ h, ?_, ?_, ?_, hμ⟩ <;> dsimp only <;> omega

/-- A valid civil time is the civil time of its second count. -/
theorem ofSeconds_toSeconds {c : Civil} (hc : c.Valid) : ofSeconds c.toSeconds c.micro = c := by
  obtain ⟨year, month, day, hour, minute, second, micro⟩ := c
  obtain ⟨hDate, hHour, hMinute, hSecond, -⟩ := hc
  dsimp only at hDate hHour hMinute hSecond
  show ofSeconds (daysFromCivil year month day * 86400 +
    ((hour * 3600 + minute * 60 + second : Nat) : Int)) micro = _
  -- the day count and the time of day come apart again, as the time of day is under a day
  have hCivil : civilFromDays ((daysFromCivil year month day * 86400 +
      ((hour * 3600 + minute * 60 + second : Nat) : Int)) / 86400) = (year, month, day) := by
    rw [show (daysFromCivil year month day * 86400 +
      ((hour * 3600 + minute * 60 + second : Nat) : Int)) / 86400 =
        daysFromCivil year month day by omega]
    exact civilFromDays_daysFromCivil hDate
  rw [ofSeconds_eq micro hCivil, show ((daysFromCivil year month day * 86400 +
    ((hour * 3600 + minute * 60 + second : Nat) : Int)) % 86400).toNat =
      hour * 3600 + minute * 60 + second by omega]
  simp only [mk.injEq, true_and, and_true]
  refine ⟨?_, ?_, ?_⟩ <;> omega

/-- A valid civil time is determined by its second count and its microseconds. -/
theorem eq_ofSeconds_iff {c : Civil} (hc : c.Valid) (s : Int) (μ : Nat) :
    c = ofSeconds s μ ↔ c.toSeconds = s ∧ c.micro = μ := by
  constructor
  · rintro rfl
    exact ⟨toSeconds_ofSeconds s μ, micro_ofSeconds s μ⟩
  · rintro ⟨rfl, rfl⟩
    exact (ofSeconds_toSeconds hc).symm

/-- The civil time of a second count falls in the years `1 ..= 9999` exactly from
0001-01-01T00:00:00 and before 10000-01-01T00:00:00. -/
theorem inRange_ofSeconds_iff (s : Int) (μ : Nat) :
    (ofSeconds s μ).InRange ↔ -62135596800 ≤ s ∧ s < 253402300800 := by
  obtain ⟨y, m, d, h⟩ := exists_civilFromDays_eq (s / 86400)
  have hLow := one_le_year_civilFromDays_iff (s / 86400)
  have hHigh := year_civilFromDays_le_iff (s / 86400)
  rw [h] at hLow hHigh
  rw [ofSeconds_eq μ h]
  unfold InRange
  dsimp only at hLow hHigh ⊢
  omega

end Civil

end RoadAtlas
