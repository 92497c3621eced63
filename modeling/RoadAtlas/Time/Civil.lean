/-!
# Civil time

A civil time is a date of the proleptic Gregorian calendar with a time of day in whole seconds
and microseconds. Days are counted from 1970-01-01, so a civil time is also a count of seconds
from that instant; `Civil.ofSeconds` and `Civil.toSeconds` go between the two. The day count uses
eras of 400 years (146097 days), in which the calendar repeats, with the year taken to begin in
March so that the leap day ends it.

## Main definitions

* `Civil`: year, month, day, hour, minute, second, microsecond.
* `daysFromCivil`, `civilFromDays`: dates and day counts.
* `Civil.toSeconds`, `Civil.ofSeconds`: civil times and second counts.
* `Civil.InRange`: the years `1 ..= 9999`, which every written time must stay in.

## Main results

* `isLeap_iff`: the leap-year rule in words.
-/

namespace RoadAtlas

/-- Whether a year of the proleptic Gregorian calendar has a leap day. -/
def isLeap (y : Int) : Bool := y % 4 = 0 && (y % 100 ≠ 0 || y % 400 = 0)

/-- The number of days of a month in a year. -/
def monthDays (y : Int) (m : Nat) : Nat :=
  match m with
  | 1 | 3 | 5 | 7 | 8 | 10 | 12 => 31
  | 4 | 6 | 9 | 11 => 30
  | 2 => if isLeap y then 29 else 28
  | _ => 0

/-- The day count of a date, day `0` being 1970-01-01. -/
def daysFromCivil (y : Int) (m d : Nat) : Int :=
  let y := if m ≤ 2 then y - 1 else y
  let era := y / 400
  let yoe := y - era * 400
  let mp : Int := (m + 9) % 12
  let doy := (153 * mp + 2) / 5 + d - 1
  let doe := yoe * 365 + yoe / 4 - yoe / 100 + doy
  era * 146097 + doe - 719468

/-- The date of a day count: year, month and day. -/
def civilFromDays (z : Int) : Int × Nat × Nat :=
  let z := z + 719468
  let era := z / 146097
  let doe := z - era * 146097
  let yoe := (doe - doe / 1460 + doe / 36524 - doe / 146096) / 365
  let doy := doe - (365 * yoe + yoe / 4 - yoe / 100)
  let mp := (5 * doy + 2) / 153
  let d := doy - (153 * mp + 2) / 5 + 1
  let m := if mp < 10 then mp + 3 else mp - 9
  let y := yoe + era * 400 + (if m ≤ 2 then 1 else 0)
  (y, m.toNat, d.toNat)

/-- A date with a time of day. -/
structure Civil where
  year : Int
  month : Nat
  day : Nat
  hour : Nat
  minute : Nat
  second : Nat
  micro : Nat
deriving DecidableEq, Repr

namespace Civil

/-- The whole seconds from 1970-01-01T00:00:00 to this time; the microseconds are left out. -/
def toSeconds (c : Civil) : Int :=
  daysFromCivil c.year c.month c.day * 86400 + (c.hour * 3600 + c.minute * 60 + c.second : Nat)

/-- The civil time a number of seconds after 1970-01-01T00:00:00, with the given microseconds. -/
def ofSeconds (s : Int) (micro : Nat) : Civil :=
  let (y, m, d) := civilFromDays (s / 86400)
  let t := (s % 86400).toNat
  ⟨y, m, d, t / 3600, t % 3600 / 60, t % 60, micro⟩

/-- The years that a time may be written in. -/
def InRange (c : Civil) : Prop := 1 ≤ c.year ∧ c.year ≤ 9999

instance (c : Civil) : Decidable c.InRange := inferInstanceAs (Decidable (_ ∧ _))

end Civil

example : daysFromCivil 1970 1 1 = 0 ∧ civilFromDays 0 = (1970, 1, 1) := by decide

theorem isLeap_iff (y : Int) :
    isLeap y = true ↔ y % 4 = 0 ∧ (y % 100 ≠ 0 ∨ y % 400 = 0) := by
  simp [isLeap]

end RoadAtlas
