import RoadAtlas.Time.Timestamp
import RoadAtlas.Text.Quoted
import RoadAtlas.Failure
import RoadAtlas.Json.Value

/-!
# Reading ISO 8601 date and time text

`IsoTime.ofText` reads the text that a stored time is given in: a date, optionally followed
by one separator character (any character) and a time, optionally followed by an offset.
Positions are counted in UTF-8 code units (`IsoText.units`). Text of fewer than seven code
points is refused; an unpaired surrogate may only stand as the separator, at code point `7`, `8`
or `10`, and reads as `T`. A `NUL` ends the text where the reader looks for what follows a field
or a `Z`.

* The date is `YYYY-MM-DD` or `YYYYMMDD`, or a week date `YYYY-Www[-D]` or `YYYYWww[D]` (the
  day of the week defaults to Monday). Where the date ends is decided from its fifth and sixth
  characters alone, so a few texts are read in a way that may look surprising.
* The time is `HH[:MM[:SS[.f…]]]` or `HHMMSS[.f…]`; the decimal mark may be a comma, and only
  the first six fractional digits count. A fraction after the hour or the minute is still a
  fraction of a second.
* The offset is `Z`, or a sign followed by `HH[:MM[:SS[.f…]]]`; `Z` and a zero offset give UTC.

A text that does not have this shape is refused with `Invalid isoformat string: '…'`. A text of
this shape with a field out of range is refused by that field: the year must be `1 ..= 9999`,
the month `1 ..= 12` (a week date of the year `0` has none), the day within its month, the hour below `24` and the minute and second
below `60`; an offset must lie strictly within a day.

## Main definitions

* `IsoText.clock`: the fields of a time of day.
* `IsoTime`, `IsoTime.ofText`: the time of a text, with its offset in microseconds.
* `IsoTime.isoText`: the exchange form of such a time.

## Main results

* `digits_rest`: a field of `n` digits is read from exactly the first `n` characters.
-/

namespace RoadAtlas

namespace IsoText

/-- The character at a position, `NUL` past the end. -/
def charAt (cs : List Char) (i : Nat) : Char := cs.getD i '\x00'

/-- The text in UTF-8 code units: a character outside ASCII stands first, followed by one
`U+0080` for each of its further units. Positions in the text are counted in these units, and
no unit of a character outside ASCII is a digit, a sign or a separator. -/
def units (s : String) : List Char :=
  s.toList.flatMap fun c =>
    if c.toNat < 128 then [c] else c :: List.replicate (c.utf8Size - 1) '\x80'

/-- The value of exactly `n` decimal digits at the front, and what follows them. -/
def digits (n : Nat) (cs : List Char) : Option (Nat × List Char) :=
  let ds := cs.take n
  if ds.length = n ∧ ds.all Char.isDigit then
    some (ds.foldl (fun acc c => acc * 10 + (c.toNat - 48)) 0, cs.drop n)
  else none

theorem digits_rest {n : Nat} {cs rest : List Char} {v : Nat} (h : digits n cs = some (v, rest)) :
    rest = cs.drop n := by
  simp only [digits] at h
  split at h
  · cases h
    rfl
  · cases h

/-- The position at which the date ends, decided from the fifth and sixth characters. -/
def dateLength (cs : List Char) : Option Nat :=
  let len := cs.length
  if len = 7 then some 7
  else if charAt cs 4 = '-' then
    if charAt cs 5 = 'W' then
      if len < 8 then none
      else if 8 < len ∧ charAt cs 8 = '-' then
        if len = 9 then none
        else if 10 < len ∧ (charAt cs 10).isDigit then some 8
        else some 10
      else some 8
    else some 10
  else if charAt cs 4 = 'W' then
    let idx := 7 + ((cs.drop 7).takeWhile Char.isDigit).length
    if idx < 9 then some idx
    else if idx % 2 = 0 then some 7 else some 8
  else some 8

/-- The day number of the first of January of a year, counting `0001-01-01` as day `1`: `365`
days for each year before it and one more for every fourth, but not hundredth, unless
four-hundredth, the divisions truncated toward zero. From the year `1` on this is the calendar's
count; the year `0` starts on day `-364`. -/
def yearStart (year : Int) : Int :=
  let y := year - 1
  y * 365 + y.tdiv 4 - y.tdiv 100 + y.tdiv 400 + 1

/-- The date of a week date: the Monday of the first week is the Monday on or before the fourth
of January, the weekday found by a remainder truncated toward zero. Week `53` exists only in
years that start on a Thursday, or leap years that start on a Wednesday. A day number below one
(a week date of the year `0`) has no month, which is given as month `0` of the year `1`. -/
def weekDate (year : Int) (week day : Nat) : Option (Int × Nat × Nat) :=
  let first := yearStart year
  let firstWeekday := (first + 6).tmod 7
  let longYear := firstWeekday = 3 ∨ (firstWeekday = 2 ∧ isLeap year)
  if week = 0 ∨ 53 < week ∨ (week = 53 ∧ ¬longYear) then none
  else if day = 0 ∨ 7 < day then none
  else
    let monday := first - firstWeekday + (if 3 < firstWeekday then 7 else 0)
    let n := monday + ((week - 1) * 7 + day - 1 : Nat)
    if n < 1 then some (1, 0, 0) else some (civilFromDays (n - 719163))

/-- Drop a leading `-` when the date uses separators; without separators nothing is dropped. -/
def dash (separated : Bool) (cs : List Char) : Option (List Char) :=
  if separated then
    match cs with
    | '-' :: rest => some rest
    | _ => none
  else some cs

/-- The year, month and day of the date that the first `len` characters hold. -/
def date (cs : List Char) (len : Nat) : Option (Int × Nat × Nat) := do
  let (year, r) ← digits 4 cs
  let separated := r.head? = some '-'
  let r := if separated then r.drop 1 else r
  if r.head? = some 'W' then
    let (week, r) ← digits 2 (r.drop 1)
    let day ← if cs.length - r.length < len then do
        let r ← dash separated r
        let (d, _) ← digits 1 r
        pure d
      else pure 1
    weekDate year week day
  else
    let (month, r) ← digits 2 r
    let r ← dash separated r
    let (day, _) ← digits 2 r
    pure (year, month, day)

/-- The fractional seconds at a position, as microseconds from the first six digits, and
whether any text follows the digits. -/
def fraction (cs : List Char) (pos stop : Nat) : Option (Nat × Bool) := do
  let count := min 6 (stop - pos)
  let (v, _) ← digits count (cs.drop pos)
  let rest := (cs.drop (pos + count)).dropWhile Char.isDigit
  pure (v * Nat.pow 10 (6 - count), charAt rest 0 ≠ '\x00')

/--
The hour, minute, second and microseconds of a time that ends at `stop`, and whether any text
follows it. Fields are two digits each; after the hour a colon decides whether the later fields
are separated. A decimal mark after any field starts the fraction of a second, the fields not
yet read staying zero. A time that stops after one of its fields is complete.
-/
def clock (cs : List Char) (stop : Nat) : Option ((Nat × Nat × Nat × Nat) × Bool) :=
  go 0 0 true [] 3
where
  /-- The fields from position `pos` on, `fields` read so far (in reverse), `left` to go. -/
  go (pos : Nat) (i : Nat) (separated : Bool) (fields : List Nat) :
      Nat → Option ((Nat × Nat × Nat × Nat) × Bool)
    | 0 => do
      let (micro, trailing) ← fraction cs pos stop
      pure (finish fields micro, trailing)
    | left + 1 => do
      let (v, _) ← digits 2 (cs.drop pos)
      let fields := v :: fields
      let c := charAt cs (pos + 2)
      let next := pos + 3
      let separated := if i = 0 then c = ':' else separated
      if stop ≤ next then pure (finish fields 0, c ≠ '\x00')
      else if separated ∧ c = ':' then go next (i + 1) separated fields left
      else if c = '.' ∨ c = ',' then do
        let (micro, trailing) ← fraction cs next stop
        pure (finish fields micro, trailing)
      else if ¬separated then go (next - 1) (i + 1) separated fields left
      else none
  /-- The fields read, missing ones zero. -/
  finish (fields : List Nat) (micro : Nat) : Nat × Nat × Nat × Nat :=
    match fields.reverse with
    | [h] => (h, 0, 0, micro)
    | [h, m] => (h, m, 0, micro)
    | h :: m :: s :: _ => (h, m, s, micro)
    | [] => (0, 0, 0, micro)

/-- Whether a character starts an offset. -/
def startsOffset (c : Char) : Bool := c = 'Z' ∨ c = '+' ∨ c = '-'

/-- A time with its offset in seconds and microseconds, `none` for a naive time. -/
def time (cs : List Char) : Option ((Nat × Nat × Nat × Nat) × Option (Int × Int)) := do
  let stop := (cs.findIdx? startsOffset).getD (max cs.length 1)
  let (fields, trailing) ← clock cs stop
  if cs.length ≤ stop then
    if trailing then none else pure (fields, none)
  else if charAt cs stop = 'Z' then
    if charAt cs (stop + 1) ≠ '\x00' then none else pure (fields, some (0, 0))
  else
    let sign : Int := if charAt cs stop = '-' then -1 else 1
    let rest := cs.drop (stop + 1)
    let ((h, m, s, us), trailing) ← clock rest rest.length
    if trailing then none
    else pure (fields, some (sign * (h * 3600 + m * 60 + s : Nat), sign * us))

/-- The repr of a span of days, seconds and microseconds, as the refusal of an offset shows it. -/
def spanText (micros : Int) : String :=
  let day : Int := 86400 * 1000000
  let days := micros / day
  let rest := micros % day
  let parts := (if days = 0 then [] else ["days=" ++ toString days]) ++
    (if rest / 1000000 = 0 then [] else ["seconds=" ++ toString (rest / 1000000)]) ++
    (if rest % 1000000 = 0 then [] else ["microseconds=" ++ toString (rest % 1000000)])
  "datetime.timedelta(" ++ (if parts.isEmpty then "0" else ", ".intercalate parts) ++ ")"

/-- The text with its first unpaired surrogate at code point `7`, `8` or `10`, where a
separator may stand, replaced by `T`; `none` when the text is shorter than seven code points or
another unpaired surrogate remains. -/
def sanitize (s : String) : Option String :=
  let xs := Text.symbols s
  let isSurrogateAt (i : Nat) : Bool := match xs[i]? with
    | some x => x.isSurrogate
    | none => false
  let xs := match [7, 8, 10].find? isSurrogateAt with
    | some i => xs.set i (.char 'T')
    | none => xs
  if xs.length < 7 ∨ xs.any Text.Symbol.isSurrogate then none
  else some (String.ofList (xs.filterMap fun x => match x with
    | .char c => some c
    | .surrogate _ => none))

/-- The first field out of range, as its refusal. -/
def outOfRange (year : Int) (month day hour minute second : Nat) : Option String :=
  if year < 1 ∨ 9999 < year then some ("year " ++ toString year ++ " is out of range")
  else if month < 1 ∨ 12 < month then some "month must be in 1..12"
  else if day < 1 ∨ monthDays year month < day then some "day is out of range for month"
  else if 23 < hour then some "hour must be in 0..23"
  else if 59 < minute then some "minute must be in 0..59"
  else if 59 < second then some "second must be in 0..59"
  else none

end IsoText

/-- A time read from ISO 8601 text: a civil time and, for an aware time, its offset from UTC in
microseconds. -/
structure IsoTime where
  wall : Civil
  offset : Option Int
deriving DecidableEq, Repr

namespace IsoTime

/-- An offset in microseconds as `±HH:MM`, then `:SS` when it has seconds or microseconds, then
`.ffffff` when it has microseconds. -/
def offsetText (micros : Int) : String :=
  let a := micros.natAbs
  let seconds := a / 1000000
  let rest := a % 1000000
  (if micros < 0 then "-" else "+") ++ zeroPadded 2 (seconds / 3600) ++ ":" ++
    zeroPadded 2 (seconds % 3600 / 60) ++
    (if seconds % 60 = 0 ∧ rest = 0 then ""
     else ":" ++ zeroPadded 2 (seconds % 60) ++ (if rest = 0 then "" else "." ++ zeroPadded 6 rest))

/-- The exchange form: the civil time, then the offset if there is one. -/
def isoText (t : IsoTime) : String :=
  t.wall.isoText ++ match t.offset with
    | some o => offsetText o
    | none => ""

example : offsetText 0 = "+00:00" := by decide

open IsoText in
/-- The time of an ISO 8601 text. -/
def ofText (s : String) : Except Failure IsoTime :=
  let invalid : Failure := ⟨.badValue, "Invalid isoformat string: " ++ Text.quoted s⟩
  let parsed : Option ((Int × Nat × Nat) × (Nat × Nat × Nat × Nat) × Option (Int × Int)) := do
    let cs := units (← sanitize s)
    let len ← dateLength cs
    let d ← date cs len
    if len < cs.length then
      let (fields, offset) ← time (cs.drop (len + (charAt cs len).utf8Size))
      pure (d, fields, offset)
    else pure (d, (0, 0, 0, 0), none)
  match parsed with
  | none => .error invalid
  | some ((year, month, day), (hour, minute, second, micro), offset) =>
    -- a zero offset in whole seconds is UTC, whatever its microseconds
    let offsetMicros : Option Int := offset.map fun (seconds, micros) =>
      if seconds = 0 then 0 else seconds * 1000000 + micros
    let offsetOk : Except Failure Unit := match offsetMicros with
      | some total =>
        if 86400 * 1000000 ≤ total.natAbs then
          .error ⟨.badValue, "offset must be a timedelta strictly between " ++
            "-timedelta(hours=24) and timedelta(hours=24), not " ++ spanText total ++ "."⟩
        else .ok ()
      | none => .ok ()
    match offsetOk with
    | .error f => .error f
    | .ok () =>
      match outOfRange year month day hour minute second with
      | some message => .error ⟨.badValue, message⟩
      | none => .ok ⟨⟨year, month, day, hour, minute, second, micro⟩, offsetMicros⟩

/-- The time of a JSON value that should be ISO 8601 text. -/
def ofJson : Json → Except Failure IsoTime
  | .str s => ofText s
  | _ => .error ⟨.badType, "fromisoformat: argument must be str"⟩

end IsoTime

end RoadAtlas
