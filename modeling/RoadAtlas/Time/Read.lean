import RoadAtlas.Time.Timestamp
import RoadAtlas.Schema.Issue
import RoadAtlas.Json.Value
import RoadAtlas.Number.Rounding

/-!
# Reading timestamps

A timestamp is read from text or from a number of seconds since 1970-01-01 UTC.

Text is first read as a date and time: `YYYY-MM-DD`, a separator (`T`, `t`, a space or `_`),
`HH:MM`, optionally `:SS` and then a fraction after `.` or `,` (of which the first six digits
count), and last an optional zone: `Z`, `z`, or a sign (`+`, `-` or the minus sign `−`) with
`HHMM` or `HH:MM`. Hours go to 23, minutes and seconds to 59, zone hours to 23. Without a
zone the timestamp is naive. A date alone is midnight of that date, naive. The year `0000`
reads, but no timestamp has it. Text that is no date is read as a count of seconds: an optional
sign, digits, an optional fraction after a `.`, with at least one digit, and an optional
exponent after `e` or `E`.

A count of seconds is read on UTC. A count larger than `2 · 10¹⁰` in absolute value is taken
as milliseconds. A whole count is exact; a count with a fraction is a double, and its
timestamp is the whole seconds below it plus the part above them in whole microseconds
(`Timestamp.ofSeconds?`). The result must lie between 1600-01-01T00:00:00 and
9999-12-31T23:59:59.

## Main definitions

* `TimeText.ofText`: a timestamp from text.
* `Timestamp.ofCount`: a timestamp from whole seconds (or milliseconds) and microseconds.
* `Timestamp.read`: a timestamp from a value, or the issue that prevents it.
-/

namespace RoadAtlas

namespace Timestamp

/-- Counts above this size, in absolute value, are milliseconds. -/
def millisecondThreshold : Nat := 20000000000

/-- 1600-01-01T00:00:00 in seconds from 1970. -/
def earliest : Int := -11676096000

/-- 9999-12-31T23:59:59 in seconds from 1970. -/
def latest : Int := 253402300799

/-- The UTC timestamp of a count of seconds (milliseconds above the threshold) with extra
microseconds, if it lies in the readable range. -/
def ofCount (count : Int) (micro : Nat) : Option Timestamp :=
  let (secs, extra) :=
    if count.natAbs ≤ millisecondThreshold then (count, 0)
    else (count / 1000, (count % 1000).toNat * 1000)
  let total := micro + extra
  let secs := secs + (total / 1000000 : Nat)
  if earliest ≤ secs ∧ secs ≤ latest then some ⟨Civil.ofSeconds secs (total % 1000000), some 0⟩
  else none

/-- The timestamp of a finite double of seconds. Above `2 · 10¹⁰` in absolute value the double
counts milliseconds and is first divided by a thousand, rounded to a double. The timestamp is
the whole seconds below that number and its distance above them: the distance is rounded to a
double, taken in microseconds (rounded to a double again), and rounded to whole microseconds,
halves upwards. -/
def ofSeconds? (x : Binary64) : Option Timestamp :=
  if !x.isFinite then none
  else
    let unit : Int := Binary64.unitScale
    let v := if millisecondThreshold * Binary64.unitScale < x.mag then
        Binary64.ofRatio x.scaled (1000 * Binary64.unitScale)
      else x
    let secs := v.scaled / unit
    let above := Binary64.ofRatio (v.scaled - secs * unit) Binary64.unitScale
    let micros := Binary64.ofRatio (1000000 * above.scaled) Binary64.unitScale
    ofCount secs ((2 * micros.mag + Binary64.unitScale) / (2 * Binary64.unitScale))

end Timestamp

namespace TimeText

/-- Whether a character is an ASCII digit. -/
def isDigit (c : Char) : Bool := '0' ≤ c && c ≤ '9'

/-- The value of a list of ASCII digits. -/
def value (ds : List Char) : Nat := ds.foldl (fun acc c => 10 * acc + (c.toNat - 48)) 0

/-- Exactly `n` digits at the front: their value and the rest. -/
def number (n : Nat) (cs : List Char) : Option (Nat × List Char) :=
  let front := cs.take n
  if front.length = n ∧ front.all isDigit then some (value front, cs.drop n) else none

/-- The character `c` at the front, and the rest. -/
def expect (c : Char) : List Char → Option (List Char)
  | d :: rest => if d = c then some rest else none
  | [] => none

/-- A date `YYYY-MM-DD` at the front: year, month, day and the rest. -/
def date (cs : List Char) : Option ((Nat × Nat × Nat) × List Char) := do
  let (y, r) ← number 4 cs
  let r ← expect '-' r
  let (m, r) ← number 2 r
  let r ← expect '-' r
  let (d, r) ← number 2 r
  if 1 ≤ m ∧ m ≤ 12 ∧ 1 ≤ d ∧ d ≤ monthDays y m then some ((y, m, d), r) else none

/-- The fraction of a second after its mark: at least one digit, of which six count. -/
def fraction (cs : List Char) : Option (Nat × List Char) :=
  let ds := cs.takeWhile isDigit
  if ds.isEmpty then none
  else
    let six := ds.take 6
    some (value six * Nat.pow 10 (6 - six.length), cs.drop ds.length)

/-- Seconds with their fraction after the minutes: `:SS`, then `.` or `,` and digits. -/
def seconds : List Char → Option ((Nat × Nat) × List Char)
  | ':' :: r => do
    let (s, r) ← number 2 r
    match r with
    | c :: r' =>
      if c = '.' ∨ c = ',' then do
        let (us, r'') ← fraction r'
        some ((s, us), r'')
      else some ((s, 0), r)
    | [] => some ((s, 0), [])
  | r => some ((0, 0), r)

/-- A time of day `HH:MM[:SS[.ffffff]]` at the front. -/
def clock (cs : List Char) : Option ((Nat × Nat × Nat × Nat) × List Char) := do
  let (h, r) ← number 2 cs
  let r ← expect ':' r
  let (mi, r) ← number 2 r
  let ((s, us), r) ← seconds r
  if h ≤ 23 ∧ mi ≤ 59 ∧ s ≤ 59 then some ((h, mi, s, us), r) else none

/-- The minutes of a zone after its hours: `:MM` or `MM`. -/
def zoneMinutes : List Char → Option (Nat × List Char)
  | ':' :: r => number 2 r
  | r => number 2 r

/-- The zone that ends a time: nothing (naive), `Z`, or a signed offset; nothing may follow. -/
def zone : List Char → Option (Option Int)
  | [] => some none
  | c :: r =>
    if c = 'Z' ∨ c = 'z' then (if r.isEmpty then some (some 0) else none)
    else if c = '+' ∨ c = '-' ∨ c = '−' then do
      let (h, r) ← number 2 r
      let (m, r) ← zoneMinutes r
      if r.isEmpty ∧ h ≤ 23 ∧ m ≤ 59 then
        let o : Int := (3600 * h + 60 * m : Nat)
        some (some (if c = '+' then o else -o))
      else none
    else none

/-- A date, or a date and a time with an optional zone. -/
def dateTime (cs : List Char) : Option Timestamp := do
  let ((y, m, d), r) ← date cs
  match r with
  | [] => some ⟨⟨y, m, d, 0, 0, 0, 0⟩, none⟩
  | sep :: r =>
    if sep = 'T' ∨ sep = 't' ∨ sep = ' ' ∨ sep = '_' then do
      let ((h, mi, s, us), r) ← clock r
      let z ← zone r
      some ⟨⟨y, m, d, h, mi, s, us⟩, z⟩
    else none

/-- The largest whole count of seconds read exactly, `2 ^ 63 - 1`; longer counts are read as
doubles. -/
def exactCountLimit : Nat := Nat.pow 2 63

/-- The decimal exponent that ends a number in text: `e` or `E`, an optional sign and at least
one digit. Nothing at all is the exponent `0`; anything else is no exponent. -/
def exponent? : List Char → Option Int
  | [] => some 0
  | e :: r =>
    if e = 'e' ∨ e = 'E' then
      let (neg, ds) := match r with
        | '-' :: d => (true, d)
        | '+' :: d => (false, d)
        | d => (false, d)
      if !ds.isEmpty ∧ ds.all isDigit then some (if neg then -(value ds : Int) else value ds)
      else none
    else none

/-- A count of seconds as text: an optional sign, digits, an optional fraction after `.`, with at
least one digit in all, and an optional exponent (`exponent?`). Whole counts without a point
or an exponent are exact; the others are read as doubles. -/
def count (cs : List Char) : Option Timestamp :=
  let (neg, r) := match cs with
    | '-' :: r => (true, r)
    | '+' :: r => (false, r)
    | r => (false, r)
  let whole := r.takeWhile isDigit
  match r.drop whole.length with
  | [] =>
    if whole.isEmpty then none
    else
      let n := value whole
      if n < exactCountLimit then Timestamp.ofCount (if neg then -(n : Int) else n) 0
      else Timestamp.ofSeconds? (Binary64.ofDecimal neg n 0)
  | rest =>
    let (f, more) := match rest with
      | '.' :: f => (f.takeWhile isDigit, f.dropWhile isDigit)
      | other => ([], other)
    if whole.isEmpty ∧ f.isEmpty then none
    else
      match exponent? more with
      | some e => Timestamp.ofSeconds? (Binary64.ofDecimal neg (value (whole ++ f)) (e - f.length))
      | none => none

/-- A timestamp from text: a date and time, a date, or a count of seconds. -/
def ofText (s : String) : Option Timestamp :=
  match dateTime s.toList with
  | some t => some t
  | none => count s.toList

end TimeText

namespace Timestamp

/-- A timestamp from a value: text, or a number of seconds. -/
def read : Json → Checked Timestamp
  | .str s =>
    match TimeText.ofText s with
    | some t => if t.wall.year = 0 then Checked.fail .datetimeParsing else .ok t
    | none => Checked.fail .datetimeFromDateParsing
  | .int n =>
    match ofCount n 0 with
    | some t => .ok t
    | none => Checked.fail .datetimeParsing
  | .float x =>
    if x.isFinite then
      match ofSeconds? x with
      | some t => .ok t
      | none => Checked.fail .datetimeParsing
    else Checked.fail .datetimeParsing
  | _ => Checked.fail .datetimeType

end Timestamp

end RoadAtlas
