import RoadAtlas.Time.Civil

/-!
# Timestamps

A timestamp is a civil time as read on some clock, with the offset of that clock from UTC when
it is known. A timestamp without an offset is *naive*: it names no instant, and every text of it
repeats its own fields. A timestamp with an offset is *aware*: its instant is the civil time
minus the offset.

Two texts are written. The exchange form (`Timestamp.isoText`) keeps everything: the date with a
four-digit year, the time, the microseconds when there are any, and the offset as `+HH:MM` (with
`:SS` when the offset has seconds). The map form (`Civil.mapText`) is a UTC time in whole
seconds, `Y-MM-DDTHH:MM:SSZ`, the year without padding; `Timestamp.mapText` writes the UTC time
of an aware timestamp, and the time itself of a naive one, and fails when that time falls
outside the years `1 ..= 9999`.

## Main definitions

* `Timestamp`: a civil time with an optional offset in seconds.
* `Timestamp.utc`: the UTC civil time of an aware timestamp, the time itself of a naive one.
* `Timestamp.isoText`, `Timestamp.mapText`: the two texts.

## Main results

* `utc_naive`: a naive timestamp is written as it is.
-/

namespace RoadAtlas

/-- A civil time, with the offset of its clock from UTC in seconds when it is known. -/
structure Timestamp where
  wall : Civil
  offset : Option Int
deriving DecidableEq, Repr

/-- The decimal digits of `n`, with zeros in front up to `width` digits. -/
def zeroPadded (width n : Nat) : String :=
  let ds := Nat.toDigits 10 n
  String.ofList (List.replicate (width - ds.length) '0' ++ ds)

/-- A time that cannot be written because it falls outside the years `1 ..= 9999`. -/
structure DateOutOfRange where
deriving DecidableEq, Repr

namespace Civil

/-- The time of day as `HH:MM:SS`. -/
def clockText (c : Civil) : String :=
  zeroPadded 2 c.hour ++ ":" ++ zeroPadded 2 c.minute ++ ":" ++ zeroPadded 2 c.second

/-- The map form: `Y-MM-DDTHH:MM:SSZ`, the year unpadded and the microseconds dropped. -/
def mapText (c : Civil) : String :=
  toString c.year ++ "-" ++ zeroPadded 2 c.month ++ "-" ++ zeroPadded 2 c.day ++ "T" ++
    c.clockText ++ "Z"

/-- The exchange form of the civil time: `YYYY-MM-DDTHH:MM:SS`, then `.ffffff` if the
microseconds are not zero. -/
def isoText (c : Civil) : String :=
  zeroPadded 4 c.year.toNat ++ "-" ++ zeroPadded 2 c.month ++ "-" ++ zeroPadded 2 c.day ++ "T" ++
    c.clockText ++ (if c.micro = 0 then "" else "." ++ zeroPadded 6 c.micro)

end Civil

/-- An offset from UTC as `±HH:MM`, with `:SS` when it has seconds. -/
def offsetText (o : Int) : String :=
  let a := o.natAbs
  (if o < 0 then "-" else "+") ++ zeroPadded 2 (a / 3600) ++ ":" ++ zeroPadded 2 (a % 3600 / 60) ++
    (if a % 60 = 0 then "" else ":" ++ zeroPadded 2 (a % 60))

namespace Timestamp

/-- The UTC civil time of an aware timestamp; a naive timestamp is its own time. -/
def utc (t : Timestamp) : Civil :=
  match t.offset with
  | none => t.wall
  | some o => Civil.ofSeconds (t.wall.toSeconds - o) t.wall.micro

/-- The exchange form: the civil time, then the offset if there is one. -/
def isoText (t : Timestamp) : String :=
  t.wall.isoText ++ (match t.offset with | some o => offsetText o | none => "")

/-- The map form of the UTC time, if it falls within the years `1 ..= 9999`. -/
def mapText (t : Timestamp) : Except DateOutOfRange String :=
  let c := t.utc
  if c.InRange then .ok c.mapText else .error ⟨⟩

theorem utc_naive (c : Civil) : (Timestamp.mk c none).utc = c := rfl

end Timestamp

end RoadAtlas
