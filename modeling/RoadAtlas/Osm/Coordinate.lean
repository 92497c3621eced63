import RoadAtlas.Number.Rounding
import RoadAtlas.Failure

/-!
# Scaled coordinates

A latitude or longitude is stored as a whole number of `10⁻⁷` degrees. Its value in degrees is
the double nearest that many ten-millionths (`Binary64.ofRatio n 10⁷`); a number so large that
the nearest double is beyond the finite range has no value in degrees.

Its text is that double written with seven decimal places, then stripped of trailing zeros and
of a trailing point, with `0` for what strips to nothing or to `-0`.

## Main definitions

* `Coordinate.toDegrees`: the value in degrees, or `Coordinate.Overflow`.
* `Coordinate.text`: the written form.
-/

namespace RoadAtlas

namespace Coordinate

/-- Ten-millionths of a degree in a degree. -/
def scale : Nat := 10000000

/-- Decimal places of a written coordinate. -/
def places : Nat := 7

/-- A coordinate too large for a double. -/
structure Overflow where
deriving DecidableEq, Repr

/-- The failure of an overflowing coordinate. -/
def Overflow.toFailure (_ : Overflow) : Failure :=
  ⟨.overflow, "integer division result too large for a float"⟩

/-- The value in degrees of `n` ten-millionths of a degree. -/
def toDegrees (n : Int) : Except Overflow Binary64 :=
  let x := Binary64.ofRatio n scale
  if x.isInf then .error ⟨⟩ else .ok x

/-- Characters without the trailing ones equal to `c`. -/
def dropTrailing (c : Char) (cs : List Char) : List Char :=
  (cs.reverse.dropWhile (· = c)).reverse

/-- Fixed-place text stripped of trailing zeros and then of a trailing point. -/
def stripZeros (s : String) : String :=
  let t := dropTrailing '.' (dropTrailing '0' s.toList)
  if t = [] || t = ['-', '0'] then "0" else String.ofList t

/-- The written form of a coordinate of `n` ten-millionths of a degree. -/
def text (n : Int) : Except Overflow String :=
  (toDegrees n).map fun x => stripZeros (x.fixed places)

end Coordinate

end RoadAtlas
