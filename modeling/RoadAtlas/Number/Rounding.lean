import RoadAtlas.Number.Binary64

/-!
# Rounding a ratio to the nearest double

`round s a d` is the double nearest to `a / d` units of `2⁻¹⁰⁷⁴`, with sign `s`, a tie going to
the even significand; a ratio whose rounding reaches `2 ^ 1024` becomes an infinity. The whole
computation is `Nat` division: `ulpExp a d` finds the binade of `a / d`, and `rne` rounds the
ratio to a whole number of units of that binade.

Every conversion into a double goes through this one function: a scaled coordinate
(`ofRatio n 10⁷`), a decimal numeral (`ofDecimal`), and a timestamp's seconds.

The same rounding writes a finite double with a fixed number of digits after the point
(`Binary64.fixed x places`): the exact binary value of `x` is rounded to the nearest multiple of
`10 ^ (-places)`, a tie going to the even multiple, and every digit of the integer part is
written, however large. A negative sign is kept even when the rounded value is zero.

## Main definitions

* `rne a d`: the integer nearest `a / d`, ties to even.
* `ulpExp a d`: the unit exponent of the binade that holds `a / d`.
* `roundMag a d`: significand and unit exponent of the rounded magnitude, `none` on overflow.
* `Binary64.ofRatio`, `Binary64.ofDecimal`: signed entry points.
* `Binary64.fixedUnits`: a double rounded to a whole number of `10 ^ (-places)`;
  `Binary64.fixed`: its text.

## Main results

* `rne_cases`: `rne` is the floor or the floor plus one, on the side of the nearer multiple.
* `round_of_none`: an overflow gives the infinity of the sign.
-/

namespace RoadAtlas

namespace Binary64

/-- The integer nearest `a / d`; of two equally near, the even one. -/
def rne (a d : Nat) : Nat :=
  let q := a / d
  let r := a % d
  if 2 * r < d then q else if d < 2 * r then q + 1 else if q % 2 = 0 then q else q + 1

/-- `⌊log₂ (a / d)⌋` for `d ≤ a`: the two logarithms fix it up to one, and a product decides. -/
def floorLog2Ratio (a d : Nat) : Nat :=
  let e := a.log2 - d.log2
  if d * Nat.pow 2 e ≤ a then e else e - 1

/--
The unit exponent of the binade of `a / d` (in units of `2⁻¹⁰⁷⁴`): the `p` with
`2 ^ (p + 52) ≤ a / d < 2 ^ (p + 53)`, or `0` below the normal range, where the truncated
subtraction already gives `0`.
-/
def ulpExp (a d : Nat) : Nat := floorLog2Ratio a d - 52

/--
Significand and unit exponent of `a / d` rounded to the nearest double, or `none` when the
rounding leaves the finite range. A significand that rounds up to `2 ^ 53` starts the next
binade.
-/
def roundMag (a d : Nat) : Option (Nat × Nat) :=
  let p := ulpExp a d
  let m := rne a (d * Nat.pow 2 p)
  let mp := if m = Nat.pow 2 53 then (Nat.pow 2 52, p + 1) else (m, p)
  if mp.2 ≤ 2045 then some mp else none

/-- The double of sign `s` nearest `a / d` units of `2⁻¹⁰⁷⁴`, infinite on overflow. -/
def round (s : Bool) (a d : Nat) : Binary64 :=
  match roundMag a d with
  | some (m, p) => make s m p
  | none => inf s

/-- Units of `2⁻¹⁰⁷⁴` in one. -/
def unitScale : Nat := Nat.pow 2 1074

/-- The double nearest the rational `n / d`, `d > 0`; zero is positive. -/
def ofRatio (n : Int) (d : Nat) : Binary64 :=
  round (decide (n < 0)) (n.natAbs * unitScale) d

/-- The number of decimal digits of `n`, with `0` having one. -/
def decimalLength (n : Nat) : Nat := (Nat.toDigits 10 n).length

/--
The double nearest `m · 10 ^ e`, negative when `neg`. Exponents far outside the range of
doubles go straight to zero or infinity, so the exact arithmetic stays small.
-/
def ofDecimal (neg : Bool) (m : Nat) (e : Int) : Binary64 :=
  if m = 0 then make neg 0 0
  else
    let size := (decimalLength m : Int) + e
    if 311 < size then inf neg
    else if size < -330 then make neg 0 0
    else if 0 ≤ e then round neg (m * Nat.pow 10 e.toNat * unitScale) 1
    else round neg (m * unitScale) (Nat.pow 10 (-e).toNat)

/-- The integer part of a finite double, rounded toward zero. -/
def truncate (x : Binary64) : Int :=
  let q := x.mag / unitScale
  if x.sign then -(q : Int) else (q : Int)

/-- Whether a finite double is a whole number. -/
def isIntegral (x : Binary64) : Bool := x.mag % unitScale == 0

theorem round_of_none {s : Bool} {a d : Nat} (h : roundMag a d = none) : round s a d = inf s := by
  unfold round
  rw [h]

theorem rne_cases (a d : Nat) :
    (rne a d = a / d ∧ 2 * (a % d) ≤ d) ∨ (rne a d = a / d + 1 ∧ d ≤ 2 * (a % d)) := by
  unfold rne
  dsimp only
  split
  · exact .inl ⟨rfl, by omega⟩
  · split
    · exact .inr ⟨rfl, by omega⟩
    · split
      · exact .inl ⟨rfl, by omega⟩
      · exact .inr ⟨rfl, by omega⟩

/-! ## Fixed places -/

/-- The magnitude of a finite double rounded to a whole number of `10 ^ (-places)`. -/
def fixedUnits (x : Binary64) (places : Nat) : Nat :=
  rne (Nat.pow 10 places * x.mag) unitScale

/-- The decimal digits of `n`, padded with zeros on the left to at least `width` digits. -/
def padDigits (n width : Nat) : String :=
  let s := Nat.toDigits 10 n
  String.ofList (List.replicate (width - s.length) '0' ++ s)

/-- The text of a finite double with `places` digits after the point. -/
def fixed (x : Binary64) (places : Nat) : String :=
  let q := x.fixedUnits places
  let whole := q / Nat.pow 10 places
  let part := q % Nat.pow 10 places
  let sign := if x.sign then "-" else ""
  if places = 0 then sign ++ padDigits whole 1
  else sign ++ padDigits whole 1 ++ "." ++ padDigits part places

end Binary64

end RoadAtlas
