import RoadAtlas.Number.Rounding

/-!
# Shortest decimal digits of a double

Every finite non-zero double `x` owns an interval of reals that round to it: the points closer
to `x` than to either neighbour, the ends included exactly when the significand is even. The
shortest digits of `x` are the fewest significant decimal digits `c` (with an exponent `k`) such
that `c · 10 ^ k` lies in that interval, and of two such numerals the one nearer `x`; an exact
tie goes to the even `c`.

For a digit count `n` the candidates on the grid `10 ^ k` are the two grid points around `x`: if
any grid point lies in the interval, one of them does. Seventeen digits always suffice.

All comparisons are made in units of `2⁻¹⁰⁷⁵` (half the smallest subnormal), where the middle
of the interval and both of its ends are whole numbers.

## Main definitions

* `Binary64.Digits`: a numeral `c · 10 ^ k`.
* `Binary64.shortest`: the shortest digits of a finite double.
-/

namespace RoadAtlas

namespace Binary64

/-- A decimal numeral `coeff · 10 ^ exp`. -/
structure Digits where
  coeff : Nat
  exp : Int
deriving DecidableEq, Repr

/-- `2 ^ 1075`: units of half the smallest subnormal in one. -/
def halfUnitScale : Nat := Nat.pow 2 1075

/--
The interval of a double of significand `m` and unit exponent `p`, in units of `2⁻¹⁰⁷⁵`: its
middle, and its distance below and above. At the bottom of a binade the neighbour below is
twice as close.
-/
def roundingInterval (m p : Nat) : Nat × Nat × Nat :=
  let mid := 2 * (m * Nat.pow 2 p)
  let lo := if m = Nat.pow 2 52 ∧ 0 < p then Nat.pow 2 p / 2 else Nat.pow 2 p
  (mid, lo, Nat.pow 2 p)

/--
Multipliers `(a, b)` that compare a grid point with a point of the interval: `c · 10 ^ k` is
below `X · 2⁻¹⁰⁷⁵` exactly when `c * a < X * b`.
-/
def gridScale (k : Int) : Nat × Nat :=
  if 0 ≤ k then (Nat.pow 10 k.toNat * halfUnitScale, 1) else (halfUnitScale, Nat.pow 10 (-k).toNat)

/-- Whether the grid point `c · 10 ^ k` lies in the interval of significand `m`. -/
def inInterval (m p : Nat) (k : Int) (c : Nat) : Bool :=
  let (mid, lo, hi) := roundingInterval m p
  let (a, b) := gridScale k
  if m % 2 = 0 then (mid - lo) * b ≤ c * a && c * a ≤ (mid + hi) * b
  else (mid - lo) * b < c * a && c * a < (mid + hi) * b

/-- The distance from the grid point `c · 10 ^ k` to the double, scaled by the grid multipliers. -/
def gridDistance (m p : Nat) (k : Int) (c : Nat) : Nat :=
  let (mid, _, _) := roundingInterval m p
  let (a, b) := gridScale k
  let x := c * a
  let y := mid * b
  if x ≤ y then y - x else x - y

/-- The numeral with `n` significant digits for the double, if that many digits can name it. -/
def digitsAt (m p : Nat) (e : Int) (n : Nat) : Option Digits :=
  let k := e + 1 - n
  let (mid, _, _) := roundingInterval m p
  let (a, b) := gridScale k
  let f := mid * b / a
  let down := inInterval m p k f
  let up := inInterval m p k (f + 1)
  if down && up then
    let dd := gridDistance m p k f
    let du := gridDistance m p k (f + 1)
    if dd < du then some ⟨f, k⟩
    else if du < dd then some ⟨f + 1, k⟩
    else if f % 2 = 0 then some ⟨f, k⟩ else some ⟨f + 1, k⟩
  else if down then some ⟨f, k⟩
  else if up then some ⟨f + 1, k⟩
  else none

/-- The seventeen-digit numeral below the double; `shortest` never needs it, since seventeen
digits always name a double. -/
def seventeen (m p : Nat) (e : Int) : Digits :=
  let k := e + 1 - 17
  let (mid, _, _) := roundingInterval m p
  let (a, b) := gridScale k
  ⟨mid * b / a, k⟩

/-- The numeral with trailing zeros of the coefficient moved into the exponent. -/
def Digits.trim (d : Digits) : Digits :=
  go d (decimalLength d.coeff)
where
  go (d : Digits) : Nat → Digits
    | 0 => d
    | fuel + 1 =>
      if d.coeff ≠ 0 ∧ d.coeff % 10 = 0 then go ⟨d.coeff / 10, d.exp + 1⟩ fuel else d

/--
The decimal exponent of a positive magnitude (units of `2⁻¹⁰⁷⁴`): the `e` with
`10 ^ e ≤ mag · 2⁻¹⁰⁷⁴ < 10 ^ (e + 1)`, read off the digit count of `mag · 10³²⁴ · 2⁻¹⁰⁷⁴`.
-/
def decimalExponent (mag : Nat) : Int :=
  (decimalLength (Nat.pow 10 324 * mag / unitScale) : Int) - 325

/-- The shortest digits of a finite double, ignoring its sign; zero has the digits `0 · 10⁰`. -/
def shortest (x : Binary64) : Digits :=
  if x.mag = 0 then ⟨0, 0⟩
  else
    let e := decimalExponent x.mag
    let found := (List.range 17).findSome? fun i => digitsAt x.sig x.uexp e (i + 1)
    (found.getD (seventeen x.sig x.uexp e)).trim

end Binary64

end RoadAtlas
