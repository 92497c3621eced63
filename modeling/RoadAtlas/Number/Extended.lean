import RoadAtlas.Number.Rounding

/-!
# Extended precision

Numbers of the extended format: a significand of at most 64 bits and a binary exponent, with
no practical bound on the exponent. Each operation is exact arithmetic on the two operands
followed by one rounding to 64 significant bits, a tie going to the even significand; this is
the arithmetic in which a store reads numerals and writes doubles, so the digits it produces
are those of this format and not those of exact decimal arithmetic.

Only magnitudes are kept: the callers take signs apart, and every rounding here is symmetric.

## Main definitions

* `Extended`: a significand and an exponent, worth `sig * 2 ^ exp`.
* `Extended.ofRatio`: a ratio times a power of two, rounded to 64 bits.
* `Extended.mul`, `Extended.div`, `Extended.add`, `Extended.sub`, `Extended.floor`,
  `Extended.lt`: the operations.
* `Extended.ofDouble`, `Extended.toDouble`: exact entry from a double, rounded exit to one.

## Main results

* `ofRatio_zero`: zero rounds to zero.
-/

namespace RoadAtlas

/-- A non-negative number of the extended format, worth `sig * 2 ^ exp`. -/
structure Extended where
  sig : Nat
  exp : Int
deriving DecidableEq, Repr

namespace Extended

/-- The number of significant bits. -/
def precision : Nat := 64

/-- Zero. -/
def zero : Extended := ⟨0, 0⟩

/-- `p / q * 2 ^ k` as a ratio of whole numbers, the power moved to the side it multiplies. -/
def shiftRatio (p q : Nat) (k : Int) : Nat × Nat :=
  if 0 ≤ k then (p * Nat.pow 2 k.toNat, q) else (p, q * Nat.pow 2 (-k).toNat)

/--
`p / q * 2 ^ e` rounded to 64 significant bits, a tie to the even significand. The shift `k`
puts `p / q / 2 ^ k` in `[2 ^ 63, 2 ^ 64)`: the bit lengths of `p` and `q` fix it up to one,
and one comparison decides.
-/
def ofRatio (p q : Nat) (e : Int) : Extended :=
  if p = 0 ∨ q = 0 then zero
  else
    let k0 : Int := (p.log2 : Int) - (q.log2 : Int) - 63
    let (a, b) := shiftRatio p q (-k0)
    let k := if a < b * Nat.pow 2 63 then k0 - 1 else k0
    let (a, b) := shiftRatio p q (-k)
    let n := Binary64.rne a b
    if n = Nat.pow 2 precision then ⟨Nat.pow 2 (precision - 1), e + k + 1⟩ else ⟨n, e + k⟩

/-- A whole number, rounded to 64 bits. -/
def ofNat (n : Nat) : Extended := ofRatio n 1 0

/-- The value of a finite double's magnitude, which fits 64 bits exactly. -/
def ofDouble (x : Binary64) : Extended := ofRatio x.mag 1 (-1074)

/-- The product, rounded. -/
def mul (a b : Extended) : Extended := ofRatio (a.sig * b.sig) 1 (a.exp + b.exp)

/-- The quotient, rounded; dividing by zero gives zero, which no caller does. -/
def div (a b : Extended) : Extended := ofRatio a.sig b.sig (a.exp - b.exp)

/-- Two numbers as whole multiples of one power of two: the two multiples and the power. -/
def align (a b : Extended) : Nat × Nat × Int :=
  let m := min a.exp b.exp
  (a.sig * Nat.pow 2 (a.exp - m).toNat, b.sig * Nat.pow 2 (b.exp - m).toNat, m)

/-- The sum, rounded. -/
def add (a b : Extended) : Extended :=
  if a.sig = 0 then b
  else if b.sig = 0 then a
  else
    let (x, y, m) := align a b
    ofRatio (x + y) 1 m

/-- The difference `a - b` for `b ≤ a`, rounded; below zero it is zero. -/
def sub (a b : Extended) : Extended :=
  if b.sig = 0 then a
  else
    let (x, y, m) := align a b
    ofRatio (x - y) 1 m

/-- Whether `a < b`. -/
def lt (a b : Extended) : Bool :=
  let (x, y, _) := align a b
  x < y

/-- The whole part. -/
def floor (a : Extended) : Nat :=
  if 0 ≤ a.exp then a.sig * Nat.pow 2 a.exp.toNat else a.sig / Nat.pow 2 (-a.exp).toNat

/-- The double nearest a number, with a sign; too large a number is an infinity. -/
def toDouble (neg : Bool) (a : Extended) : Binary64 :=
  let (p, q) := shiftRatio a.sig 1 (a.exp + 1074)
  Binary64.round neg p q

theorem ofRatio_zero (q : Nat) (e : Int) : ofRatio 0 q e = zero := by
  simp [ofRatio]

end Extended

end RoadAtlas
