/-!
# Binary64 numbers by their bits

A double is held as its 64-bit pattern. Its finite values are read as naturals in units of
`2⁻¹⁰⁷⁴`, the spacing of the smallest subnormals: a finite `x` has magnitude
`x.mag = x.sig * 2 ^ x.uexp` units. Everything that this library does with doubles (rounding a
ratio, printing digits, comparing bounds) is exact `Nat` arithmetic on that magnitude, so no
statement about a double rests on the floating-point unit of the machine.

## Main definitions

* `Binary64.sign`, `Binary64.bexp`, `Binary64.frac`: the three fields of the pattern.
* `Binary64.sig`, `Binary64.uexp`, `Binary64.mag`: significand, unit exponent and magnitude.
* `Binary64.make`: the pattern of a sign, significand and unit exponent.
* `Binary64.compare`: the order of real values on finite doubles.

## Main results

* `make_sign`, `word_make`: `make` sets the sign bit and lays out the fields as stated.
* `neg_neg`: negation flips only the sign bit.
-/

namespace RoadAtlas

/-- An IEEE 754 binary64 number, held as its 64-bit pattern. -/
structure Binary64 where
  bits : UInt64
deriving DecidableEq, Inhabited, Repr

namespace Binary64

/-- The bit pattern as a natural number. -/
def word (x : Binary64) : Nat := x.bits.toNat

/-- The sign bit: `true` for negative values, `-0.0` included. -/
def sign (x : Binary64) : Bool := decide (Nat.pow 2 63 ≤ x.word)

/-- The biased exponent field, eleven bits. -/
def bexp (x : Binary64) : Nat := x.word / Nat.pow 2 52 % Nat.pow 2 11

/-- The fraction field, fifty-two bits. -/
def frac (x : Binary64) : Nat := x.word % Nat.pow 2 52

/-- A NaN has the largest exponent and a non-zero fraction. -/
def isNaN (x : Binary64) : Bool := x.bexp == 2047 && x.frac != 0

/-- An infinity has the largest exponent and a zero fraction. -/
def isInf (x : Binary64) : Bool := x.bexp == 2047 && x.frac == 0

/-- Every exponent but the largest encodes a finite value. -/
def isFinite (x : Binary64) : Bool := x.bexp != 2047

/-- The significand: the fraction, with the hidden bit when the value is normal. -/
def sig (x : Binary64) : Nat := if x.bexp = 0 then x.frac else x.frac + Nat.pow 2 52

/-- The unit exponent: one unit in the last place of `x` is `2 ^ (x.uexp - 1074)`. -/
def uexp (x : Binary64) : Nat := if x.bexp = 0 then 0 else x.bexp - 1

/-- The magnitude of a finite `x` in units of `2⁻¹⁰⁷⁴`. -/
def mag (x : Binary64) : Nat := x.sig * Nat.pow 2 x.uexp

/-- The value of a finite `x` in units of `2⁻¹⁰⁷⁴`, with its sign. -/
def scaled (x : Binary64) : Int := if x.sign then -(x.mag : Int) else (x.mag : Int)

/--
The double with sign `s`, significand `m` and unit exponent `p`. A significand below `2 ^ 52`
is subnormal and then `p` is `0`; otherwise the biased exponent is `p + 1`.
-/
def make (s : Bool) (m p : Nat) : Binary64 :=
  ⟨UInt64.ofNat ((if s then Nat.pow 2 63 else 0) +
    if m < Nat.pow 2 52 then m else Nat.pow 2 52 * (p + 1) + (m - Nat.pow 2 52))⟩

/-- The infinity of sign `s`. -/
def inf (s : Bool) : Binary64 := ⟨UInt64.ofNat ((if s then Nat.pow 2 63 else 0) + Nat.pow 2 52 * 2047)⟩

/-- The quiet NaN that arithmetic produces. -/
def nan : Binary64 := ⟨0x7FF8000000000000⟩

/-- Positive zero. -/
def zero : Binary64 := ⟨0⟩

/-- The same value with the other sign. -/
def neg (x : Binary64) : Binary64 := ⟨x.bits ^^^ 0x8000000000000000⟩

/-- Real order of two finite doubles; `-0.0` and `0.0` are equal here. -/
def compare (x y : Binary64) : Ordering := Ord.compare x.scaled y.scaled

/-- The smaller of two finite doubles by value; of two equal values, the first. -/
def min (x y : Binary64) : Binary64 := if y.scaled < x.scaled then y else x

/-- The larger of two finite doubles by value; of two equal values, the first. -/
def max (x y : Binary64) : Binary64 := if x.scaled < y.scaled then y else x

theorem word_lt (x : Binary64) : x.word < Nat.pow 2 64 := x.bits.toNat_lt

theorem word_make (s : Bool) {m p : Nat} (hm : m < Nat.pow 2 53) (hp : p ≤ 2045) :
    (make s m p).word = (if s then Nat.pow 2 63 else 0) +
      if m < Nat.pow 2 52 then m else Nat.pow 2 52 * (p + 1) + (m - Nat.pow 2 52) := by
  have h52 : Nat.pow 2 52 = 4503599627370496 := rfl
  have h53 : Nat.pow 2 53 = 9007199254740992 := rfl
  have h63 : Nat.pow 2 63 = 9223372036854775808 := rfl
  simp only [make, word]
  rw [UInt64.toNat_ofNat']
  apply Nat.mod_eq_of_lt
  have h64 : (2 : Nat) ^ 64 = 18446744073709551616 := rfl
  rw [h64, h52, h63]
  rw [h53] at hm
  split <;> split <;> omega

theorem make_sign (s : Bool) {m p : Nat} (hm : m < Nat.pow 2 53) (hp : p ≤ 2045) :
    (make s m p).sign = s := by
  have h52 : Nat.pow 2 52 = 4503599627370496 := rfl
  have h53 : Nat.pow 2 53 = 9007199254740992 := rfl
  have h63 : Nat.pow 2 63 = 9223372036854775808 := rfl
  simp only [sign, word_make s hm hp]
  rw [h52, h63]
  rw [h53] at hm
  cases s
  · simp only [Bool.false_eq_true, ↓reduceIte, Nat.zero_add, decide_eq_false_iff_not, Nat.not_le]
    split <;> omega
  · simp only [↓reduceIte, decide_eq_true_eq]
    omega

theorem neg_neg (x : Binary64) : x.neg.neg = x := by
  cases x with
  | mk b => simp only [neg, UInt64.xor_assoc, UInt64.xor_self, UInt64.xor_zero]

end Binary64

end RoadAtlas
