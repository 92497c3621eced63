import RoadAtlas.Number.Extended

/-!
# Numbers written in the store's text

The store turns text into numbers and numbers into text by its own procedures, whose results
differ from exact decimal conversion in the last digits; both are written here step by step in
extended precision (`Extended`).

Reading (`Numeral.scan`, `Numeral.Scan.value`): blanks, an optional sign, digits, an optional
fraction after `.`, an optional exponent after `e` or `E`, and blanks. The digits are gathered
into a whole significand until it reaches `significandLimit`; later digits before the point
only shift it, later digits after it are dropped. The decimal exponent that remains is first
moved into the significand as far as that stays exact, and what is left is applied by one
multiplication or division by a power of ten built in extended precision, rounded once more to
a double at the end.

Writing (`Numeral.realText`, the `%!.15g` form): the magnitude is scaled into `[1, 10)` by
powers of ten in extended precision, half a unit of the fifteenth digit is added, and fifteen
digits are taken off one by one, each by multiplying the rest by ten. Trailing zeros are
dropped but one digit stays after the point; decimal exponents below `-4` or above `14` are
written in exponent form with at least two exponent digits.

## Main definitions

* `Numeral.Scan`, `Numeral.scan`: what the reader takes from a text.
* `Numeral.Scan.isNumber`, `Numeral.Scan.isInteger`, `Numeral.Scan.value`.
* `Numeral.realText`: the text of a double.

## Main results

* `repeatWhile_zero`: a loop without fuel does nothing.
-/

namespace RoadAtlas

namespace Store

namespace Numeral

/-- The blanks around a number in text: space, tab, line feed, vertical tab, form feed and
carriage return. -/
def isBlank (c : Char) : Bool := c = ' ' || ('\t' ≤ c && c ≤ '\r')

/-- Whether a character is an ASCII digit. -/
def isDigit (c : Char) : Bool := '0' ≤ c && c ≤ '9'

/-- The value of an ASCII digit. -/
def digitValue (c : Char) : Nat := c.toNat - '0'.toNat

/-- The significand at which the reader stops taking digits: `(2 ^ 63 - 10) / 10`. -/
def significandLimit : Nat := 922337203685477579

/-- The significand up to which a positive exponent is moved into it: `(2 ^ 63 - 1) / 10`. -/
def shiftLimit : Nat := 922337203685477580

/-- The exponent magnitude beyond which further exponent digits are not taken. -/
def exponentCap : Nat := 10000

/-- What the reader takes from a text. -/
structure Scan where
  /-- Whether a `-` stands before the digits. -/
  negative : Bool
  /-- The exact value of the digits before the point. -/
  whole : Nat
  /-- The digits kept, as one whole number. -/
  significand : Nat
  /-- The power of ten that the kept digits are to be multiplied by. -/
  shift : Int
  /-- How many digits were kept. -/
  kept : Nat
  /-- Whether a point was read. -/
  point : Bool
  /-- Whether an exponent mark was read. -/
  marked : Bool
  /-- The exponent after the mark, with its sign. -/
  exponent : Int
  /-- Whether the exponent has a digit; true without a mark. -/
  exponentValid : Bool
  /-- What is left after the number and the blanks after it. -/
  rest : List Char

/-- The digits before the point: the significand, the shift, the count kept and the exact
value, and what follows. -/
def wholeDigits (s d kept whole : Nat) : List Char → (Nat × Nat × Nat × Nat) × List Char
  | [] => ((s, d, kept, whole), [])
  | c :: cs =>
    if isDigit c then
      let v := digitValue c
      if significandLimit ≤ s then wholeDigits s (d + 1) kept (10 * whole + v) cs
      else wholeDigits (10 * s + v) d (kept + 1) (10 * whole + v) cs
    else ((s, d, kept, whole), c :: cs)

/-- The digits after the point: the significand, the shift and the count kept, and what
follows. -/
def fractionDigits (s : Nat) (d : Int) (kept : Nat) : List Char → (Nat × Int × Nat) × List Char
  | [] => ((s, d, kept), [])
  | c :: cs =>
    if isDigit c then
      if s < significandLimit then fractionDigits (10 * s + digitValue c) (d - 1) (kept + 1) cs
      else fractionDigits s d kept cs
    else ((s, d, kept), c :: cs)

/-- The digits of an exponent: its magnitude, whether it has a digit, and what follows. -/
def exponentDigits (e : Nat) (any : Bool) : List Char → (Nat × Bool) × List Char
  | [] => ((e, any), [])
  | c :: cs =>
    if isDigit c then
      exponentDigits (if e < exponentCap then 10 * e + digitValue c else exponentCap) true cs
    else ((e, any), c :: cs)

/-- An optional sign at the front: whether it is `-`, and the rest. -/
def signOf : List Char → Bool × List Char
  | '-' :: r => (true, r)
  | '+' :: r => (false, r)
  | r => (false, r)

/-- What the reader takes from a text; `none` for blank text. -/
def scan (text : String) : Option Scan :=
  let cs := text.toList.dropWhile isBlank
  if cs.isEmpty then none
  else
    let (negative, cs) := signOf cs
    let ((s, d, kept, whole), cs) := wholeDigits 0 0 0 0 cs
    let (point, (s, d, kept), cs) : Bool × (Nat × Int × Nat) × List Char :=
      match cs with
      | '.' :: r =>
        let (f, r) := fractionDigits s d kept r
        (true, f, r)
      | r => (false, (s, d, kept), r)
    let (marked, exponent, exponentValid, cs) : Bool × Int × Bool × List Char :=
      match cs with
      | c :: r =>
        if c = 'e' ∨ c = 'E' then
          let (eNeg, r) := signOf r
          let ((e, any), r) := exponentDigits 0 false r
          (true, if eNeg then -(e : Int) else e, any, r)
        else (false, 0, true, c :: r)
      | [] => (false, 0, true, [])
    some ⟨negative, whole, s, d, kept, point, marked, exponent, exponentValid,
      cs.dropWhile isBlank⟩

/-- Whether the text is a number: nothing left over, a digit kept, and digits in any exponent. -/
def Scan.isNumber (r : Scan) : Bool := r.rest.isEmpty && 0 < r.kept && r.exponentValid

/-- Whether the number is written as an integer: no point and no exponent. -/
def Scan.isInteger (r : Scan) : Bool := !r.point && !r.marked

/-- The significand and decimal exponent after moving as much of the exponent into the
significand as stays exact: a positive exponent while the significand stays below
`shiftLimit`, a negative one while the significand ends in a zero. -/
def reduce : Nat → Nat → Int → Nat × Int
  | 0, s, e => (s, e)
  | fuel + 1, s, e =>
    if 0 < e then
      if shiftLimit ≤ s then (s, e) else reduce fuel (10 * s) (e - 1)
    else if e < 0 then
      if s % 10 ≠ 0 then (s, e) else reduce fuel (s / 10) (e + 1)
    else (s, e)

/-- Applies `step` while `cond` holds, at most `fuel` times. -/
def repeatWhile {α : Type} (cond : α → Bool) (step : α → α) : Nat → α → α
  | 0, a => a
  | fuel + 1, a => if cond a then repeatWhile cond step fuel (step a) else a

/-- Ten in extended precision. -/
def ten : Extended := Extended.ofNat 10

/-- `10 ^ 22`, the largest power of ten that a double holds exactly. -/
def tenTo22 : Extended := Extended.ofNat (Nat.pow 10 22)

/-- The double `1.0e+308`. -/
def doubleE308 : Binary64 := Binary64.ofDecimal false 1 308

/-- The quotient of two doubles, the divisor positive and finite. -/
def divDouble (x y : Binary64) : Binary64 :=
  Binary64.round x.sign (x.mag * Binary64.unitScale) y.mag

/-- The product of two finite doubles, the second positive. -/
def mulDouble (x y : Binary64) : Binary64 :=
  Binary64.round x.sign (x.mag * y.mag) Binary64.unitScale

/-- `10 ^ n` built from one: `n % 22` multiplications by ten, then `n / 22` by `10 ^ 22`, each
rounded. -/
def powerOfTen (n : Nat) : Extended :=
  let small := repeatWhile (fun _ => true) (Extended.mul · ten) (n % 22) ⟨1, 0⟩
  repeatWhile (fun _ => true) (Extended.mul · tenTo22) (n / 22) small

/-- The double a numeral stands for, with `s` its significand (not zero) and `e` the decimal
exponent left after `reduce`. -/
def scaled (negative : Bool) (s : Nat) (e : Int) : Binary64 :=
  let m := Extended.ofNat s
  let n := e.natAbs
  if e = 0 then Binary64.ofRatio (if negative then -(s : Int) else s) 1
  else if 307 < n then
    if n < 342 then
      let scale := repeatWhile (fun _ => true) (Extended.mul · ten) (n - 308) ⟨1, 0⟩
      if e < 0 then divDouble (Extended.toDouble negative (Extended.div m scale)) doubleE308
      else mulDouble (Extended.toDouble negative (Extended.mul m scale)) doubleE308
    else if e < 0 then Binary64.make negative 0 0
    else Binary64.inf negative
  else
    let scale := powerOfTen n
    if e < 0 then Extended.toDouble negative (Extended.div m scale)
    else Extended.toDouble negative (Extended.mul m scale)

/-- The double the reader makes of a number. -/
def Scan.value (r : Scan) : Binary64 :=
  if r.significand = 0 then Binary64.make r.negative 0 0
  else
    let e := r.exponent + r.shift
    let (s, e) := reduce e.natAbs r.significand e
    scaled r.negative s e

/-- Half a unit of the fifteenth significant digit, as the writer computes it in doubles:
`5.0e-05 * 1.0e-10`. -/
def rounder : Binary64 := mulDouble (Binary64.ofDecimal false 5 (-5)) (Binary64.ofDecimal false 1 (-10))

/-- A positive magnitude scaled into `[1, 10)`, and the power of ten it was divided by. -/
def normalize (v : Extended) : Extended × Int :=
  let up (c : Extended) : Extended × Int → Bool := fun (scale, e) =>
    !(Extended.lt v (Extended.mul c scale)) && e ≤ 350
  let times (c : Extended) (k : Int) : Extended × Int → Extended × Int := fun (scale, e) =>
    (Extended.mul scale c, e + k)
  let e100 := Extended.ofDouble (Binary64.ofDecimal false 1 100)
  let e10 := Extended.ofDouble (Binary64.ofDecimal false 1 10)
  let s := repeatWhile (up e100) (times e100 100) 8 (⟨1, 0⟩, 0)
  let s := repeatWhile (up e10) (times e10 10) 64 s
  let (scale, e) := repeatWhile (up ten) (times ten 1) 400 s
  let v := Extended.div v scale
  let e8 := Extended.ofDouble (Binary64.ofDecimal false 1 8)
  let tiny := Extended.ofDouble (Binary64.ofDecimal false 1 (-8))
  let (v, e) := repeatWhile (fun (w, _) => Extended.lt w tiny)
    (fun (w, k) => (Extended.mul w e8, k - 8)) 400 (v, e)
  repeatWhile (fun (w, _) => Extended.lt w ⟨1, 0⟩) (fun (w, k) => (Extended.mul w ten, k - 1)) 400
    (v, e)

/-- Digits taken off a number in `[0, 10)` one by one: the whole part, then the rest times ten. -/
def digitsOf (v : Extended) : Nat → List Nat
  | 0 => []
  | n + 1 =>
    let d := v.floor
    d :: digitsOf (Extended.mul (Extended.sub v (Extended.ofNat d)) ten) n

/-- Digits as characters. -/
def digitChars (ds : List Nat) : List Char := ds.map fun d => Char.ofNat (48 + d)

/-- Digits after a point without their trailing zeros, and `0` when none remain. -/
def fractionText (ds : List Char) : String :=
  let kept := (ds.reverse.dropWhile (· = '0')).reverse
  if kept.isEmpty then "0" else String.ofList kept

/-- A decimal exponent of at least two digits, with its sign. -/
def exponentText (e : Int) : String :=
  let n := e.natAbs
  let digits := if n < 10 then "0" ++ toString n else toString n
  (if e < 0 then "e-" else "e+") ++ digits

/-- The text of a double in the store's `%!.15g` form. -/
def realText (x : Binary64) : String :=
  if x.isNaN then "NaN"
  else if x.isInf then (if x.sign then "-Inf" else "Inf")
  else
    let pre := if x.sign ∧ x.mag ≠ 0 then "-" else ""
    let (v, e) := if x.mag = 0 then (Extended.zero, 0) else normalize (Extended.ofDouble x)
    let v := Extended.add v (Extended.ofDouble rounder)
    let (v, e) := if Extended.lt v ten then (v, e)
      else (Extended.mul v (Extended.ofDouble (Binary64.ofDecimal false 1 (-1))), e + 1)
    let ds := digitChars (digitsOf v 15)
    let body :=
      if e < -4 ∨ 14 < e then
        String.ofList (ds.take 1) ++ "." ++ fractionText (ds.drop 1) ++ exponentText e
      else if 0 ≤ e then
        String.ofList (ds.take (e.toNat + 1)) ++ "." ++ fractionText (ds.drop (e.toNat + 1))
      else "0." ++ fractionText (List.replicate ((-e).toNat - 1) '0' ++ ds)
    pre ++ body

theorem repeatWhile_zero {α : Type} (cond : α → Bool) (step : α → α) (a : α) :
    repeatWhile cond step 0 a = a := rfl

end Numeral

end Store

end RoadAtlas
