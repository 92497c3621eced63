import RoadAtlas.Shape.Problem
import RoadAtlas.Number.IntegerText
import RoadAtlas.Number.Rounding
import RoadAtlas.Text.Classes

/-!
# Real numbers from values

Coordinates are real numbers, and a coordinate may be given as any value that names one: a
double, an integer (rounded to the nearest double; one whose rounding overflows is refused on
its own), a truth value (`1.0` or `0.0`), or text.

Text names a real number when, stripped of the blanks around an integer literal
(`IntegerText.isIntegerBlank`), it is an optional sign followed by `inf`,
`infinity` or `nan` in any case, or by a numeral: digits of any script with single `_` between
digits, an optional fraction after `.`, at least one digit in all, and an optional exponent
after `e` or `E` with its own optional sign. The numeral's double is the nearest one.

## Main definitions

* `Shape.readReal`: the double that a text names.
* `Shape.real`: the double that a value names, or the problem.
-/

namespace RoadAtlas

namespace Shape

/-- Whether a character is a digit of some script. -/
def isDigitChar (c : Char) : Bool :=
  match IntegerText.pieceOf c with
  | .digit _ => true
  | _ => false

/-- A run of digits with single underscores between them, if one starts here; otherwise no
digits and the text unchanged. `none` when an underscore is misplaced. -/
def digitPart (cs : List Char) : Option (List Nat × List Char) :=
  match cs with
  | c :: _ => if isDigitChar c then IntegerText.scanDigits true cs else some ([], cs)
  | [] => some ([], [])

/-- The signed exponent after an exponent mark. -/
def exponentPart (cs : List Char) : Option (Int × List Char) := do
  let (neg, body) := match cs with
    | '+' :: rest => (false, rest)
    | '-' :: rest => (true, rest)
    | _ => (false, cs)
  let (ds, rest) ← digitPart body
  if ds.isEmpty then none
  else
    let e := IntegerText.digitsValue ds
    some (if neg then -(e : Int) else (e : Int), rest)

/-- The double of an unsigned numeral, with the sign given. -/
def numeral (neg : Bool) (cs : List Char) : Option Binary64 := do
  let (whole, rest) ← digitPart cs
  let (frac, rest) ← match rest with
    | '.' :: r => digitPart r
    | r => some ([], r)
  if whole.isEmpty ∧ frac.isEmpty then none
  let (e, rest) ← match rest with
    | 'e' :: r => exponentPart r
    | 'E' :: r => exponentPart r
    | r => some (0, r)
  if rest.isEmpty then
    some (Binary64.ofDecimal neg (IntegerText.digitsValue (whole ++ frac)) (e - frac.length))
  else none

/-- The double that a text names, if it names one. -/
def readReal (s : String) : Option Binary64 :=
  let cs := ((s.toList.dropWhile IntegerText.isIntegerBlank).reverse.dropWhile
    IntegerText.isIntegerBlank).reverse
  let (neg, body) := match cs with
    | '+' :: rest => (false, rest)
    | '-' :: rest => (true, rest)
    | _ => (false, cs)
  let word := String.ofList (body.map Char.toLower)
  if word = "inf" ∨ word = "infinity" then some (Binary64.inf neg)
  else if word = "nan" then some Binary64.nan
  else numeral neg body

/-- The double that a value names. -/
def real : Json → Except Problem Binary64
  | .float x => .ok x
  | .int n =>
    let x := Binary64.ofRatio n 1
    if x.isInf then .error .intTooLarge else .ok x
  | .bool b => .ok (Binary64.ofRatio (if b then 1 else 0) 1)
  | .str s =>
    match readReal s with
    | some x => .ok x
    | none => .error (.badRealText s false)
  | j => .error (.notReal j.kind)

/-- The text of a value laid out in an array of texts; such an array drops the `NUL` characters
that end a text. -/
def arrayText : Json → String
  | .str s => String.ofList (s.toList.reverse.dropWhile (· = '\x00')).reverse
  | .int n => toString n
  | .float x => Json.floatShown x
  | .bool b => if b then "True" else "False"
  | j => j.shown

/-- The double of a value laid out in an array of texts. -/
def realOfArrayText (j : Json) : Except Problem Binary64 :=
  let t := arrayText j
  match readReal t with
  | some x => .ok x
  | none => .error (.badRealText t true)

/-- Whether two doubles are equal as numbers: a NaN equals nothing, and the zeros are equal. -/
def sameReal (x y : Binary64) : Bool :=
  !x.isNaN && !y.isNaN &&
    (if x.isInf || y.isInf then x.bits == y.bits else x.scaled == y.scaled)

end Shape

end RoadAtlas
