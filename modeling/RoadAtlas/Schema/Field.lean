import RoadAtlas.Schema.Issue
import RoadAtlas.Json.Value
import RoadAtlas.Number.IntegerText
import RoadAtlas.Number.Rounding
import RoadAtlas.Text.Classes

/-!
# Reading record fields

Records arrive as JSON objects and are read leniently: a field of one type accepts values of
some other types that name a value of it without doubt.

* An integer field takes integers, `true` and `false` (as `1` and `0`), whole doubles strictly
  between `-2 ^ 63` and `2 ^ 63`, and text: trimmed of `White_Space` at both ends, an optional
  sign, ASCII digits with single `_` between digits, optionally followed by `.` and zeros, with
  at most 4300 digits after the leading zeros.
* A truth-value field takes `true` and `false`, the integers `0` and `1` (also as doubles), and
  the texts `0`, `1`, and in any ASCII case `f`, `n`, `no`, `off`, `false`, `t`, `y`, `on`,
  `yes`, `true`. Other integers of 64 bits are unreadable truth values; larger integers and
  doubles that are not whole 64-bit integers are of the wrong type.
* A text field takes text only; a list field lists only; a record field objects only.

A record reads all of its fields and reports the issues of every field that fails, in the
order of its fields; a list reports the issues of every item, in order.

## Main definitions

* `Field.integer`, `Field.truth`, `Field.text`, `Field.list`, `Field.orNull`: field readers.
* `Field.required`, `Field.optional`, `Field.record`: the fields of a record.
* `Checked.both`: two readings together, with the issues of both.
-/

namespace RoadAtlas

namespace Checked

/-- Two readings together; when either fails, the issues of the first come before those of the
second. -/
def both {α β : Type} (a : Checked α) (b : Checked β) : Checked (α × β) :=
  match a, b with
  | .ok x, .ok y => .ok (x, y)
  | a, b => .error (a.issues ++ b.issues)

end Checked

namespace Field

/-- The most significant digits an integer is read with. -/
def maxIntegerDigits : Nat := 4300

/-- Whether what follows the digits of an integer is nothing, or `.` and at least one zero. -/
def zeroFraction : List Char → Bool
  | [] => true
  | '.' :: zeros => !zeros.isEmpty && zeros.all (· = '0')
  | _ => false

/-- An integer from text: trimmed of `White_Space`, an optional sign, ASCII digits with single
`_` between digits, and optionally `.` followed by zeros. Past `maxIntegerDigits` digits after
the leading zeros, the text is too long to read; written with underscores, such a text is
refused as not an integer at all. -/
def integerOfText (s : String) : Checked Int :=
  let cs := (Text.trim s).toList
  let (negative, body) := match cs with
    | '+' :: rest => (false, rest)
    | '-' :: rest => (true, rest)
    | _ => (false, cs)
  match IntegerText.scanDigitsWith IntegerText.asciiPieceOf true body with
  | some (ds, tail) =>
    if ds.isEmpty || !zeroFraction tail then Checked.fail .intParsing
    else if maxIntegerDigits < (ds.dropWhile (· = 0)).length then
      Checked.fail (if body.contains '_' then .intParsing else .intParsingSize)
    else
      let n := IntegerText.digitsValue ds
      .ok (if negative then -(n : Int) else (n : Int))
  | none => Checked.fail .intParsing

/-- Whether a finite double lies strictly between `-2 ^ 63` and `2 ^ 63`, the range of whole
doubles that read as integers. -/
def inWordRange (x : Binary64) : Bool :=
  x.mag < Nat.pow 2 63 * Binary64.unitScale

/-- Whether an integer fits 64 signed bits. -/
def fitsWord (n : Int) : Bool := -Int.pow 2 63 ≤ n && n < Int.pow 2 63

/-- An integer field. -/
def integer : Json → Checked Int
  | .int n => .ok n
  | .bool b => .ok (if b then 1 else 0)
  | .float x =>
    if !x.isFinite then Checked.fail .finiteNumber
    else if !x.isIntegral then Checked.fail .intFromFloat
    else if inWordRange x then .ok x.truncate
    else Checked.fail .intParsingSize
  | .str s => integerOfText s
  | _ => Checked.fail .intType

/-- A truth value from text. -/
def truthOfText (s : String) : Checked Bool :=
  let l := s.toLower
  if s = "0" ∨ l = "f" ∨ l = "n" ∨ l = "no" ∨ l = "off" ∨ l = "false" then .ok false
  else if s = "1" ∨ l = "t" ∨ l = "y" ∨ l = "on" ∨ l = "yes" ∨ l = "true" then .ok true
  else Checked.fail .boolParsing

/-- A truth value from a whole number: `0` and `1`. -/
def truthOfInteger (n : Int) : Checked Bool :=
  if n = 0 then .ok false else if n = 1 then .ok true else Checked.fail .boolParsing

/-- A truth-value field. Numbers name truth values only as 64-bit integers: a larger integer,
a double that is not whole or out of that range, is of the wrong type. -/
def truth : Json → Checked Bool
  | .bool b => .ok b
  | .str s => truthOfText s
  | .int n => if fitsWord n then truthOfInteger n else Checked.fail .boolType
  | .float x =>
    if x.isFinite ∧ x.isIntegral ∧ inWordRange x then truthOfInteger x.truncate
    else Checked.fail .boolType
  | _ => Checked.fail .boolType

/-- A text field. -/
def text : Json → Checked String
  | .str s => .ok s
  | _ => Checked.fail .stringType

/-- A list field whose items are read by `f`. -/
def list {α : Type} (f : Json → Checked α) : Json → Checked (List α)
  | .arr items => Checked.all f items
  | _ => Checked.fail .listType

/-- A field that may be `null`. -/
def orNull {α : Type} (f : Json → Checked α) : Json → Checked (Option α)
  | .null => .ok none
  | j => (f j).map some

/-- A field that must be present. -/
def required {α : Type} (fields : List (String × Json)) (name : String)
    (f : Json → Checked α) : Checked α :=
  Checked.under (.key name) <|
    match Json.lookup name fields with
    | some v => f v
    | none => Checked.fail .missing

/-- A field that takes a default when absent. -/
def optional {α : Type} (fields : List (String × Json)) (name : String) (default : α)
    (f : Json → Checked α) : Checked α :=
  match Json.lookup name fields with
  | some v => Checked.under (.key name) (f v)
  | none => .ok default

/-- A record read from the members of an object; anything else is an issue of kind `notObject`. -/
def record {α : Type} (notObject : Issue.Kind) (f : List (String × Json) → Checked α) :
    Json → Checked α
  | .obj fields => f fields
  | _ => Checked.fail notObject

example : integer (.bool true) = .ok 1 := rfl

end Field

end RoadAtlas
