import RoadAtlas.Json.Write
import RoadAtlas.Number.IntegerText
import RoadAtlas.Text.Quoted
import RoadAtlas.Failure

/-!
# Values shown in messages and read as integers

A message that names a value shows it as text: a string as it is, `None`, `True` and `False`
for the constants, numbers by their digits (`inf`, `nan` for the non-finite doubles), and
arrays and objects with their items quoted inside (`['a', 1]`, `{'k': 'v'}`).

A value read as an integer follows the same lenient rules: an integer is itself, a boolean is
`0` or `1`, a finite double is cut toward zero, and a string must be an integer literal
(`readInteger`). Other values are refused for their type.

## Main definitions

* `Json.display`, `Json.shown`: the plain and the quoted text of a value.
* `Json.toInteger`: a value read as an integer.
* `IntegerError`: why it cannot be, with `IntegerError.toFailure`.
-/

namespace RoadAtlas

namespace Json

/-- The text of a double in a message. -/
def floatShown (x : Binary64) : String :=
  if x.isNaN then "nan"
  else if x.isInf then (if x.sign then "-inf" else "inf")
  else x.toText

mutual

/-- The quoted text of a value, as it appears inside an array or an object. -/
def shown : Json → String
  | .null => "None"
  | .bool true => "True"
  | .bool false => "False"
  | .int n => intText n
  | .float x => floatShown x
  | .str s => Text.quoted s
  | .arr items => "[" ++ shownItems items ++ "]"
  | .obj fields => "\x7b" ++ shownFields fields ++ "\x7d"

/-- Items shown and separated by `, `. -/
def shownItems : List Json → String
  | [] => ""
  | [v] => shown v
  | v :: rest => shown v ++ ", " ++ shownItems rest

/-- Members shown as `key: value` and separated by `, `. -/
def shownFields : List (String × Json) → String
  | [] => ""
  | [(k, v)] => Text.quoted k ++ ": " ++ shown v
  | (k, v) :: rest => Text.quoted k ++ ": " ++ shown v ++ ", " ++ shownFields rest

end

/-- The plain text of a value: a string without quotes, anything else as `shown`. -/
def display : Json → String
  | .str s => s
  | j => shown j

end Json

/-- Why a value cannot be read as an integer. -/
inductive IntegerError where
  /-- A string that is no integer literal, with the reason. -/
  | text (s : String) (why : IntegerText.Error)
  /-- A value of a type that has no integer reading; the type's name. -/
  | kind (name : String)
  /-- A NaN. -/
  | nan
  /-- An infinity. -/
  | infinite
deriving DecidableEq, Repr

/-- The failure an integer reading ends in. -/
def IntegerError.toFailure : IntegerError → Failure
  | .text s .invalid =>
    ⟨.badValue, "invalid literal for int() with base 10: " ++ Text.takeChars (Text.quoted s) 200⟩
  | .text _ (.tooManyDigits n) =>
    ⟨.badValue, s!"Exceeds the limit (4300 digits) for integer string conversion: value has {n} digits; use sys.set_int_max_str_digits() to increase the limit"⟩
  | .kind name =>
    ⟨.badType, s!"int() argument must be a string, a bytes-like object or a real number, not '{name}'"⟩
  | .nan => ⟨.badValue, "cannot convert float NaN to integer"⟩
  | .infinite => ⟨.overflow, "cannot convert float infinity to integer"⟩

namespace Json

/-- A value read as an integer. -/
def toInteger : Json → Except IntegerError Int
  | .int n => .ok n
  | .bool b => .ok (if b then 1 else 0)
  | .float x =>
    if x.isNaN then .error .nan
    else if x.isInf then .error .infinite
    else .ok x.truncate
  | .str s =>
    match IntegerText.readInteger s with
    | .ok n => .ok n
    | .error why => .error (.text s why)
  | j => .error (.kind j.kind)

end Json

end RoadAtlas
