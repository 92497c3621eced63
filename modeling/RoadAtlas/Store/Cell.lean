import RoadAtlas.Json.Value
import RoadAtlas.Store.Numeral
import RoadAtlas.Failure
import RoadAtlas.Text.Utf8

/-!
# Cells of the store

A cell of the store holds `NULL`, an integer, a real or a text; a column without a declared
type keeps each value in the class it came in. Booleans are stored as the integers `1` and `0`.

Cells are ordered by class first: `NULL` before numbers, numbers before texts. Integers and reals
form one class and compare by exact value, so `1` and `1.0` are equal; texts compare code point by
code point. Equality in a condition (`a = b`, `a IN (…)`) is that order's equality, except that
`NULL` equals nothing, not even `NULL`.

A column has an affinity that converts what is stored in it: a text column stores numbers as
their text (`Numeral.realText` for doubles), a numeric column stores text that spells a number as
that number, and whole doubles as integers. A key column (`INTEGER PRIMARY KEY`) is numeric and
takes integers only.

## Main definitions

* `Store.Cell`, `Cell.compare`, `Cell.equals`, `Cell.within`.
* `Cell.ofJson`, `Cell.toJson`: cells to and from JSON values.
* `Cell.Affinity`, `Cell.withAffinity`: the conversion of a value stored in a column.
* `Cell.asKey`: the integer a key column reads from a cell.

## Main results

* `compare_self_int`, `equals_null`: an integer equals itself and `NULL` equals nothing.
-/

namespace RoadAtlas

namespace Store

/-- A stored value. -/
inductive Cell where
  | null
  | int (n : Int)
  | real (x : Binary64)
  | text (s : String)
deriving DecidableEq, Repr, Inhabited

namespace Cell

/-- The largest integer a cell holds, `2 ^ 63 - 1`. -/
def maxInt : Int := Int.pow 2 63 - 1

/-- The smallest integer a cell holds, `-2 ^ 63`. -/
def minInt : Int := -Int.pow 2 63

/-- The failure of an integer that no cell holds. -/
def tooLarge : Failure := ⟨.overflow, "Python int too large to convert to SQLite INTEGER"⟩

/-- The cell of a JSON value: booleans as `1` and `0`, a NaN as `NULL`; arrays and objects are
not stored and read as `NULL`. Text must have a UTF-8 form (`Text.checkUtf8`). -/
def ofJson : Json → Except Failure Cell
  | .null => .ok .null
  | .bool b => .ok (.int (if b then 1 else 0))
  | .int n => if minInt ≤ n ∧ n ≤ maxInt then .ok (.int n) else .error tooLarge
  | .float x => .ok (if x.isNaN then .null else .real x)
  | .str s => (Text.checkUtf8 s).map fun _ => .text s
  | .arr _ => .ok .null
  | .obj _ => .ok .null

/-- The JSON value of a cell. -/
def toJson : Cell → Json
  | .null => .null
  | .int n => .int n
  | .real x => .float x
  | .text s => .str s

/-- The class of a cell in the order: `NULL`, numbers, texts. -/
def rank : Cell → Nat
  | .null => 0
  | .int _ => 1
  | .real _ => 1
  | .text _ => 2

/-- The order of an integer and a real by exact value; infinities lie beyond every integer. -/
def compareIntReal (n : Int) (x : Binary64) : Ordering :=
  if x.isInf then (if x.sign then .gt else .lt)
  else Ord.compare (n * (Binary64.unitScale : Int)) x.scaled

/-- The order of two reals by exact value. -/
def compareReals (x y : Binary64) : Ordering :=
  if x.isInf ∧ y.isInf then
    (if x.sign = y.sign then .eq else if x.sign then .lt else .gt)
  else if x.isInf then (if x.sign then .lt else .gt)
  else if y.isInf then (if y.sign then .gt else .lt)
  else Ord.compare x.scaled y.scaled

/-- The order of cells: by class, then numbers by value and texts by code points. -/
def compare : Cell → Cell → Ordering
  | .int a, .int b => Ord.compare a b
  | .int a, .real y => compareIntReal a y
  | .real x, .int b => (compareIntReal b x).swap
  | .real x, .real y => compareReals x y
  | .text s, .text t => Ord.compare s t
  | a, b => Ord.compare a.rank b.rank

/-- Lexicographic order of lists of cells. -/
def compareLists : List Cell → List Cell → Ordering
  | [], [] => .eq
  | [], _ :: _ => .lt
  | _ :: _, [] => .gt
  | a :: as, b :: bs =>
    match compare a b with
    | .eq => compareLists as bs
    | o => o

/-- Equality in a condition: `NULL` equals nothing. -/
def equals : Cell → Cell → Bool
  | .null, _ => false
  | _, .null => false
  | a, b => compare a b == .eq

/-- `c IN (cs)`: the cell equals one of the candidates. -/
def within (c : Cell) (cs : List Cell) : Bool := cs.any (equals c)

/-- The cell of a double in a numeric column: an integer when the double is whole and strictly
between `-2 ^ 63` and `2 ^ 63`, the double otherwise. -/
def ofReal (x : Binary64) : Cell :=
  if x.isFinite ∧ x.isIntegral ∧ x.mag < Nat.pow 2 63 * Binary64.unitScale then .int x.truncate
  else .real x

/-- The number a text spells, if it spells one (`Numeral.scan`): an integer literal that fits
64 bits is that integer; any other number is the double the store reads, kept as an integer
when it is one (`ofReal`). -/
def numberOfText (s : String) : Option Cell :=
  match Numeral.scan s with
  | some r =>
    if !r.isNumber then none
    else
      let signed : Int := if r.negative then -(r.whole : Int) else r.whole
      if r.isInteger ∧ minInt ≤ signed ∧ signed ≤ maxInt then some (.int signed)
      else some (ofReal r.value)
  | none => none

/-- How a column converts a value stored in it. -/
inductive Affinity where
  /-- Numbers become their text. -/
  | text
  /-- Text that spells a number becomes the number, and whole doubles integers. -/
  | numeric
deriving DecidableEq, Repr

/-- A value converted by a column's affinity. -/
def withAffinity : Affinity → Cell → Cell
  | .text, .int n => .text (toString n)
  | .text, .real x => .text (Numeral.realText x)
  | .numeric, .text s => (numberOfText s).getD (.text s)
  | .numeric, .real x => ofReal x
  | _, c => c

/-- The integer a key column reads from a cell: the cell under numeric affinity, if that is an
integer. -/
def asKey (c : Cell) : Option Int :=
  match withAffinity .numeric c with
  | .int n => some n
  | _ => none

/-- The first non-`NULL` of two cells. -/
def coalesce : Cell → Cell → Cell
  | .null, c => c
  | c, _ => c

theorem compare_self_int (n : Int) : compare (.int n) (.int n) = .eq := by
  simp [compare]

theorem equals_null (c : Cell) : equals .null c = false := rfl

end Cell

end Store

end RoadAtlas
