import RoadAtlas.Text.Classes
import RoadAtlas.Number.IntegerText
import RoadAtlas.Json.Display

/-!
# Path parameters

The service names roads, ways and VProMMs ids in the path of a request. A list of ids is text
split at every `,`, each item stripped of blanks, empty items dropped. A way id is an integer
literal (see `IntegerText`) other than zero. A VProMMs id has at least ten characters.

Each rule refuses a bad parameter with status 400 and a message that says what was expected.
The rules also take any JSON value: a list of ids must be text, a way id is read as an integer
from any value that has one (a value with none is a type failure, a NaN is a bad literal), and a
VProMMs id may be anything that has a length (text, a list, an object).

## Main definitions

* `PathParam.items`: the items of a comma-separated list.
* `PathParam.roadIds`, `PathParam.wayId`, `PathParam.wayIds`, `PathParam.vprommsId`.
* `PathParam.roadIdsOf`, `PathParam.wayIdOf`, `PathParam.wayIdsOf`, `PathParam.vprommsIdOf`:
  the same rules on values.
-/

namespace RoadAtlas

namespace PathParam

/-- The items of a comma-separated list: the pieces between commas, stripped of blanks, the
empty ones dropped. -/
def items (s : String) : List String :=
  ((s.splitOn ",").map Text.strip).filter fun x => !x.isEmpty

/-- A refusal with status 400. -/
def refuse (message : String) : Failure := ⟨.rejected 400, message⟩

/-- The refusal of a way id that is not a non-zero integer. -/
def badWayId : Failure := refuse "Way ID must be a non-zero number"

/-- The shortest VProMMs id. -/
def minVprommsLength : Nat := 10

/-- A non-empty list of road ids. -/
def roadIds (s : String) : Except Failure (List String) :=
  match items s with
  | [] => .error (refuse "At least one road ID must be provided")
  | xs => .ok xs

/-- A non-zero integer. -/
def nonZero (n : Int) : Except Failure Int := if n = 0 then .error badWayId else .ok n

/-- A way id: an integer literal with a non-zero value. -/
def wayId (s : String) : Except Failure Int :=
  match IntegerText.readInteger s with
  | .ok n => nonZero n
  | .error _ => .error badWayId

/-- A non-empty list of way ids; the first bad item is refused. -/
def wayIds (s : String) : Except Failure (List Int) := do
  let ns ← (items s).mapM wayId
  match ns with
  | [] => .error (refuse "At least one way ID must be provided")
  | ns => .ok ns

/-- A VProMMs id of at least ten code points. -/
def vprommsId (s : String) : Except Failure String :=
  if Text.codeLength s < minVprommsLength then
    .error (refuse "VProMMs ID must be at least 10 characters")
  else .ok s

/-! ## Parameters given as values -/

/-- The text of a list parameter; other values cannot be split. -/
def splittable (j : Json) : Except Failure String :=
  match j with
  | .str s => .ok s
  | j => .error ⟨.noAttribute, "'" ++ j.kind ++ "' object has no attribute 'split'"⟩

/-- Road ids from a value. -/
def roadIdsOf (j : Json) : Except Failure (List String) := splittable j >>= roadIds

/-- Way ids from a value. -/
def wayIdsOf (j : Json) : Except Failure (List Int) := splittable j >>= wayIds

/-- A way id from a value: its integer, when it is non-zero. A bad literal or a NaN is refused;
a value without an integer, or an infinity, fails as it is. -/
def wayIdOf (j : Json) : Except Failure Int :=
  match j.toInteger with
  | .ok n => nonZero n
  | .error e =>
    let f := e.toFailure
    if f.kind = .badValue then .error badWayId else .error f

/-- The length of a value that has one. -/
def lengthOf : Json → Option Nat
  | .str s => some (Text.codeLength s)
  | .arr xs => some xs.length
  | .obj fs => some fs.length
  | _ => none

/-- A VProMMs id from a value: anything with a length of at least ten. -/
def vprommsIdOf (j : Json) : Except Failure Json :=
  match lengthOf j with
  | some n =>
    if n < minVprommsLength then .error (refuse "VProMMs ID must be at least 10 characters")
    else .ok j
  | none => .error ⟨.badType, "object of type '" ++ j.kind ++ "' has no len()"⟩



end PathParam

end RoadAtlas
