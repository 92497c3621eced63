import RoadAtlas.Number.Binary64

/-!
# JSON values

A JSON value keeps what a reader of JSON text can tell apart: integers of any size apart from
doubles (`1` is not `1.0`), every double including the non-finite ones, and the members of an
object in the order they were first given. An object holds each key once: setting a key that is
present replaces its value where it stands, and a new key goes last.

## Main definitions

* `Json`: the values.
* `Json.get?`, `Json.set`: member lookup and update with the rule above.
* `Json.kind`: the name of the kind of a value, as type errors report it.
-/

namespace RoadAtlas

/-- A JSON value. -/
inductive Json where
  | null
  | bool (b : Bool)
  | int (n : Int)
  | float (x : Binary64)
  | str (s : String)
  | arr (items : List Json)
  | obj (fields : List (String × Json))
deriving Inhabited, Repr

namespace Json

/-- The value of `key` among object members, the only one since keys are not repeated. -/
def lookup (key : String) : List (String × Json) → Option Json
  | [] => none
  | (k, v) :: rest => if k = key then some v else lookup key rest

/-- Members with `key` set to `v`: replaced where it stands, or added last. -/
def setField (key : String) (v : Json) : List (String × Json) → List (String × Json)
  | [] => [(key, v)]
  | (k, w) :: rest => if k = key then (k, v) :: rest else (k, w) :: setField key v rest

/-- The member `key` of an object; `none` for a missing key or a value that is no object. -/
def get? (j : Json) (key : String) : Option Json :=
  match j with
  | .obj fields => lookup key fields
  | _ => none

/-- An object with the member `key` set to `v`; other values are left alone. -/
def set (j : Json) (key : String) (v : Json) : Json :=
  match j with
  | .obj fields => .obj (setField key v fields)
  | _ => j

/-- An object built member by member with `set`, so a repeated key keeps its first place and its last value. -/
def objOf (fields : List (String × Json)) : Json :=
  .obj (fields.foldl (fun acc kv => setField kv.1 kv.2 acc) [])

/-- The kind of a value under the names that type errors use. -/
def kind : Json → String
  | .null => "NoneType"
  | .bool _ => "bool"
  | .int _ => "int"
  | .float _ => "float"
  | .str _ => "str"
  | .arr _ => "list"
  | .obj _ => "dict"

theorem lookup_setField_self (key : String) (v : Json) (fields : List (String × Json)) :
    lookup key (setField key v fields) = some v := by
  induction fields with
  | nil => simp [setField, lookup]
  | cons kw rest ih =>
    obtain ⟨k, w⟩ := kw
    by_cases h : k = key
    · simp [setField, lookup, h]
    · simp [setField, lookup, h, ih]

end Json

end RoadAtlas
