import RoadAtlas.Failure

/-!
# Validation issues

Reading a record field by field collects every problem instead of stopping at the first. An
`Issue` is one problem: where it sits (a path of object keys and list positions) and what it
is. The kinds carry the codes that clients match on, such as `int_parsing` or `missing`.

A message lists the issues in the order they were found, each as `path: code`, joined by
`"; "`, the path's steps joined by `.`.

## Main definitions

* `Issue.Step`, `Issue.Kind`, `Issue`: the location and the kind of a problem.
* `Checked`: a value, or the non-empty list of issues that prevent it.
* `Checked.under`: the issues of a part, seen from the whole.
* `Issue.message`, `Issue.toFailure`: the text of a list of issues.
-/

namespace RoadAtlas

/-- One step of a location: a key of an object or a position in a list. -/
inductive Issue.Step where
  | key (name : String)
  | index (i : Nat)
deriving DecidableEq, Repr

/-- What is wrong with a value. -/
inductive Issue.Kind where
  /-- A required field is absent. -/
  | missing
  /-- Not a value that an integer can be read from. -/
  | intType
  /-- Text that is no integer. -/
  | intParsing
  /-- Text too long to be read as an integer. -/
  | intParsingSize
  /-- A number with a fractional part where an integer is needed. -/
  | intFromFloat
  /-- A NaN or an infinity where a finite number is needed. -/
  | finiteNumber
  /-- Not a value that a truth value can be read from. -/
  | boolType
  /-- Text or a number that is no truth value. -/
  | boolParsing
  /-- Not text. -/
  | stringType
  /-- Not one of the allowed values. -/
  | enum
  /-- Not a list. -/
  | listType
  /-- Not an object where a record is needed. -/
  | modelType
  /-- Not an object where a record is read from a request body. -/
  | modelAttributesType
  /-- Not a value that a point in time can be read from. -/
  | datetimeType
  /-- A number that names no representable point in time. -/
  | datetimeParsing
  /-- Text that is neither a date and time nor a date. -/
  | datetimeFromDateParsing
  /-- A request body that is not JSON text. -/
  | jsonInvalid
deriving DecidableEq, Repr

/-- The code of a kind of issue. -/
def Issue.Kind.code : Issue.Kind → String
  | .missing => "missing"
  | .intType => "int_type"
  | .intParsing => "int_parsing"
  | .intParsingSize => "int_parsing_size"
  | .intFromFloat => "int_from_float"
  | .finiteNumber => "finite_number"
  | .boolType => "bool_type"
  | .boolParsing => "bool_parsing"
  | .stringType => "string_type"
  | .enum => "enum"
  | .listType => "list_type"
  | .modelType => "model_type"
  | .modelAttributesType => "model_attributes_type"
  | .datetimeType => "datetime_type"
  | .datetimeParsing => "datetime_parsing"
  | .datetimeFromDateParsing => "datetime_from_date_parsing"
  | .jsonInvalid => "json_invalid"

/-- A problem with a value: where it is and what it is. -/
structure Issue where
  path : List Issue.Step
  kind : Issue.Kind
deriving DecidableEq, Repr

/-- A value, or the issues that prevent it; the list of issues is never empty. -/
abbrev Checked (α : Type) := Except (List Issue) α

namespace Issue

/-- The text of a step. -/
def Step.text : Step → String
  | .key name => name
  | .index i => toString i

/-- The location of an issue, its steps joined by `.`. -/
def location (i : Issue) : String := ".".intercalate (i.path.map Step.text)

/-- One issue as `location: code`. -/
def render (i : Issue) : String := i.location ++ ": " ++ i.kind.code

/-- The text of a list of issues, in order. -/
def message (issues : List Issue) : String := "; ".intercalate (issues.map render)

/-- Issues as a failure of invalid fields. -/
def toFailure (issues : List Issue) : Failure := ⟨.invalidFields, message issues⟩

end Issue

namespace Checked

/-- A single issue at the value itself. -/
def fail {α : Type} (k : Issue.Kind) : Checked α := .error [⟨[], k⟩]

/-- The issues of a part, located from the whole by one more step in front. -/
def under {α : Type} (step : Issue.Step) (c : Checked α) : Checked α :=
  c.mapError (List.map fun i => ⟨step :: i.path, i.kind⟩)

/-- The issues of a result, none if it succeeded. -/
def issues {α : Type} : Checked α → List Issue
  | .ok _ => []
  | .error is => is

/-- Read every item of a list; the issues of all items are collected, item by item. -/
def all {α β : Type} (f : α → Checked β) (xs : List α) : Checked (List β) :=
  go 0 xs [] []
where
  go (i : Nat) : List α → List β → List Issue → Checked (List β)
    | [], acc, [] => .ok acc.reverse
    | [], _, errs => .error errs
    | x :: rest, acc, errs =>
      match under (.index i) (f x) with
      | .ok y => go (i + 1) rest (y :: acc) errs
      | .error es => go (i + 1) rest acc (errs ++ es)

end Checked

end RoadAtlas
