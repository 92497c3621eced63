import RoadAtlas.Survey.Row
import RoadAtlas.Json.Read
import RoadAtlas.Shape.Check
import RoadAtlas.Dict

/-!
# Feature collections of survey geometries

The geometry text of a survey row is read as JSON (`Json.parse`), must be an object, and must
be a shape (`Shape.check`); the parsed object itself is the geometry. Any failure makes the row
malformed, with a message naming the road and the cause: the JSON reading message, `geometry is
not a JSON object`, or the shape problem. An integer literal too long to convert, an integer
too large for a double and an index past the end are failures of their own.

A feature is the geometry with a `properties` member naming the road and the source, in place
of any `properties` it had. Features are gathered in two ways:

* flat: one collection, a feature per row in row order;
* grouped: one entry per road id in order of first appearance, holding a collection per source
  of that road in order of first appearance, each with that road's and source's rows in order.
  The rows are gathered in a dictionary of roads whose values are dictionaries of sources: each
  row is appended to the list of its source within the dictionary of its road.

Rows are parsed in the order of their features, and the first failure ends the gathering.

## Main definitions

* `GeometryRow.parse`, `GeometryRow.feature`.
* `Survey.groups`: rows grouped by road and then by source.
* `Survey.flatCollection`, `Survey.groupedCollections`.
-/

namespace RoadAtlas

/-- The failure of a malformed geometry of a road. -/
def malformedGeometry (roadId detail : String) : Failure :=
  ⟨.malformedGeometry, "Invalid geometry of road " ++ roadId ++ ": " ++ detail⟩

/-- The failure of a shape problem of a road. -/
def Shape.Problem.toFailure (roadId : String) (p : Shape.Problem) : Failure :=
  match p with
  | .intTooLarge => ⟨.overflow, p.message⟩
  | .indexOutOfRange _ => ⟨.noIndex, p.message⟩
  | p => malformedGeometry roadId p.message

namespace GeometryRow

/-- The geometry of a row, parsed and checked. -/
def parse (row : GeometryRow) : Except Failure Json :=
  match Json.parse row.geometry with
  | .error (.tooManyDigits n) => .error ⟨.badValue, (Json.ReadError.tooManyDigits n).message ""⟩
  | .error (.tooDeep inArray) => .error ⟨.tooDeep, (Json.ReadError.tooDeep inArray).message ""⟩
  | .error e => .error (malformedGeometry row.roadId (e.message row.geometry))
  | .ok g =>
    match g with
    | .obj _ =>
      match Shape.check g with
      | .ok () => .ok g
      | .error p => .error (p.toFailure row.roadId)
    | _ => .error (malformedGeometry row.roadId "geometry is not a JSON object")

/-- The feature of a row: its geometry with the given properties. -/
def feature (row : GeometryRow) (properties : List (String × Json)) : Except Failure Json :=
  (row.parse).map fun g => g.set "properties" (.obj properties)

end GeometryRow

namespace Survey

/-- A feature collection. -/
def collection (features : List Json) : Json :=
  .obj [("type", .str "FeatureCollection"), ("features", .arr features)]

/-- Rows grouped by road id, then by source: each row in turn is appended to the list of its
source in the dictionary of its road, a new road starting with no sources. -/
def groups (rows : List GeometryRow) : List (String × List (Source × List GeometryRow)) :=
  rows.foldl (fun byRoad row => Dict.alter row.roadId [] (Dict.push row.source row) byRoad) []

/-- One collection with a feature per row, in row order. -/
def flatCollection (rows : List GeometryRow) : Except Failure Json := do
  let features ← rows.mapM fun row =>
    row.feature [("road_id", .str row.roadId), ("source", .str row.source.name)]
  pure (collection features)

/-- A collection per road and source, each road an entry of its own. -/
def groupedCollections (rows : List GeometryRow) : Except Failure Json := do
  let entries ← (groups rows).mapM fun (r, bySource) => do
    let collections ← bySource.mapM fun (s, own) => do
      let features ← own.mapM fun row =>
        row.feature [("source", .str s.name), ("road_id", .str r)]
      pure (collection features)
    pure (Json.obj [(r, .arr collections)])
  pure (.arr entries)

end Survey

end RoadAtlas
