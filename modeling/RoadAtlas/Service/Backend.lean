import RoadAtlas.Osm.Entity.Read
import RoadAtlas.Survey.Row
import RoadAtlas.Service.Changeset
import RoadAtlas.Http.Response

/-!
# Backends

The service reads its data through five calls: survey geometries of road ids, the existing
road ids among some, ways with their nodes and tags, the way carrying a tag value, and the
creation of a changeset. A `Backend` gives fixed answers to all five, and names the calls that
fail; every call is recorded, in order, whether it fails or not.

A failing call ends the request with status 500 and `Database query failed`. Creating a
changeset without an answer ends it with status 500 and `Could not add changeset of user <uid>
to database.`

A backend is read from an object with the optional members `field_geometries`,
`existing_road_ids` (rows `{road_id}`), `ways` (`{ways, nodes, way_tags}`),
`way_id_by_tag_value`, `changeset_id` and `fail`; the first member that does not read is
reported. The way id and the changeset id are answered as they are given, whatever their type;
`null` is no answer.

## Main definitions

* `Call`, `Backend`, `Backend.read`.
* `Handler`: a computation that records calls and may end in a response.
* `Backend.fieldGeometries`, `Backend.existingRoadIds`, `Backend.ways`,
  `Backend.wayIdByTagValue`, `Backend.createChangeset`.
-/

namespace RoadAtlas

/-- A call made to the backend, with its argument. -/
inductive Call where
  | fieldGeometries (ids : List String)
  | existingRoadIds (ids : List String)
  | ways (ids : List Json)
  | wayIdByTagValue (value : String)
  | createChangeset (request : ChangesetRequest)

namespace Call

/-- The name of a call. -/
def name : Call → String
  | .fieldGeometries _ => "get_field_geometries"
  | .existingRoadIds _ => "get_existing_road_ids"
  | .ways _ => "get_ways"
  | .wayIdByTagValue _ => "get_way_id_by_tag_value"
  | .createChangeset _ => "create_changeset"

/-- The argument of a call as JSON. -/
def argument : Call → Json
  | .fieldGeometries ids => .arr (ids.map .str)
  | .existingRoadIds ids => .arr (ids.map .str)
  | .ways ids => .arr ids
  | .wayIdByTagValue v => .str v
  | .createChangeset r => r.toJson

end Call

/-- Fixed answers to the backend calls, and the calls that fail. -/
structure Backend where
  fieldGeometries : List GeometryRow
  existingRoadIds : List String
  ways : WaySet
  wayIdByTagValue : Option Json
  changesetId : Option Json
  failing : List String

/-- A computation that records backend calls and may end early with a response. -/
abbrev Handler := ExceptT Http.Response (StateM (List Call))

namespace Backend

/-- Records a call; a failing call ends the request. -/
def call (b : Backend) (c : Call) : Handler Unit := do
  modify (· ++ [c])
  if b.failing.contains c.name then throw (Http.Response.detail 500 "Database query failed")

/-- Survey rows of some roads. -/
def getFieldGeometries (b : Backend) (ids : List String) : Handler (List GeometryRow) := do
  b.call (.fieldGeometries ids)
  pure b.fieldGeometries

/-- The existing road ids among some. -/
def getExistingRoadIds (b : Backend) (ids : List String) : Handler (List String) := do
  b.call (.existingRoadIds ids)
  pure b.existingRoadIds

/-- Ways with their nodes and tags. -/
def getWays (b : Backend) (ids : List Json) : Handler WaySet := do
  b.call (.ways ids)
  pure b.ways

/-- The way that carries a tag value. -/
def getWayIdByTagValue (b : Backend) (value : String) : Handler (Option Json) := do
  b.call (.wayIdByTagValue value)
  pure b.wayIdByTagValue

/-- A new changeset. -/
def createChangeset (b : Backend) (r : ChangesetRequest) : Handler Json := do
  b.call (.createChangeset r)
  match b.changesetId with
  | some id => pure id
  | none =>
    throw (Http.Response.detail 500
      ("Could not add changeset of user " ++ toString r.uid ++ " to database."))

/-- A member of the backend description, read if present. -/
def member {α : Type} (fs : List (String × Json)) (name : String) (default : α)
    (f : Json → Checked α) : Checked α :=
  Field.optional fs name default f

/-- An answer given as it is; `null` is no answer. -/
def answer (j : Json) : Checked (Option Json) :=
  .ok (match j with
    | .null => none
    | j => some j)

/-- The empty set of ways. -/
def noWays : WaySet := ⟨[], [], []⟩

/-- A backend from its description. -/
def read (j : Json) : Checked Backend := do
  let fs := match j with
    | .obj fs => fs
    | _ => []
  let geometries ← member fs "field_geometries" [] (Field.list GeometryRow.read)
  let existing ← member fs "existing_road_ids" [] (Field.list
    (Field.record .modelType fun r => Field.required r "road_id" Field.text))
  let ways ← member fs "ways" noWays WaySet.read
  let wayId ← member fs "way_id_by_tag_value" none answer
  let changeset ← member fs "changeset_id" none answer
  let failing ← member fs "fail" [] (Field.list Field.text)
  pure ⟨geometries, existing, ways, wayId, changeset, failing⟩

end Backend

end RoadAtlas
