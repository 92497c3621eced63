import RoadAtlas.Schema.Field

/-!
# Survey rows

A survey row is the geometry of one road as recorded by one survey tool: the road id, the tool
(`Source`) and the geometry as GeoJSON text. Rows are read leniently (see `Field`): the road id
and the geometry must be text, and the source one of the tools' names exactly.

## Main definitions

* `Source`: the survey tools, with their names.
* `GeometryRow`, `GeometryRow.read`.
-/

namespace RoadAtlas

/-- The survey tools. -/
inductive Source where
  | roadLabPro
  | routeShoot
deriving DecidableEq, Repr

namespace Source

/-- The name of a tool. -/
def name : Source → String
  | .roadLabPro => "RoadLabPro"
  | .routeShoot => "RouteShoot"

/-- The tool of a name. -/
def ofName? (s : String) : Option Source :=
  if s = "RoadLabPro" then some .roadLabPro
  else if s = "RouteShoot" then some .routeShoot
  else none

/-- A source field: one of the names, exactly. -/
def read : Json → Checked Source
  | .str s =>
    match ofName? s with
    | some src => .ok src
    | none => Checked.fail .enum
  | _ => Checked.fail .enum

theorem ofName?_name (s : Source) : ofName? s.name = some s := by
  cases s <;> decide

end Source

/-- The geometry of a road from one survey tool, as GeoJSON text. -/
structure GeometryRow where
  roadId : String
  source : Source
  geometry : String
deriving DecidableEq, Repr

/-- A survey row from an object. -/
def GeometryRow.read : Json → Checked GeometryRow :=
  Field.record .modelType fun fs =>
    (Checked.both (Field.required fs "road_id" Field.text)
      (Checked.both (Field.required fs "source" Source.read)
        (Field.required fs "geometry" Field.text))).map
      fun (r, s, g) => ⟨r, s, g⟩

end RoadAtlas
