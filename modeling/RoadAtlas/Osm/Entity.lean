import RoadAtlas.Time.Timestamp
import RoadAtlas.Json.Display
import RoadAtlas.Dict

/-!
# Map elements

The elements of the road map: nodes (points with scaled coordinates) and ways (paths through
nodes), each with its revision (visibility, version, changeset, time and author) and its tags.
A tag is a key and a value, with the id of the way or the node that owns it.

Coordinates are integers: degrees times `10 ^ 7` (see `Coordinate`).

The JSON form of map elements has the field names of the stored rows. A tag is `{k, v, way_id,
node_id}` with `null` for an absent owner. A way is its id, its revision and its node ids; a
node its id, its coordinates and its revision. Timestamps are written in the exchange form.

Tags name their owner by an id under an owner key. Attaching a list of tags to a list of owners
gathers the tags in a dictionary keyed by owner id: every id of the owners starts with no tags,
then each tag in turn is appended to the list of the id it names, when that id is a key; a tag
that names no owner, or no id at all, is left out. Each owner is then copied with the list of
its id in place of the tags it had, so owners with the same id share one list.

## Main definitions

* `Tag`, `Revision`, `Node`, `Way`: the elements.
* `WaySet`: ways with the nodes and way tags that belong to them.
* `OwnerKey`, `Tag.owner`: which owner id of a tag is meant.
* `Tag.toJson`, `Way.toJson`, `Node.toJson`, `WaySet.toJson`: the JSON form.
* `Tag.gather`, `Tag.byOwner`: the dictionary of the tags of each owner id.
* `Tag.attach`: owners copied with the tags gathered under their ids; `Node.attachTags` and
  `Way.attachTags` are its two instances.
* `OwnerKey.ofValue`: an owner key from a value, or the failure for any other value.
-/

namespace RoadAtlas

/-- A key and a value, owned by a way, a node, or neither. -/
structure Tag where
  key : String
  value : String
  wayId : Option Int
  nodeId : Option Int
deriving DecidableEq, Repr

/-- Who changed an element, when, and in which changeset. -/
structure Revision where
  visible : Bool
  version : Int
  changeset : Int
  timestamp : Timestamp
  user : String
  uid : Int
deriving DecidableEq, Repr

/-- A point of the map, its coordinates scaled by `10 ^ 7`. -/
structure Node where
  id : Int
  latitude : Int
  longitude : Int
  revision : Revision
  tags : List Tag
deriving DecidableEq, Repr

/-- A path through nodes, named by their ids in path order. -/
structure Way where
  id : Int
  revision : Revision
  nodes : List Int
  tags : List Tag
deriving DecidableEq, Repr

/-- Ways with the nodes and the way tags that belong to them. -/
structure WaySet where
  ways : List Way
  nodes : List Node
  wayTags : List Tag
deriving DecidableEq, Repr

/-- Which owner id of a tag names its owner. -/
inductive OwnerKey where
  | way
  | node
deriving DecidableEq, Repr

/-- The owner id of a tag under a key. -/
def Tag.owner (key : OwnerKey) (t : Tag) : Option Int :=
  match key with
  | .way => t.wayId
  | .node => t.nodeId

/-- The field name of an owner key. -/
def OwnerKey.name : OwnerKey → String
  | .way => "way_id"
  | .node => "node_id"

/-- The owner key of a field name. -/
def OwnerKey.ofName? (s : String) : Option OwnerKey :=
  if s = "way_id" then some .way else if s = "node_id" then some .node else none

theorem OwnerKey.ofName?_name (k : OwnerKey) : OwnerKey.ofName? k.name = some k := by
  cases k <;> decide

/-! ## The JSON form -/

/-- An optional integer, `null` when absent. -/
def Json.ofOptionInt : Option Int → Json
  | some n => .int n
  | none => .null

/-- A tag as `{k, v, way_id, node_id}`. -/
def Tag.toJson (t : Tag) : Json :=
  .obj [("k", .str t.key), ("v", .str t.value), ("way_id", Json.ofOptionInt t.wayId),
    ("node_id", Json.ofOptionInt t.nodeId)]

/-- The fields of a revision. -/
def Revision.fields (r : Revision) : List (String × Json) :=
  [("visible", .bool r.visible), ("version", .int r.version), ("changeset_id", .int r.changeset),
    ("timestamp", .str r.timestamp.isoText), ("user", .str r.user), ("uid", .int r.uid)]

/-- A way as its id, revision and node ids. -/
def Way.toJson (w : Way) : Json :=
  .obj ([("id", .int w.id)] ++ w.revision.fields ++ [("nodes", .arr (w.nodes.map .int))])

/-- A node as its id, coordinates and revision. -/
def Node.toJson (n : Node) : Json :=
  .obj ([("id", .int n.id), ("latitude", .int n.latitude), ("longitude", .int n.longitude)] ++
    n.revision.fields)

/-- Ways, nodes and way tags. -/
def WaySet.toJson (s : WaySet) : Json :=
  .obj [("ways", .arr (s.ways.map Way.toJson)), ("nodes", .arr (s.nodes.map Node.toJson)),
    ("way_tags", .arr (s.wayTags.map Tag.toJson))]

/-! ## Attaching tags to their owners -/

/-- One tag of the gathering loop: appended to the list of the id it names under `key` when the
dictionary has that id, and left out otherwise. -/
def Tag.gather (key : OwnerKey) (byOwner : List (Int × List Tag)) (t : Tag) :
    List (Int × List Tag) :=
  match t.owner key with
  | some i => if Dict.contains byOwner i then Dict.push i t byOwner else byOwner
  | none => byOwner

/-- The tags of each owner id: every id starts with no tags, then the tags are gathered in
order. -/
def Tag.byOwner (key : OwnerKey) (ids : List Int) (tags : List Tag) : List (Int × List Tag) :=
  tags.foldl (Tag.gather key) (ids.foldl (fun d i => Dict.insert i [] d) [])

/-- Owners, each copied with the tags gathered under its id. -/
def Tag.attach {α : Type} (id : α → Int) (withTags : α → List Tag → α) (key : OwnerKey)
    (owners : List α) (tags : List Tag) : List α :=
  let byOwner := Tag.byOwner key (owners.map id) tags
  owners.map fun o => withTags o (Dict.getD byOwner (id o) [])

/-- Nodes, each with the tags that name it. -/
def Node.attachTags (key : OwnerKey) (nodes : List Node) (tags : List Tag) : List Node :=
  Tag.attach Node.id (fun n ts => { n with tags := ts }) key nodes tags

/-- Ways, each with the tags that name it. -/
def Way.attachTags (key : OwnerKey) (ways : List Way) (tags : List Tag) : List Way :=
  Tag.attach Way.id (fun w ts => { w with tags := ts }) key ways tags

/-- An owner key from a value: the text `way_id` or `node_id`. Any other value fails, and the
message shows it as plain text. -/
def OwnerKey.ofValue (j : Json) : Except Failure OwnerKey :=
  match j with
  | .str s =>
    match OwnerKey.ofName? s with
    | some k => .ok k
    | none => .error (invalid j)
  | _ => .error (invalid j)
where
  /-- The failure for a value that is no owner key. -/
  invalid (j : Json) : Failure :=
    ⟨.badValue, "Invalid owner key: '" ++ j.display ++ "', expected one of ('way_id', 'node_id')"⟩

end RoadAtlas
