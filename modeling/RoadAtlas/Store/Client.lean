import RoadAtlas.Store.Database
import RoadAtlas.Survey.Row
import RoadAtlas.Osm.Entity.Read
import RoadAtlas.Service.Changeset
import RoadAtlas.Dict

/-!
# Queries and changes of the store

The service reads survey geometries, road ids, ways and the way carrying a tag value from the
store, and opens changesets in it. Each query selects the rows whose column is among the asked
values (`Cell.within`), the asked values first converted by the column's affinity, joins a
changeset's author when it has one, orders rows only where it says so, and reads every row into
its record (`GeometryRow`, `Way`, `Node`, `Tag`); the first row that does not read ends the query
with its issues.

* Survey geometries are the rows of `field_data_geometries` for the road ids, in table order.
* Road ids are the distinct road ids among those rows.
* Ways are the rows of `current_ways` for the way ids in id order, each with the ids of its nodes
  and the name and id of the author of its changeset (`""` and `0` without one); the node ids are
  gathered from the link rows in order of way id and position, in a dictionary keyed by way id
  whose keys are equal when their values are (`Cell.DictKey`). Nodes are the rows of
  `current_nodes` that those ways reference; tags are the rows of `current_way_tags` for the way
  ids.
* The way of a tag value is the smallest way id of a tag with that value.
* A changeset is opened in one transaction: the user is added if missing, the changeset gets
  the next key, and its tags follow. A failure leaves the store as it was.

An empty list of ids reads nothing.

## Main definitions

* `Database.fieldGeometries`, `Database.existingRoadIds`, `Database.ways`,
  `Database.wayIdByTagValue`.
* `Database.wayRecord`, `Database.nodeRecord`, `Database.tagRecord`: the records of rows.
* `Cell.DictKey`: a cell as the key of a dictionary of the client.
* `Database.createChangeset`.
-/

namespace RoadAtlas

namespace Store

/-- A cell as the key of a dictionary of the client: two keys are one when their values are
equal, so `1` and `1.0` are one key, and so are two `NULL`s. -/
structure Cell.DictKey where
  cell : Cell

instance : BEq Cell.DictKey := ⟨fun a b => a.cell.compare b.cell == .eq⟩

/-- Rows in the order of a key, rows of equal keys in their table order. -/
def orderBy (key : Row → List Cell) (rows : List Row) : List Row :=
  rows.mergeSort fun a b => Cell.compareLists (key a) (key b) != .gt

/-- The first of the cells that are equal in a condition, in order. -/
def distinct (cs : List Cell) : List Cell :=
  cs.foldl (fun seen c => if seen.any (·.compare c == .eq) then seen else seen ++ [c]) []

/-- A record read from the cells of a row and further members, its issues as the failure. -/
def readRow {α : Type} (read : Json → Checked α) (fields : List (String × Cell))
    (more : List (String × Json)) : Except Failure α :=
  (read (.obj (fields.map (fun (k, c) => (k, c.toJson)) ++ more))).mapError Issue.toFailure

namespace Database

/-- The survey geometries of some road ids. -/
def fieldGeometries (db : Database) (ids : List Cell) : Except Failure (List GeometryRow) :=
  if ids.isEmpty then .ok []
  else
    let ids := ids.map (·.withAffinity .text)
    let t := Table.fieldDataGeometries
    ((db.rows t).filter fun r => (r.cell t "road_id").within ids).mapM fun r =>
      readRow GeometryRow.read
        [("source", r.cell t "type"), ("road_id", r.cell t "road_id"), ("geometry", r.cell t "geom")] []

/-- The road ids, among some, that have survey geometries. -/
def existingRoadIds (db : Database) (ids : List Cell) : Except Failure (List String) :=
  if ids.isEmpty then .ok []
  else
    let ids := ids.map (·.withAffinity .text)
    let t := Table.fieldDataGeometries
    let found := ((db.rows t).filter fun r => (r.cell t "road_id").within ids).map
      (Row.cell t · "road_id")
    (distinct found).mapM fun c =>
      readRow (Field.record .modelType fun fs => Field.required fs "road_id" Field.text)
        [("road_id", c)] []

/-- The row of a keyed table whose key a cell reads as. -/
def byKey (db : Database) (t : Table) (c : Cell) : Option Row :=
  match c.asKey with
  | some k => (db.rows t).find? (·.key == some k)
  | none => none

/-- The name and id of the author of a changeset, `""` and `0` when there is none. -/
def author (db : Database) (changeset : Cell) : Cell × Cell :=
  match db.byKey .changesets changeset with
  | none => (.text "", .int 0)
  | some c =>
    match db.byKey .users (c.cell .changesets "user_id") with
    | none => (.text "", .int 0)
    | some u => ((u.cell .users "display_name").coalesce (.text ""), u.cell .users "id")

/-- The author fields of a row with a changeset. -/
def authorFields (db : Database) (changeset : Cell) : List (String × Cell) :=
  let (user, uid) := db.author changeset
  [("user", user), ("uid", uid)]

/-- The record of a way row: its columns, the author of its changeset, and the ids of the nodes
of its path. -/
def wayRecord (db : Database) (r : Row) (path : List Cell) : Except Failure Way :=
  let t := Table.currentWays
  readRow Way.read
    ([("id", r.cell t "id"), ("visible", r.cell t "visible"), ("version", r.cell t "version"),
      ("changeset_id", r.cell t "changeset_id"), ("timestamp", r.cell t "timestamp")] ++
      db.authorFields (r.cell t "changeset_id"))
    [("nodes", .arr (path.map Cell.toJson))]

/-- The record of a node row: its columns and the author of its changeset. -/
def nodeRecord (db : Database) (r : Row) : Except Failure Node :=
  let n := Table.currentNodes
  readRow Node.read
    ([("id", r.cell n "id"), ("latitude", r.cell n "latitude"),
      ("longitude", r.cell n "longitude"), ("visible", r.cell n "visible"),
      ("version", r.cell n "version"), ("changeset_id", r.cell n "changeset_id"),
      ("timestamp", r.cell n "timestamp")] ++ db.authorFields (r.cell n "changeset_id")) []

/-- The record of a way tag row. -/
def tagRecord (r : Row) : Except Failure Tag :=
  let g := Table.currentWayTags
  readRow Tag.read [("way_id", r.cell g "way_id"), ("k", r.cell g "k"), ("v", r.cell g "v")] []

/-- Ways with the nodes they reference and their tags. -/
def ways (db : Database) (ids : List Cell) : Except Failure WaySet :=
  if ids.isEmpty then .ok ⟨[], [], []⟩
  else do
    let ids := ids.map (·.withAffinity .numeric)
    let links := orderBy (fun r => [r.cell .currentWayNodes "way_id", r.cell .currentWayNodes "sequence_id"])
      ((db.rows .currentWayNodes).filter fun r => (r.cell .currentWayNodes "way_id").within ids)
    -- the node ids of each way: each link row's node id appended to the list of its way id
    let nodeIds := links.foldl (fun d l =>
      Dict.push (Cell.DictKey.mk (l.cell .currentWayNodes "way_id"))
        (l.cell .currentWayNodes "node_id") d) []
    let t := Table.currentWays
    let wayRows := orderBy (fun r => [r.cell t "id"])
      ((db.rows t).filter fun r => (r.cell t "id").within ids)
    let ways ← wayRows.mapM fun r => db.wayRecord r (Dict.getD nodeIds ⟨r.cell t "id"⟩ [])
    let referenced := links.map (Row.cell .currentWayNodes · "node_id")
    let n := Table.currentNodes
    let nodes ← ((db.rows n).filter fun r => (r.cell n "id").within referenced).mapM db.nodeRecord
    let g := Table.currentWayTags
    let tags ← ((db.rows g).filter fun r => (r.cell g "way_id").within ids).mapM tagRecord
    pure ⟨ways, nodes, tags⟩

/-- The smallest way id of a tag with a value, `NULL` when no tag has it. -/
def wayIdByTagValue (db : Database) (value : Cell) : Cell :=
  let g := Table.currentWayTags
  let hits := orderBy (fun r => [r.cell g "way_id"])
    ((db.rows g).filter fun r => (r.cell g "v").equals (value.withAffinity .text))
  match hits.head? with
  | some r => r.cell g "way_id"
  | none => .null

/-- The e-mail address given to a user added for a changeset. -/
def userEmail (uid : Int) : String := toString uid ++ "@openroads.org"

/-- The failure of a changeset that the store did not create. -/
def notCreated (uid : Int) : Failure :=
  ⟨.changesetNotCreated, "Could not add changeset of user " ++ toString uid ++ " to database."⟩

/-- The tags of a changeset inserted one after another, each checked to have a UTF-8 form just
before its insert; an insert that does nothing is skipped. -/
def insertTags (db : Database) (key : Int) : List (String × String) → Except Failure Database
  | [] => .ok db
  | (k, v) :: rest => do
    Text.checkUtf8 k
    Text.checkUtf8 v
    let next ← db.insert .changesetTags [.int key, .text k, .text v]
    insertTags (next.getD db) key rest

/--
A new changeset for a request at a time, and the store after it. The user is added first when
no user has its id, then the changeset with the next key, then its tags, all in one
transaction: on failure the store is left as it was. A text without a UTF-8 form fails when
its row is inserted.
-/
def createChangeset (db : Database) (r : ChangesetRequest) (now : String) :
    Except Failure (Int × Database) := do
  if r.uid < Cell.minInt ∨ Cell.maxInt < r.uid then throw Cell.tooLarge
  let withUser ← if (db.byKey .users (.int r.uid)).isSome then pure db
    else do
      Text.checkUtf8 r.user
      let row : Row := [.int r.uid, .text r.user, .text (userEmail r.uid),
        .text (String.ofList (List.replicate 32 '0')), .int 1, .text now]
      pure ((← db.insert .users row).getD db)
  let key := withUser.nextKey .changesets
  match ← withUser.insert .changesets [.null, .int r.uid, .text now, .text now, .int 0] with
  | none => throw (notCreated r.uid)
  | some withChangeset =>
    let done ← insertTags withChangeset key r.tags
    pure (key, done)

end Database

end Store

end RoadAtlas
