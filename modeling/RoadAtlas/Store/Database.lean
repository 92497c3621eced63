import RoadAtlas.Store.Cell

/-!
# The store

The store holds eight tables of map data, survey geometries, users and changesets. A row is its
cells in the order of the table's columns. Two tables, `users` and `changesets`, have an integer
key as their first column: a row without a key gets one above the largest key (or `1` in an
empty table), keys are unique, and rows are kept in key order. The other tables keep rows in the
order they were inserted. Each column converts what is stored in it by its affinity
(`Table.affinity`).

Triggers may stand on inserts: one makes an insert into `changesets` do nothing, two others
refuse inserts into `changeset_tags` and `users`.

## Main definitions

* `Store.Table`, `Table.columns`, `Store.Trigger`.
* `Store.Database`, `Database.insert`: an insert with its triggers.
* `Database.load`: a store from JSON rows and trigger names.

## Main results

* `rows_update_other`: writing a table leaves the other tables as they were.
-/

namespace RoadAtlas

namespace Store

/-- The tables of the store. -/
inductive Table where
  | fieldDataGeometries
  | currentWays
  | currentWayNodes
  | currentNodes
  | currentWayTags
  | users
  | changesets
  | changesetTags
deriving DecidableEq, Repr

namespace Table

/-- Every table. -/
def all : List Table :=
  [.fieldDataGeometries, .currentWays, .currentWayNodes, .currentNodes, .currentWayTags, .users,
   .changesets, .changesetTags]

/-- The name of a table. -/
def name : Table → String
  | .fieldDataGeometries => "field_data_geometries"
  | .currentWays => "current_ways"
  | .currentWayNodes => "current_way_nodes"
  | .currentNodes => "current_nodes"
  | .currentWayTags => "current_way_tags"
  | .users => "users"
  | .changesets => "changesets"
  | .changesetTags => "changeset_tags"

/-- The table of a name. -/
def ofName? (s : String) : Option Table := all.find? (·.name == s)

/-- The columns of a table, in order. -/
def columns : Table → List String
  | .fieldDataGeometries => ["type", "road_id", "geom"]
  | .currentWays => ["id", "visible", "version", "changeset_id", "timestamp"]
  | .currentWayNodes => ["way_id", "node_id", "sequence_id"]
  | .currentNodes => ["id", "latitude", "longitude", "visible", "version", "changeset_id", "timestamp"]
  | .currentWayTags => ["way_id", "k", "v"]
  | .users => ["id", "display_name", "email", "pass_crypt", "data_public", "creation_time"]
  | .changesets => ["id", "user_id", "created_at", "closed_at", "num_changes"]
  | .changesetTags => ["changeset_id", "k", "v"]

/-- The affinity of a column: the texts of survey rows, ways, nodes, tags, users and changesets
are text columns, and their ids, counts, flags and coordinates numeric. -/
def affinity : Table → String → Cell.Affinity
  | .fieldDataGeometries, _ => .text
  | .currentWays, c => if c = "timestamp" then .text else .numeric
  | .currentWayNodes, _ => .numeric
  | .currentNodes, c => if c = "timestamp" then .text else .numeric
  | .currentWayTags, c => if c = "way_id" then .numeric else .text
  | .users, c => if c = "id" ∨ c = "data_public" then .numeric else .text
  | .changesets, c => if c = "id" ∨ c = "user_id" ∨ c = "num_changes" then .numeric else .text
  | .changesetTags, c => if c = "changeset_id" then .numeric else .text

/-- Whether the first column is an integer key. -/
def keyed : Table → Bool
  | .users => true
  | .changesets => true
  | _ => false

theorem ofName?_name (t : Table) : ofName? t.name = some t := by
  cases t <;> rfl

end Table

/-- A row: its cells in column order. -/
abbrev Row := List Cell

/-- The cell of a named column of a row, `NULL` for a column the table does not have. -/
def Row.cell (t : Table) (r : Row) (column : String) : Cell :=
  match t.columns.idxOf? column with
  | some i => r.getD i .null
  | none => .null

/-- A row as its table stores it: each cell converted by its column's affinity. -/
def Row.conform (t : Table) (r : Row) : Row :=
  (t.columns.zip r).map fun (column, c) => c.withAffinity (t.affinity column)

/-- The key of a row of a keyed table. -/
def Row.key (r : Row) : Option Int := r.head?.bind Cell.asKey

/-- The triggers the store may hold. -/
inductive Trigger where
  /-- An insert into `changesets` does nothing. -/
  | rejectChangesets
  /-- An insert into `changeset_tags` is refused. -/
  | abortChangesetTags
  /-- An insert into `users` is refused. -/
  | abortUsers
deriving DecidableEq, Repr

namespace Trigger

/-- The name of a trigger. -/
def name : Trigger → String
  | .rejectChangesets => "reject_changesets"
  | .abortChangesetTags => "abort_changeset_tags"
  | .abortUsers => "abort_users"

/-- The trigger of a name. -/
def ofName? (s : String) : Option Trigger :=
  [Trigger.rejectChangesets, .abortChangesetTags, .abortUsers].find? (·.name == s)

/-- What a trigger does to an insert into a table: `none` if it lets it pass, `some none` if
it makes it do nothing, `some (some m)` if it refuses it with the message `m`. -/
def onInsert : Trigger → Table → Option (Option String)
  | .rejectChangesets, .changesets => some none
  | .abortChangesetTags, .changesetTags => some (some "tag rejected")
  | .abortUsers, .users => some (some "user rejected")
  | _, _ => none

end Trigger

/-- The store: the rows of each table and the triggers. -/
structure Database where
  rows : Table → List Row
  triggers : List Trigger

namespace Database

/-- The store with empty tables and no trigger. -/
def empty : Database := ⟨fun _ => [], []⟩

/-- The store with the rows of one table replaced. -/
def update (db : Database) (t : Table) (rs : List Row) : Database :=
  { db with rows := fun u => if u = t then rs else db.rows u }

theorem rows_update_other (db : Database) (t u : Table) (rs : List Row) (h : u ≠ t) :
    (db.update t rs).rows u = db.rows u := by
  simp [update, h]

theorem rows_update_self (db : Database) (t : Table) (rs : List Row) :
    (db.update t rs).rows t = rs := by
  simp [update]

/-- The key a new row of a keyed table gets: one above the largest key, `1` in an empty table. -/
def nextKey (db : Database) (t : Table) : Int :=
  match ((db.rows t).filterMap Row.key).max? with
  | some k => k + 1
  | none => 1

/-- A row placed among rows kept in key order. -/
def placeByKey (k : Int) (r : Row) : List Row → List Row
  | [] => [r]
  | s :: rest => if k < (s.key.getD 0) then r :: s :: rest else s :: placeByKey k r rest

/-- A row stored in a table, with no trigger: its cells are converted by the affinities of their
columns, and a keyed table checks and completes the key. -/
def put (db : Database) (t : Table) (r : Row) : Except Failure Database :=
  let r := Row.conform t r
  if t.keyed then
    let key : Except Failure Int := match r.head? with
      | none => .ok (db.nextKey t)
      | some .null => .ok (db.nextKey t)
      | some c =>
        match c.asKey with
        | some k => .ok k
        | none => .error ⟨.integrity, "datatype mismatch"⟩
    match key with
    | .error f => .error f
    | .ok k =>
      if (db.rows t).any (·.key == some k) then
        .error ⟨.integrity, "UNIQUE constraint failed: " ++ t.name ++ ".id"⟩
      else .ok (db.update t (placeByKey k (.int k :: r.drop 1) (db.rows t)))
  else .ok (db.update t (db.rows t ++ [r]))

/-- An insert with the triggers: `none` when a trigger made it do nothing. -/
def insert (db : Database) (t : Table) (r : Row) : Except Failure (Option Database) :=
  match db.triggers.filterMap (·.onInsert t) with
  | some message :: _ => .error ⟨.integrity, message⟩
  | none :: _ => .ok none
  | [] => (db.put t r).map some

/-- The row of a table from a JSON object of column values; columns left out are `NULL`. -/
def rowOf (t : Table) (fields : List (String × Json)) : Except Failure Row := do
  for (column, _) in fields do
    if !t.columns.contains column then
      throw ⟨.badStatement, "table " ++ t.name ++ " has no column named " ++ column⟩
  t.columns.mapM fun column => match Json.lookup column fields with
    | some v => Cell.ofJson v
    | none => .ok .null

/-- The rows of one table stored in order. -/
def seed (db : Database) (t : Table) : List Json → Except Failure Database
  | [] => .ok db
  | r :: rest => do
    let fields := match r with
      | .obj fs => fs
      | _ => []
    let db ← db.put t (← rowOf t fields)
    seed db t rest

/-- A store from a JSON object mapping table names to rows, with the named triggers. -/
def load (tables triggers : Json) : Except Failure Database := do
  let entries := match tables with
    | .obj fs => fs
    | _ => []
  let mut db := empty
  for (name, rows) in entries do
    match Table.ofName? name with
    | none => throw ⟨.badStatement, "no such table: " ++ name⟩
    | some t =>
      let rs := match rows with
        | .arr items => items
        | _ => []
      db ← db.seed t rs
  let names := match triggers with
    | .arr items => items.filterMap fun j => match j with
      | .str s => Trigger.ofName? s
      | _ => none
    | _ => []
  pure { db with triggers := names }

/-- The rows of a table as objects of column values. -/
def dump (db : Database) (t : Table) : List (List (String × Cell)) :=
  (db.rows t).map fun r => t.columns.zip r

end Database

end Store

end RoadAtlas
