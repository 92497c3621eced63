import RoadAtlas.Osm.Entity
import RoadAtlas.Schema.Field
import RoadAtlas.Time.Read

/-!
# Reading map elements

Map elements are read leniently from JSON objects (see `Field`). Absent optional fields take
their defaults: visible, version `1`, changeset `0`, user `""`, uid `0`, no node ids, no tags,
no owner ids. The issues of a record are listed in the order of its fields: for a node `id`,
`latitude`, `longitude`, `visible`, `version`, `changeset_id`, `timestamp`, `user`, `uid`,
`tags`; for a way `id`, `visible`, `version`, `changeset_id`, `timestamp`, `user`, `uid`,
`nodes`, `tags`; for a tag `k`, `v`, `way_id`, `node_id`.

## Main definitions

* `Tag.read`, `Node.read`, `Way.read`, `WaySet.read`.
-/

namespace RoadAtlas

/-- A tag from an object. -/
def Tag.read : Json → Checked Tag :=
  Field.record .modelType fun fs =>
    (Checked.both (Field.required fs "k" Field.text)
      (Checked.both (Field.required fs "v" Field.text)
        (Checked.both (Field.optional fs "way_id" none (Field.orNull Field.integer))
          (Field.optional fs "node_id" none (Field.orNull Field.integer))))).map
      fun (k, v, w, n) => ⟨k, v, w, n⟩

/-- The visibility and version of a revision. -/
def Revision.readHead (fs : List (String × Json)) : Checked (Bool × Int × Int) :=
  Checked.both (Field.optional fs "visible" true Field.truth)
    (Checked.both (Field.optional fs "version" 1 Field.integer)
      (Field.optional fs "changeset_id" 0 Field.integer))

/-- The time and author of a revision. -/
def Revision.readTail (fs : List (String × Json)) : Checked (Timestamp × String × Int) :=
  Checked.both (Field.required fs "timestamp" Timestamp.read)
    (Checked.both (Field.optional fs "user" "" Field.text)
      (Field.optional fs "uid" 0 Field.integer))

/-- A revision from the fields of an element. -/
def Revision.read (fs : List (String × Json)) : Checked Revision :=
  (Checked.both (readHead fs) (readTail fs)).map
    fun ((vis, ver, cs), (ts, user, uid)) => ⟨vis, ver, cs, ts, user, uid⟩

/-- The tags of an element, none when absent. -/
def Tag.readList (fs : List (String × Json)) : Checked (List Tag) :=
  Field.optional fs "tags" [] (Field.list Tag.read)

/-- A node from an object. -/
def Node.read : Json → Checked Node :=
  Field.record .modelType fun fs =>
    (Checked.both (Field.required fs "id" Field.integer)
      (Checked.both (Field.required fs "latitude" Field.integer)
        (Checked.both (Field.required fs "longitude" Field.integer)
          (Checked.both (Revision.read fs) (Tag.readList fs))))).map
      fun (id, lat, lon, rev, tags) => ⟨id, lat, lon, rev, tags⟩

/-- A way from an object. -/
def Way.read : Json → Checked Way :=
  Field.record .modelType fun fs =>
    (Checked.both (Field.required fs "id" Field.integer)
      (Checked.both (Revision.read fs)
        (Checked.both (Field.optional fs "nodes" [] (Field.list Field.integer))
          (Tag.readList fs)))).map
      fun (id, rev, nodes, tags) => ⟨id, rev, nodes, tags⟩

/-- Ways with their nodes and way tags, all three lists required. -/
def WaySet.read : Json → Checked WaySet :=
  Field.record .modelType fun fs =>
    (Checked.both (Field.required fs "ways" (Field.list Way.read))
      (Checked.both (Field.required fs "nodes" (Field.list Node.read))
        (Field.required fs "way_tags" (Field.list Tag.read)))).map
      fun (ways, nodes, tags) => ⟨ways, nodes, tags⟩

end RoadAtlas
