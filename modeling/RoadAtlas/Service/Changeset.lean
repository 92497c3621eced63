import RoadAtlas.Schema.Field

/-!
# Changeset requests

A request to open a changeset names the user (id and display name) and the changeset's tags.
Absent fields take their defaults: user id `1`, user `placeholder`, no tags. The request body is
`{"uid", "user", "osm": {"changeset": {"tag": [{"k", "v"}]}}}`; every record in it must be an
object (anything else is no source of fields), and its fields are read leniently (`Field`).

A request can be written back in the same form.

## Main definitions

* `ChangesetRequest`, `ChangesetRequest.read`, `ChangesetRequest.toJson`.
* `ChangesetRequest.isAnonymous`: a request without a user id or without a user name.
-/

namespace RoadAtlas

/-- A request to open a changeset. -/
structure ChangesetRequest where
  uid : Int
  user : String
  tags : List (String × String)
deriving DecidableEq, Repr

namespace ChangesetRequest

/-- A record read from an object; anything else has no fields to read. -/
def record {α : Type} (f : List (String × Json) → Checked α) : Json → Checked α :=
  Field.record .modelAttributesType f

/-- A changeset tag. -/
def readTag : Json → Checked (String × String) :=
  record fun fs =>
    Checked.both (Field.required fs "k" Field.text) (Field.required fs "v" Field.text)

/-- The tags of the `changeset` record. -/
def readContent : Json → Checked (List (String × String)) :=
  record fun fs => Field.optional fs "tag" [] (Field.list readTag)

/-- The tags of the `osm` record. -/
def readOsm : Json → Checked (List (String × String)) :=
  record fun fs => Field.optional fs "changeset" [] readContent

/-- A request from an object. -/
def read : Json → Checked ChangesetRequest :=
  record fun fs =>
    (Checked.both (Field.optional fs "uid" 1 Field.integer)
      (Checked.both (Field.optional fs "user" "placeholder" Field.text)
        (Field.optional fs "osm" [] readOsm))).map
      fun (uid, user, tags) => ⟨uid, user, tags⟩

/-- The request in its body form. -/
def toJson (r : ChangesetRequest) : Json :=
  .obj [("uid", .int r.uid), ("user", .str r.user),
    ("osm", .obj [("changeset", .obj [("tag", .arr (r.tags.map fun (k, v) =>
      .obj [("k", .str k), ("v", .str v)]))])])]

/-- A request without a user id or without a user name. -/
def isAnonymous (r : ChangesetRequest) : Bool := r.uid == 0 || r.user.isEmpty

end ChangesetRequest

end RoadAtlas
