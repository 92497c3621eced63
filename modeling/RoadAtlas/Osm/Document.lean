import RoadAtlas.Osm.Entity
import RoadAtlas.Osm.Coordinate
import RoadAtlas.Xml.Element
import RoadAtlas.Dict

/-!
# OSM documents

Ways are exported as an OSM 0.6 document: the root `<osm version="0.6" generator="…">`, then one
`<node>` for each node that a way references and that is known, in the order of first reference
(of several known rows with one id the last counts), then one `<way>` per way, in order. A way
holds an `<nd ref>` for every entry of its path, known or not, and then its tags; a node holds
its tags.

The node section is found with two dictionaries: the nodes by id, each node set in turn as the
value of its id (`nodesById`), and the nodes taken, filled by a loop over the path of every way
that skips an id already taken and an id no node has (`takeReference`).

The attributes of an element are `id visible version changeset timestamp user uid`, and for
a node also `lat lon`. The timestamp is written in the map form (`Timestamp.mapText`), the
coordinates in their written form (`Coordinate.text`).

Elements are made in document order, and each is checked when it is made: first its attribute
values are computed (a timestamp out of range or a coordinate too large fails there), then
they are checked to be XML-compatible, then its children are made.

## Main definitions

* `Document.nodesById`, `Document.takeReference`, `Document.referencedNodes`: the nodes that a
  list of ways needs, in order.
* `Document.element`: the root element.
* `Document.write`: the document's text.
-/

namespace RoadAtlas

namespace Document

/-- The version of the format. -/
def formatVersion : String := "0.6"

/-- The generator named when none is given. -/
def defaultGenerator : String := "OpenRoads"

/-- The nodes by id: each node in turn is set as the value of its id, so of several nodes with
one id the last is kept. -/
def nodesById (nodes : List Node) : List (Int × Node) :=
  nodes.foldl (fun d n => Dict.insert n.id n d) []

/-- The node with an id, the last of the nodes with it. -/
def lastWithId (nodes : List Node) (id : Int) : Option Node :=
  Dict.get? (nodesById nodes) id

/-- One reference of the loop over the paths: an id already taken, or an id that no node has,
is skipped; any other id is taken with its node. -/
def takeReference (byId : List (Int × Node)) (taken : List (Int × Node)) (i : Int) :
    List (Int × Node) :=
  if Dict.contains taken i then taken
  else
    match Dict.get? byId i with
    | some n => Dict.insert i n taken
    | none => taken

/-- The known nodes that the ways reference, each once, in order of first reference: every entry
of the path of every way is taken in turn. -/
def referencedNodes (nodes : List Node) (ways : List Way) : List Node :=
  let byId := nodesById nodes
  (ways.foldl (fun taken w => w.nodes.foldl (takeReference byId) taken) []).map Prod.snd

/-- The failure of a timestamp outside the years `1 ..= 9999`. -/
def dateOutOfRange : Failure := ⟨.overflow, "date value out of range"⟩

/-- The attributes of a revision of the element `id`. -/
def revisionAttrs (id : Int) (r : Revision) : Except Failure (List (String × String)) := do
  let ts ← r.timestamp.mapText.mapError fun _ => dateOutOfRange
  pure [("id", toString id), ("visible", if r.visible then "true" else "false"),
    ("version", toString r.version), ("changeset", toString r.changeset), ("timestamp", ts),
    ("user", r.user), ("uid", toString r.uid)]

/-- A tag element. -/
def tagElement (t : Tag) : Except Failure Xml.Element :=
  Xml.Element.make "tag" [("k", t.key), ("v", t.value)] []

/-- A node element with its tags. -/
def nodeElement (n : Node) : Except Failure Xml.Element := do
  let attrs ← revisionAttrs n.id n.revision
  let lat ← (Coordinate.text n.latitude).mapError Coordinate.Overflow.toFailure
  let lon ← (Coordinate.text n.longitude).mapError Coordinate.Overflow.toFailure
  let attrs := attrs ++ [("lat", lat), ("lon", lon)]
  Xml.checkAttrs attrs
  let tags ← n.tags.mapM tagElement
  pure (.mk "node" attrs tags)

/-- An `nd` element naming a node. -/
def refElement (id : Int) : Xml.Element := .mk "nd" [("ref", toString id)] []

/-- A way element with its path and its tags. -/
def wayElement (w : Way) : Except Failure Xml.Element := do
  let attrs ← revisionAttrs w.id w.revision
  Xml.checkAttrs attrs
  let tags ← w.tags.mapM tagElement
  pure (.mk "way" attrs (w.nodes.map refElement ++ tags))

/-- The root element of the document of some ways and the nodes they may reference. -/
def element (generator : String) (nodes : List Node) (ways : List Way) :
    Except Failure Xml.Element := do
  let rootAttrs := [("version", formatVersion), ("generator", generator)]
  Xml.checkAttrs rootAttrs
  let nodeElements ← (referencedNodes nodes ways).mapM nodeElement
  let wayElements ← ways.mapM wayElement
  pure (.mk "osm" rootAttrs (nodeElements ++ wayElements))

/-- The text of the document. -/
def write (generator : String) (nodes : List Node) (ways : List Way) : Except Failure String :=
  (element generator nodes ways).map Xml.Element.document

end Document

end RoadAtlas
