import RoadAtlas.Osm.Entity
import RoadAtlas.Osm.Coordinate

/-!
# Positions and bounding boxes

The position of a node is its longitude and latitude in degrees, in that order. The bounding
box of some nodes is the smallest and the largest longitude and latitude among their positions.
Nodes with no position (a coordinate too large for a double) have no box; no nodes have no box
either, which is the failure `EmptyWay` of the way they were meant to draw.

## Main definitions

* `Node.position`: longitude and latitude in degrees.
* `Box`, `Box.ofNodes`: the bounds of the positions of some nodes.
* `EmptyWay.toFailure`: the failure of a way without nodes.
-/

namespace RoadAtlas

/-- Longitude and latitude of a node in degrees. -/
def Node.position (n : Node) : Except Coordinate.Overflow (Binary64 × Binary64) := do
  let lon ← Coordinate.toDegrees n.longitude
  let lat ← Coordinate.toDegrees n.latitude
  pure (lon, lat)

/-- Smallest and largest longitude and latitude. -/
structure Box where
  minLon : Binary64
  minLat : Binary64
  maxLon : Binary64
  maxLat : Binary64
deriving DecidableEq, Repr

namespace Box

/-- The box of one position. -/
def ofPoint (p : Binary64 × Binary64) : Box := ⟨p.1, p.2, p.1, p.2⟩

/-- The box grown to hold a position. -/
def extend (b : Box) (p : Binary64 × Binary64) : Box :=
  ⟨b.minLon.min p.1, b.minLat.min p.2, b.maxLon.max p.1, b.maxLat.max p.2⟩

/-- The box of a non-empty list of positions. -/
def ofPoints (p : Binary64 × Binary64) (ps : List (Binary64 × Binary64)) : Box :=
  ps.foldl extend (ofPoint p)

/-- The bounds as a list: minimum longitude, minimum latitude, maximum longitude, maximum
latitude. -/
def toList (b : Box) : List Binary64 := [b.minLon, b.minLat, b.maxLon, b.maxLat]

/-- The box of the positions of some nodes: `none` for no nodes, an overflow if some node has
no position. -/
def ofNodes (nodes : List Node) : Except Coordinate.Overflow (Option Box) :=
  match nodes with
  | [] => .ok none
  | n :: rest => do
    let p ← n.position
    let ps ← rest.mapM Node.position
    pure (some (ofPoints p ps))

end Box

/-- A way without nodes, named by the text of its id when it is known. -/
structure EmptyWay where
  way : Option String
deriving DecidableEq, Repr

/-- The failure of a way without nodes. -/
def EmptyWay.toFailure (e : EmptyWay) : Failure :=
  match e.way with
  | none => ⟨.emptyWay, "Unable to compute bounding box of a way without nodes."⟩
  | some w => ⟨.emptyWay, "Unable to compute bounding box of way " ++ w ++ " without nodes."⟩

/-- The box of a way's nodes, or the failure of an empty way or an overflowing coordinate. -/
def Box.ofWayNodes (way : Option String) (nodes : List Node) : Except Failure Box :=
  match Box.ofNodes nodes with
  | .ok (some b) => .ok b
  | .ok none => .error (EmptyWay.toFailure ⟨way⟩)
  | .error e => .error e.toFailure

end RoadAtlas
