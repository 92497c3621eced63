import RoadAtlas.Shape.Array
import RoadAtlas.Shape.Real
import RoadAtlas.Text.Case

/-!
# Shapes of GeoJSON values

A GeoJSON object is a shape when its coordinates build the geometry its type names. The type is
matched in lower case; a `Feature` stands for its `geometry`. Coordinates that are `null` or
nested lists holding nothing else make the empty shape of the six simple types; for any other
type that is an unknown type.

* A point's coordinates are laid out as an array (`Shape.layout`); after dropping the levels of
  length one at most one level may remain. Elements that are not numbers are read as reals
  one by one, and the point has two or three ordinates.
* A line's coordinates are rows, each read as a sequence of reals; all rows have one width of
  two or three, and there are no rows or at least two.
* A ring is a line of at least three rows, closed by repeating its first row when the last
  differs; its first row needs numbers as its first two ordinates to close it.
* A polygon is a shell ring (no shell: empty) and hole rings; an empty shell takes no hole that
  is not empty.
* A multi-point is points and a multi-line lines, none of them empty; a multi-polygon is
  polygons, empty or not; a collection is shapes.

Values are iterated as lists (their items), text (its code points, `Text.symbols`) and objects
(their keys);
anything else cannot be iterated, and only lists and text can be indexed by position.

## Main definitions

* `Shape.point`, `Shape.line`, `Shape.ring`, `Shape.polygon`: the simple shapes.
* `Shape.check`: whether an object is a shape, or the first problem found.
-/

namespace RoadAtlas

namespace Shape

/-! ## Values as sequences -/

/-- What iterating over a value yields. -/
def items (j : Json) : Except Problem (List Json) :=
  match j with
  | .arr xs => .ok xs
  | .str s => .ok ((Text.symbols s).map fun x => .str x.text)
  | .obj fs => .ok (fs.map fun kv => .str kv.1)
  | j => .error (.notIterable j.kind)

/-- The length of a value that has one. -/
def length (j : Json) : Except Problem Nat :=
  match j with
  | .arr xs => .ok xs.length
  | .str s => .ok (Text.codeLength s)
  | .obj fs => .ok fs.length
  | j => .error (.noLength j.kind)

/-- Whether a value counts as true: non-zero numbers and non-empty containers. -/
def truthy : Json → Bool
  | .null => false
  | .bool b => b
  | .int n => n != 0
  | .float x => x.isNaN || x.mag != 0
  | .str s => !s.isEmpty
  | .arr xs => !xs.isEmpty
  | .obj fs => !fs.isEmpty

/-- The item at a position. An object has no positions: the position is a missing key. -/
def index (j : Json) (i : Nat) : Except Problem Json :=
  match j with
  | .arr xs =>
    match xs[i]? with
    | some v => .ok v
    | none => .error (.indexOutOfRange false)
  | .str s =>
    match (Text.symbols s)[i]? with
    | some x => .ok (.str x.text)
    | none => .error (.indexOutOfRange true)
  | .obj _ => .error (.missingKey (.int i))
  | j => .error (.notSubscriptable j.kind)

/-- A list or text without its first item. -/
def afterFirst : Json → Json
  | .arr xs => .arr xs.tail
  | .str s => .str (Text.encode (Text.symbols s).tail)
  | j => j

/-! ## Simple shapes -/

/-- Two or three ordinates. -/
def ordinates (width : Nat) : Except Problem Unit :=
  if width = 2 ∨ width = 3 then .ok () else .error (.ordinateDimension width)

/-- A point from its coordinates. -/
def point (coords : Json) : Except Problem Unit := do
  match coords with
  | .arr _ | .str _ | .obj _ => pure ()
  | j => throw (.notIterable j.kind)
  let l ← layout coords
  let kind := ElemKind.ofValues l.elements
  match l.squeezed with
  | [] => throw (if kind.isNumber then .missingAxis else .scalarCoordinates)
  | [k] =>
    if !kind.isNumber then
      let _ ← l.elements.mapM (if kind = .text then realOfArrayText else real)
    ordinates k
  | _ => throw (.pointArguments coords)

/-- The rows of a line or ring: each item read as a sequence of reals. -/
def rows (coords : Json) : Except Problem (List (List Binary64)) := do
  let os ← items coords
  os.mapM fun o => do
    let cs ← items o
    cs.mapM real

/-- The common width of rows. -/
def width (rs : List (List Binary64)) : Except Problem Nat :=
  match rs with
  | [] => .ok 0
  | r :: rest =>
    if rest.all (·.length == r.length) then .ok r.length else .error (.ragged [rs.length])

/-- A line from its coordinates; `true` when it is empty. -/
def line (coords : Json) : Except Problem Bool :=
  match coords with
  | .null => .ok true
  | _ => do
    let rs ← rows coords
    if rs.isEmpty then return true
    let w ← width rs
    ordinates w
    if rs.length = 1 then throw .singlePointLine
    return false

/-- Whether the first row has a plane position: its first two ordinates are numbers. A ring is
closed by its first row, so without one it cannot be closed. -/
def closable (rs : List (List Binary64)) : Bool :=
  match rs.head? with
  | some r => (r.take 2).all fun x => !x.isNaN
  | none => true

/-- A ring from its coordinates; `true` when it is empty. -/
def ring (coords : Json) : Except Problem Bool :=
  match coords with
  | .null => .ok true
  | _ => do
    let rs ← rows coords
    let w ← width rs
    if rs.isEmpty then return true
    ordinates w
    if rs.length < 3 then throw .shortRing
    if !closable rs then throw .ringNotClosed
    return false

/-- A polygon from its shell and its holes; `true` when it is empty. Without a shell (`null`) the
holes are not looked at; an empty shell has no holes but empty ones. -/
def polygon (shell holes : Json) : Except Problem Bool :=
  match shell with
  | .null => .ok true
  | _ => do
    let empty ← ring shell
    let hs ← items holes
    let holesEmpty ← hs.mapM ring
    if empty && holesEmpty.any (!·) then throw .holesWithoutShell
    return empty

/-! ## Multi-part shapes -/

/-- Points: none, or the items of a value with a length. -/
def multiPoint (coords : Json) : Except Problem Unit :=
  match coords with
  | .null => .ok ()
  | _ => do
    if (← length coords) = 0 then return
    let _ ← (← items coords).mapM point

/-- Lines, none of them empty: the items of a value that counts as true. -/
def multiLine (coords : Json) : Except Problem Unit :=
  if !truthy coords then .ok ()
  else do
    let _ ← (← items coords).mapM fun c => do
      if ← line c then throw (.emptyPart "MultiLineString")

/-- Polygons given as shell and holes; a polygon may be empty. -/
def multiPolygon (coords : Json) : Except Problem Unit := do
  let cs ← items coords
  let parts ← cs.mapM fun c => do
    let shell ← index c 0
    pure (shell, afterFirst c)
  let _ ← parts.mapM fun (shell, holes) => polygon shell holes

/-! ## Objects -/

mutual

/-- Whether coordinates hold nothing: `null`, or lists of such. -/
def coordinatesEmpty : Json → Bool
  | .null => true
  | .arr xs => allEmpty xs
  | _ => false

/-- Whether every item holds nothing. -/
def allEmpty : List Json → Bool
  | [] => true
  | x :: xs => coordinatesEmpty x && allEmpty xs

end

/-- The types with an empty shape. -/
def emptyTypes : List String :=
  ["point", "multipoint", "linestring", "multilinestring", "polygon", "multipolygon"]

/-- The members of an object. -/
def fieldsOf (j : Json) : Except Problem (List (String × Json)) :=
  match j with
  | .obj fs => .ok fs
  | j => .error (.noAttribute j.kind "get")

/-- The type of a geometry object, in lower case. -/
def typeName (fs : List (String × Json)) : Except Problem String :=
  match Json.lookup "type" fs with
  | some (.str t) => .ok (Text.lower t)
  | some j => .error (.noAttribute j.kind "lower")
  | none => .error (.noAttribute "NoneType" "lower")

/-- A member that must be present. -/
def member (fs : List (String × Json)) (key : String) : Except Problem Json :=
  match Json.lookup key fs with
  | some v => .ok v
  | none => .error (.missingKey (.str key))

/-- The geometry object of a value, with its type: a feature gives its geometry. -/
def geometryOf (ob : Json) : Except Problem (List (String × Json) × String) := do
  let fs ← fieldsOf ob
  let t ← typeName fs
  if t = "feature" then
    let gfs ← fieldsOf (← member fs "geometry")
    pure (gfs, ← typeName gfs)
  else pure (fs, t)

/-- Whether a value is a shape; `fuel` bounds the nesting of collections. -/
def checkWith : Nat → Json → Except Problem Unit
  | 0, _ => .ok ()
  | fuel + 1, ob => do
    let (fs, t) ← geometryOf ob
    match Json.lookup "coordinates" fs with
    | some c =>
      if coordinatesEmpty c then
        if t ∈ emptyTypes then return () else throw (.unknownType t)
    | none => pure ()
    if t = "point" then point (← member fs "coordinates")
    else if t = "linestring" then discard <| line (← member fs "coordinates")
    else if t = "linearring" then discard <| ring (← member fs "coordinates")
    else if t = "polygon" then do
      let c ← member fs "coordinates"
      discard <| polygon (← index c 0) (afterFirst c)
    else if t = "multipoint" then multiPoint (← member fs "coordinates")
    else if t = "multilinestring" then multiLine (← member fs "coordinates")
    else if t = "multipolygon" then multiPolygon (← member fs "coordinates")
    else if t = "geometrycollection" then do
      let gs ← items ((Json.lookup "geometries" fs).getD (.arr []))
      let _ ← gs.mapM (checkWith fuel)
    else throw (.unknownType t)

/-- Whether a value is a shape, or the first problem found. -/
def check (ob : Json) : Except Problem Unit := checkWith (ob.depth + 1) ob

end Shape

end RoadAtlas
