import RoadAtlas.Json.Display

/-!
# Problems of geometry values

Why a GeoJSON value is not a shape. Most problems make the geometry malformed; two escape that
classification and fail on their own: an integer too large for a double, and an index past the
end of a list or a text.

Each problem has the message that names it. Messages quote texts and keys as their literal
forms (`Text.quoted`), and values with `Json.shown`.

## Main definitions

* `Shape.Problem`: the problems.
* `Shape.Problem.message`: the message of a problem.
* `Shape.Problem.escapes`: whether a problem is not a malformed geometry.
-/

namespace RoadAtlas

namespace Shape

/-- Why a value is not a shape. -/
inductive Problem where
  /-- A value of kind `kind` lacks the operation `name`. -/
  | noAttribute (kind name : String)
  /-- An object lacks the key, or is indexed by a position. -/
  | missingKey (key : Json)
  /-- A geometry type that names no shape, in lower case. -/
  | unknownType (name : String)
  /-- A value that cannot be iterated. -/
  | notIterable (kind : String)
  /-- A value that cannot be indexed. -/
  | notSubscriptable (kind : String)
  /-- A value that has no length. -/
  | noLength (kind : String)
  /-- A single value where a sequence of coordinates is needed. -/
  | scalarCoordinates
  /-- A value of a kind that is no number. -/
  | notReal (kind : String)
  /-- Text that is no number; `arrayText` when it was laid out in an array of texts. -/
  | badRealText (text : String) (arrayText : Bool)
  /-- Nested lists that are not rectangular after `depth` levels of the given lengths. -/
  | ragged (lengths : List Nat)
  /-- Point coordinates with more than one non-trivial axis. -/
  | pointArguments (coords : Json)
  /-- Coordinates of a width other than two or three. -/
  | ordinateDimension (width : Nat)
  /-- A single number where a point's coordinates are needed. -/
  | missingAxis
  /-- A line of exactly one point. -/
  | singlePointLine
  /-- A ring of fewer than three points. -/
  | shortRing
  /-- A ring whose first point has no plane position to close it with. -/
  | ringNotClosed
  /-- A polygon with holes and no shell. -/
  | holesWithoutShell
  /-- Nested lists deeper than an array has dimensions. -/
  | tooManyDimensions
  /-- A multi-part shape with an empty part. -/
  | emptyPart (kind : String)
  /-- An integer too large for a double. -/
  | intTooLarge
  /-- A position past the end of a list (`ofText` false) or a text. -/
  | indexOutOfRange (ofText : Bool)
deriving Repr

/-- Lengths as a tuple: `(2,)`, `(2, 3)`. -/
def tupleText : List Nat → String
  | [n] => "(" ++ toString n ++ ",)"
  | ns => "(" ++ ", ".intercalate (ns.map toString) ++ ")"

/-- The message of a problem. -/
def Problem.message : Problem → String
  | .noAttribute kind name => "'" ++ kind ++ "' object has no attribute '" ++ name ++ "'"
  | .missingKey key => key.shown
  | .unknownType name => "Unknown geometry type: " ++ Text.quoted name
  | .notIterable kind => "'" ++ kind ++ "' object is not iterable"
  | .notSubscriptable kind => "'" ++ kind ++ "' object is not subscriptable"
  | .noLength kind => "object of type '" ++ kind ++ "' has no len()"
  | .scalarCoordinates => "iteration over a 0-d array"
  | .notReal kind => "float() argument must be a string or a real number, not '" ++ kind ++ "'"
  | .badRealText text arrayText =>
    "could not convert string to float: " ++
      (if arrayText then "np.str_(" ++ Text.quoted text ++ ")" else Text.quoted text)
  | .ragged lengths =>
    "setting an array element with a sequence. The requested array has an inhomogeneous shape after " ++
      toString lengths.length ++ " dimensions. The detected shape was " ++ tupleText lengths ++
      " + inhomogeneous part."
  | .pointArguments coords =>
    "Point() takes only scalar or 1-size vector arguments, got (" ++ coords.shown ++ ",)"
  | .ordinateDimension width =>
    "The ordinate (last) dimension should be 2 or 3, got " ++ toString width
  | .missingAxis =>
    "points: Input operand 0 does not have enough dimensions (has 0, gufunc core with signature (d),()->() requires 1)"
  | .singlePointLine => "IllegalArgumentException: point array must contain 0 or >1 elements\n"
  | .shortRing => "A linearring requires at least 4 coordinates."
  | .ringNotClosed =>
    "IllegalArgumentException: Points of LinearRing do not form a closed linestring"
  | .holesWithoutShell => "IllegalArgumentException: shell is empty but holes are not"
  | .tooManyDimensions =>
    "setting an array element with a sequence. The requested array would exceed the maximum number of dimension of 64."
  | .emptyPart kind => "Can't create " ++ kind ++ " with empty component"
  | .intTooLarge => "int too large to convert to float"
  | .indexOutOfRange ofText => (if ofText then "string" else "list") ++ " index out of range"

/-- Whether a problem is no malformed geometry but a failure of its own. -/
def Problem.escapes : Problem → Bool
  | .intTooLarge => true
  | .indexOutOfRange _ => true
  | _ => false

end Shape

end RoadAtlas
