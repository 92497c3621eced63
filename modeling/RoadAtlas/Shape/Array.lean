import RoadAtlas.Shape.Problem

/-!
# Rectangular arrays of values

Nested lists are laid out as a rectangular array when, level by level, every node is a list and
all lists of a level have one length; the first level whose nodes are not all lists ends the
array, and its nodes are the array's elements in order. A level that mixes lists with other
values, or lists of different lengths, makes the lists *ragged* after the levels before it.
Text and objects are elements, never lists. An array has at most `maxDimensions` levels: lists
at the level below them are refused.

The elements have a common kind, the least one that holds them all: truth values, integers
that fit 64 signed bits, integers that fit 64 unsigned bits, doubles, text, or arbitrary values.
Integers of both signed and unsigned range meet in doubles; text takes in numbers and truth
values; `null`, objects and integers beyond 64 bits are arbitrary. An array without elements
holds doubles.

## Main definitions

* `Shape.ElemKind`, `Shape.ElemKind.join`, `Shape.ElemKind.isNumber`.
* `Shape.Layout`, `Shape.layout`: the lengths and the elements of an array, or its raggedness.
* `Json.depth`: how deeply lists and objects nest.
-/

namespace RoadAtlas

mutual

/-- How deeply lists and objects nest in a value; a scalar has depth zero. -/
def Json.depth : Json → Nat
  | .arr items => Json.depthItems items + 1
  | .obj fields => Json.depthFields fields + 1
  | _ => 0

/-- The greatest depth of some items. -/
def Json.depthItems : List Json → Nat
  | [] => 0
  | v :: rest => max v.depth (Json.depthItems rest)

/-- The greatest depth of some members. -/
def Json.depthFields : List (String × Json) → Nat
  | [] => 0
  | (_, v) :: rest => max v.depth (Json.depthFields rest)

end

namespace Shape

/-- The kind of the elements of an array. -/
inductive ElemKind where
  | bool
  | int
  | uint
  | float
  | text
  | object
deriving DecidableEq, Repr

namespace ElemKind

/-- The kind of one element. -/
def ofValue : Json → ElemKind
  | .bool _ => .bool
  | .int n =>
    if -Int.pow 2 63 ≤ n ∧ n < Int.pow 2 63 then .int
    else if 0 ≤ n ∧ n < Int.pow 2 64 then .uint
    else .object
  | .float _ => .float
  | .str _ => .text
  | _ => .object

/-- The least kind that holds both. -/
def join : ElemKind → ElemKind → ElemKind
  | .object, _ => .object
  | _, .object => .object
  | .text, _ => .text
  | _, .text => .text
  | .float, _ => .float
  | _, .float => .float
  | .int, .uint => .float
  | .uint, .int => .float
  | .int, _ => .int
  | _, .int => .int
  | .uint, _ => .uint
  | _, .uint => .uint
  | .bool, .bool => .bool

/-- The kind of some elements; no elements make doubles. -/
def ofValues : List Json → ElemKind
  | [] => .float
  | v :: vs => vs.foldl (fun k w => k.join (ofValue w)) (ofValue v)

/-- Whether the kind is numeric: integers or doubles. -/
def isNumber : ElemKind → Bool
  | .int | .uint | .float => true
  | _ => false

end ElemKind

/-- An array: its lengths level by level, and its elements in order. -/
structure Layout where
  lengths : List Nat
  elements : List Json
deriving Repr

/-- The length of a list node. -/
def listLength? : Json → Option Nat
  | .arr items => some items.length
  | _ => none

/-- The children of the list nodes of a level. -/
def nextLevel (nodes : List Json) : List Json :=
  nodes.flatMap fun n => match n with
    | .arr items => items
    | _ => []

/-- The most dimensions an array has. -/
def maxDimensions : Nat := 64

/-- Lays out a level of nodes, with the lengths of the levels above (innermost first). -/
def layoutLevel : Nat → List Nat → List Json → Except Problem Layout
  | 0, above, nodes => .ok ⟨above.reverse, nodes⟩
  | fuel + 1, above, nodes =>
    if nodes.all fun n => (listLength? n).isNone then .ok ⟨above.reverse, nodes⟩
    else if maxDimensions ≤ above.length then .error .tooManyDimensions
    else
      match nodes.head? >>= listLength? with
      | some len =>
        if nodes.all fun n => listLength? n == some len then
          layoutLevel fuel (len :: above) (nextLevel nodes)
        else .error (.ragged above.reverse)
      | none => .error (.ragged above.reverse)

/-- The array of a value. -/
def layout (v : Json) : Except Problem Layout := layoutLevel (v.depth + 1) [] [v]

/-- The lengths without the levels of length one. -/
def Layout.squeezed (l : Layout) : List Nat := l.lengths.filter (· ≠ 1)

end Shape

end RoadAtlas
