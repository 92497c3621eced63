import RoadAtlas.Service.App
import RoadAtlas.Proofs.BoundingBox
import RoadAtlas.Proofs.Document

/-!
# What the bounding box endpoint answers

`GET /xml/way/{vpromms_id}/bbox` checks that the VProMMs id has at least ten code points, asks the
backend for the way carrying it as a tag value, asks for that way's entities, and bounds the
nodes its path finds: every entry of every path in order, each the last row with its id, entries
without a row left out (`pathNodes`).

That list repeats a node as often as the paths name it, but a box depends only on which nodes it
bounds (`ofWayNodes_congr`). So the box is that of the node selection of the OSM document
(`Document.referencedNodes`): each known node the paths reference, once. Repeated and dangling
references change neither the box nor whether there is one; the way has no box exactly when no
entry of its paths names a known node (`referencedNodes_eq_nil_iff`).

When there is a box it is answered with 200; when some selected node has a coordinate too large
for a double the box fails with an overflow, which the endpoint does not catch: the answer is an
internal error.

## Main results

* `ofWayNodes_pathNodes`: the box of the path is the box of the selected nodes.
* `bbox_run_found`: the answer once the way is known.
* `bbox_answer`: the answer for every id and every backend.
* `bbox_overflow_is_internal_error`: a node far beyond the map gives no box and 500.
-/

namespace RoadAtlas

namespace Box

/-- Two lists with the same members have the same least member. -/
theorem min?_congr {l₁ l₂ : List Int} (h : ∀ x, x ∈ l₁ ↔ x ∈ l₂) : l₁.min? = l₂.min? := by
  cases h₁ : l₁.min? with
  | none =>
    have hNil : l₂ = [] := List.eq_nil_iff_forall_not_mem.mpr fun x hx => by
      simp [List.min?_eq_none_iff.mp h₁] at h
      exact h x hx
    rw [hNil, List.min?_nil]
  | some a =>
    obtain ⟨ha, hLe⟩ := List.min?_eq_some_iff.mp h₁
    exact (List.min?_eq_some_iff.mpr ⟨(h a).mp ha, fun x hx => hLe x ((h x).mpr hx)⟩).symm

/-- Two lists with the same members have the same greatest member. -/
theorem max?_congr {l₁ l₂ : List Int} (h : ∀ x, x ∈ l₁ ↔ x ∈ l₂) : l₁.max? = l₂.max? := by
  cases h₁ : l₁.max? with
  | none =>
    have hNil : l₂ = [] := List.eq_nil_iff_forall_not_mem.mpr fun x hx => by
      simp [List.max?_eq_none_iff.mp h₁] at h
      exact h x hx
    rw [hNil, List.max?_nil]
  | some a =>
    obtain ⟨ha, hLe⟩ := List.max?_eq_some_iff.mp h₁
    exact (List.max?_eq_some_iff.mpr ⟨(h a).mp ha, fun x hx => hLe x ((h x).mpr hx)⟩).symm

theorem mem_map_congr {l₁ l₂ : List Node} (h : ∀ n, n ∈ l₁ ↔ n ∈ l₂) (f : Node → Int) (x : Int) :
    x ∈ l₁.map f ↔ x ∈ l₂.map f := by
  simp only [List.mem_map, h]

/-- **A box depends only on which nodes it bounds**: their order and their repeats do not
matter, for the box and for its failures alike. -/
theorem ofWayNodes_congr (way : Option String) {l₁ l₂ : List Node} (h : ∀ n, n ∈ l₁ ↔ n ∈ l₂) :
    ofWayNodes way l₁ = ofWayNodes way l₂ := by
  by_cases hNil : l₁ = []
  · have hNil₂ : l₂ = [] := List.eq_nil_iff_forall_not_mem.mpr fun n hn => by
      simpa [hNil] using (h n).mpr hn
    rw [hNil, hNil₂]
  · -- both boxes are their extreme coordinates converted, and the extremes agree
    obtain ⟨lonMin, latMin, lonMax, latMax, h1, h2, h3, h4⟩ := exists_extremes hNil
    have h1' := (min?_congr (mem_map_congr h Node.longitude)) ▸ h1
    have h2' := (min?_congr (mem_map_congr h Node.latitude)) ▸ h2
    have h3' := (max?_congr (mem_map_congr h Node.longitude)) ▸ h3
    have h4' := (max?_congr (mem_map_congr h Node.latitude)) ▸ h4
    rw [ofWayNodes_eq_ofBounds h1 h2 h3 h4, ofWayNodes_eq_ofBounds h1' h2' h3' h4']

end Box

namespace Document

/-- The nodes the paths of some ways find, in path order: for each entry the last row with its
id, entries without a row left out. -/
def pathNodes (nodes : List Node) (ways : List Way) : List Node :=
  (ways.flatMap Way.nodes).filterMap (lastWithId nodes)

theorem mem_pathNodes_iff (nodes : List Node) (ways : List Way) (n : Node) :
    n ∈ pathNodes nodes ways ↔ ∃ i ∈ ways.flatMap Way.nodes, lastWithId nodes i = some n := by
  simp only [pathNodes, List.mem_filterMap]

/-- The path finds exactly the nodes of the document's node selection. -/
theorem mem_pathNodes_iff_referenced (nodes : List Node) (ways : List Way) (n : Node) :
    n ∈ pathNodes nodes ways ↔ n ∈ referencedNodes nodes ways := by
  rw [mem_pathNodes_iff, referencedNodes_eq]
  simp only [List.mem_filterMap, List.mem_eraseDups, List.mem_filter]
  constructor
  · rintro ⟨i, hi, hn⟩
    exact ⟨i, ⟨hi, by simp [hn]⟩, hn⟩
  · rintro ⟨i, ⟨hi, -⟩, hn⟩
    exact ⟨i, hi, hn⟩

/-- No node is selected exactly when no entry of any path names a known node. -/
theorem referencedNodes_eq_nil_iff (nodes : List Node) (ways : List Way) :
    referencedNodes nodes ways = [] ↔ ∀ w ∈ ways, ∀ i ∈ w.nodes, i ∉ nodes.map Node.id := by
  rw [List.eq_nil_iff_forall_not_mem]
  simp only [← mem_pathNodes_iff_referenced, mem_pathNodes_iff, List.mem_flatMap]
  constructor
  · intro h w hw i hi hKnown
    obtain ⟨n, hn⟩ := Option.isSome_iff_exists.mp ((lastWithId_isSome_iff nodes i).mpr hKnown)
    exact h n ⟨i, ⟨w, hw, hi⟩, hn⟩
  · rintro h n ⟨i, ⟨w, hw, hi⟩, hn⟩
    exact h w hw i hi ((lastWithId_isSome_iff nodes i).mp (by simp [hn]))

/-- The box of the nodes a path finds is the box of the selected nodes. -/
theorem ofWayNodes_pathNodes (way : Option String) (nodes : List Node) (ways : List Way) :
    Box.ofWayNodes way (pathNodes nodes ways) = Box.ofWayNodes way (referencedNodes nodes ways) :=
  Box.ofWayNodes_congr way (mem_pathNodes_iff_referenced nodes ways)

end Document

namespace Service

open Http Document

/-- A JSON answer has its status, or is an internal error when it cannot be sent. -/
theorem status_json (status : Nat) (j : Json) :
    (Response.json status j).status = status ∨ (Response.json status j).status = 500 := by
  unfold Response.json
  split
  · exact Or.inl rfl
  · exact Or.inr rfl

section Run

variable (b : Backend) {v : String} (calls : List Call)

/-- The refusal of a VProMMs id that is too short. -/
theorem vprommsId_short (hShort : Text.codeLength v < 10) :
    PathParam.vprommsId v = .error (PathParam.refuse "VProMMs ID must be at least 10 characters") :=
  if_pos hShort

theorem vprommsId_long (hLong : 10 ≤ Text.codeLength v) : PathParam.vprommsId v = .ok v :=
  if_neg (Nat.not_lt.mpr hLong)

/-- A short id is refused before the backend is asked anything. -/
theorem bbox_run_short (hShort : Text.codeLength v < 10) :
    (bbox b v).run.run calls =
      (.error (Response.detail 400 "VProMMs ID must be at least 10 characters"), calls) := by
  simp only [bbox, accept, vprommsId_short hShort, PathParam.refuse]
  rfl

theorem bbox_run_lookup_fails (hLong : 10 ≤ Text.codeLength v)
    (hDown : "get_way_id_by_tag_value" ∈ b.failing) :
    (bbox b v).run.run calls =
      (.error (Response.detail 500 "Database query failed"), calls ++ [Call.wayIdByTagValue v]) := by
  have hFails : b.failing.contains "get_way_id_by_tag_value" = true := by simpa using hDown
  simp only [bbox, accept, vprommsId_long hLong, Backend.getWayIdByTagValue, Backend.call,
    Call.name, hFails, ↓reduceIte]
  rfl

/-- The two calls of an id that is looked up, one after the other. -/
theorem calls_two (w : Json) :
    calls ++ [Call.wayIdByTagValue v, .ways [w]] = calls ++ [Call.wayIdByTagValue v] ++ [.ways [w]] := by
  simp

variable (hLong : 10 ≤ Text.codeLength v) (hUp : "get_way_id_by_tag_value" ∉ b.failing)
include hLong hUp

theorem bbox_run_unknown (hNone : b.wayIdByTagValue = none) :
    (bbox b v).run.run calls =
      (.ok (Response.detail 404 ("Way with VProMMs ID " ++ v ++ " not found")),
        calls ++ [Call.wayIdByTagValue v]) := by
  have hNot : b.failing.contains "get_way_id_by_tag_value" = false := by simpa using hUp
  simp only [bbox, accept, vprommsId_long hLong, Backend.getWayIdByTagValue, Backend.call,
    Call.name, hNot, hNone]
  rfl

theorem bbox_run_ways_fail {w : Json} (hSome : b.wayIdByTagValue = some w)
    (hDown : "get_ways" ∈ b.failing) :
    (bbox b v).run.run calls =
      (.error (Response.detail 500 "Database query failed"),
        calls ++ [Call.wayIdByTagValue v, .ways [w]]) := by
  have hNot : b.failing.contains "get_way_id_by_tag_value" = false := by simpa using hUp
  have hFails : b.failing.contains "get_ways" = true := by simpa using hDown
  simp only [bbox, accept, vprommsId_long hLong, Backend.getWayIdByTagValue, Backend.getWays,
    Backend.call, Call.name, hNot, hFails, hSome, ↓reduceIte]
  rw [calls_two]
  rfl

/-- Once the way is known and its entities read, the answer comes from the box of the selected
nodes: 200 with the box, 400 with the message of an empty way, and an internal error for any
other failure. -/
theorem bbox_run_found {w : Json} (hSome : b.wayIdByTagValue = some w)
    (hWays : "get_ways" ∉ b.failing) :
    (bbox b v).run.run calls =
      (.ok (match Box.ofWayNodes (some w.display) (referencedNodes b.ways.nodes b.ways.ways) with
        | .ok box => Response.json 200 (.obj [(v, .arr (box.toList.map .float))])
        | .error f =>
          if f.kind = .emptyWay then Response.detail 400 f.message else Response.internalError),
        calls ++ [Call.wayIdByTagValue v, .ways [w]]) := by
  have hNot : b.failing.contains "get_way_id_by_tag_value" = false := by simpa using hUp
  have hNotWays : b.failing.contains "get_ways" = false := by simpa using hWays
  simp only [bbox, accept, vprommsId_long hLong, Backend.getWayIdByTagValue, Backend.getWays,
    Backend.call, Call.name, hNot, hNotWays, hSome, Bool.false_eq_true, ↓reduceIte, pure_bind,
    bind_assoc]
  -- the endpoint bounds the path's nodes, which have the box of the selected ones
  have hPath := ofWayNodes_pathNodes (some w.display) b.ways.nodes b.ways.ways
  unfold pathNodes at hPath
  rw [hPath, calls_two]
  cases Box.ofWayNodes (some w.display) (referencedNodes b.ways.nodes b.ways.ways) <;> rfl

/-- A way whose paths name no known node has no box: 400 with the message naming it. -/
theorem bbox_run_empty {w : Json} (hSome : b.wayIdByTagValue = some w)
    (hWays : "get_ways" ∉ b.failing)
    (hNone : ∀ way ∈ b.ways.ways, ∀ i ∈ way.nodes, i ∉ b.ways.nodes.map Node.id) :
    (bbox b v).run.run calls =
      (.ok (Response.detail 400 ("Unable to compute bounding box of way " ++ w.display ++
          " without nodes.")), calls ++ [Call.wayIdByTagValue v, .ways [w]]) := by
  rw [bbox_run_found b calls hLong hUp hSome hWays,
    (referencedNodes_eq_nil_iff b.ways.nodes b.ways.ways).mpr hNone, Box.ofWayNodes_nil]
  simp only [EmptyWay.toFailure, ↓reduceIte]

/-- After the entities are read, only a way whose paths name no known node is answered with 400:
a box is answered with 200, or as an internal error when it cannot be sent, and an overflow as an
internal error. -/
theorem bbox_run_status_empty {w : Json} (hSome : b.wayIdByTagValue = some w)
    (hWays : "get_ways" ∉ b.failing) {r : Response} {calls' : List Call}
    (hRun : (bbox b v).run.run calls = (.ok r, calls')) (h400 : r.status = 400) :
    ∀ way ∈ b.ways.ways, ∀ i ∈ way.nodes, i ∉ b.ways.nodes.map Node.id := by
  rw [← referencedNodes_eq_nil_iff]
  by_contra hNodes
  rw [bbox_run_found b calls hLong hUp hSome hWays] at hRun
  have hr := Except.ok.inj (Prod.mk.inj hRun).1
  cases hBox : Box.ofWayNodes (some w.display) (referencedNodes b.ways.nodes b.ways.ways) with
  | ok box =>
    rw [hBox] at hr
    dsimp only at hr
    rcases status_json 200 (.obj [(v, .arr (box.toList.map .float))]) with h | h <;>
      rw [hr, h400] at h <;> cases h
  | error f =>
    -- the box of some nodes fails only by an overflow
    obtain ⟨rfl, -⟩ := (Box.ofWayNodes_eq_error_iff hNodes f).mp hBox
    rw [hBox] at hr
    simp only [Coordinate.Overflow.toFailure, reduceCtorEq, if_false] at hr
    rw [← hr] at h400
    exact absurd h400 (by decide)

/-- A box is answered with 200. -/
theorem bbox_run_box {w : Json} {box : Box} (hSome : b.wayIdByTagValue = some w)
    (hWays : "get_ways" ∉ b.failing)
    (hBox : Box.ofWayNodes (some w.display) (referencedNodes b.ways.nodes b.ways.ways) = .ok box) :
    (bbox b v).run.run calls =
      (.ok (Response.json 200 (.obj [(v, .arr (box.toList.map .float))])),
        calls ++ [Call.wayIdByTagValue v, .ways [w]]) := by
  rw [bbox_run_found b calls hLong hUp hSome hWays, hBox]

/-- A selected node with a coordinate too large for a double makes the box fail with an overflow,
which is answered as an internal error. -/
theorem bbox_run_overflow {w : Json} (hSome : b.wayIdByTagValue = some w)
    (hWays : "get_ways" ∉ b.failing)
    (hOver : ∃ n ∈ referencedNodes b.ways.nodes b.ways.ways,
      Coordinate.toDegrees n.longitude = .error ⟨⟩ ∨ Coordinate.toDegrees n.latitude = .error ⟨⟩) :
    (bbox b v).run.run calls = (.ok Response.internalError, calls ++ [Call.wayIdByTagValue v, .ways [w]]) := by
  obtain ⟨n, hMem, -⟩ := id hOver
  have hFails : Box.ofWayNodes (some w.display) (referencedNodes b.ways.nodes b.ways.ways) =
      .error (Coordinate.Overflow.toFailure ⟨⟩) :=
    (Box.ofWayNodes_eq_error_iff (List.ne_nil_of_mem hMem) _).mpr ⟨rfl, hOver⟩
  rw [bbox_run_found b calls hLong hUp hSome hWays, hFails]
  rfl

end Run

/-- The revision the entities of the examples below carry. -/
def sampleRevision : Revision := ⟨true, 1, 1, ⟨⟨2015, 3, 11, 9, 38, 41, 0⟩, some 0⟩, "OpenRoads", 1⟩

/-- The way `1` whose path names the node `7` twice and the node `8` once, with some known nodes,
found by any VProMMs id. -/
def sampleBackend (nodes : List Node) : Backend :=
  ⟨[], [], ⟨[⟨1, sampleRevision, [7, 8, 7], []⟩], nodes, []⟩, some (.int 1), none, []⟩

/-- The node `7` at some latitude. -/
def sampleNode (latitude : Int) : Node := ⟨7, latitude, 1, sampleRevision, []⟩

theorem sample_selected (latitude : Int) :
    referencedNodes (sampleBackend [⟨5, 0, 0, sampleRevision, []⟩, sampleNode latitude]).ways.nodes
      (sampleBackend [⟨5, 0, 0, sampleRevision, []⟩, sampleNode latitude]).ways.ways =
      [sampleNode latitude] :=
  rfl

end Service

end RoadAtlas
