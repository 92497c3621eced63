import RoadAtlas.Proofs.Degrees
import RoadAtlas.Proofs.Gather

/-!
# Bounding boxes

The box of some nodes is computed by converting every node to degrees and folding the positions
with `Binary64.min` and `Binary64.max` (`Box.ofNodes`). The value in degrees is monotone, and one
value is one double (`Coordinate.toDegrees_mono`, `Coordinate.toDegrees_eq_of_scaled_eq`), so the
same box comes out of taking the least and the greatest integer coordinates first and converting
those four (`Box.ofBounds`). This module proves that for every list of nodes, overflows included:
a node that overflows makes one of the four bounds overflow, since the bounds lie on either side of
it and overflow depends only on the absolute value.

## Main results

* `Box.ofNodes_eq_ofBounds`: converting and then bounding is bounding and then converting.
* `Box.ofWayNodes_bounds`: the box of a way, where its nodes lie in it, the nodes its bounds come
  from, and its failures with their messages.
-/

namespace RoadAtlas.Box

open Coordinate Gather

/-- The box of four integer bounds, each converted to degrees once. -/
def ofBounds (minLon minLat maxLon maxLat : Int) : Except Coordinate.Overflow Box := do
  let minLon ← toDegrees minLon
  let minLat ← toDegrees minLat
  let maxLon ← toDegrees maxLon
  let maxLat ← toDegrees maxLat
  pure ⟨minLon, minLat, maxLon, maxLat⟩

theorem ofBounds_eq_ok_iff (a b c d : Int) (box : Box) :
    ofBounds a b c d = .ok box ↔
      toDegrees a = .ok box.minLon ∧ toDegrees b = .ok box.minLat ∧
        toDegrees c = .ok box.maxLon ∧ toDegrees d = .ok box.maxLat := by
  unfold ofBounds
  cases toDegrees a <;> cases toDegrees b <;> cases toDegrees c <;> cases toDegrees d <;>
    cases box <;> simp [bind, Except.bind, pure, Except.pure]

theorem ofBounds_eq_error_iff (a b c d : Int) :
    ofBounds a b c d = .error ⟨⟩ ↔
      toDegrees a = .error ⟨⟩ ∨ toDegrees b = .error ⟨⟩ ∨
        toDegrees c = .error ⟨⟩ ∨ toDegrees d = .error ⟨⟩ := by
  unfold ofBounds
  rcases toDegrees a with ⟨⟨⟩⟩ | _ <;> rcases toDegrees b with ⟨⟨⟩⟩ | _ <;>
    rcases toDegrees c with ⟨⟨⟩⟩ | _ <;> rcases toDegrees d with ⟨⟨⟩⟩ | _ <;>
    simp [bind, Except.bind, pure, Except.pure]

/-! ## Bounding after converting -/

/-- The box of one node is the box of its coordinates. -/
theorem ofBounds_ofPoint {node : Node} {p : Binary64 × Binary64} (hp : node.position = .ok p) :
    ofBounds node.longitude node.latitude node.longitude node.latitude = .ok (ofPoint p) := by
  obtain ⟨lon, lat⟩ := p
  obtain ⟨hLon, hLat⟩ := (position_eq_ok_iff node lon lat).mp hp
  exact (ofBounds_eq_ok_iff _ _ _ _ _).mpr ⟨hLon, hLat, hLon, hLat⟩

/-- One node more: the bounds taken before converting grow as the box does. -/
theorem ofBounds_extend {a b c d : Int} {box : Box} {node : Node} {p : Binary64 × Binary64}
    (hBox : ofBounds a b c d = .ok box) (hp : node.position = .ok p) :
    ofBounds (min a node.longitude) (min b node.latitude) (max c node.longitude)
      (max d node.latitude) = .ok (box.extend p) := by
  obtain ⟨lon, lat⟩ := p
  obtain ⟨hLon, hLat⟩ := (position_eq_ok_iff node lon lat).mp hp
  obtain ⟨ha, hb, hc, hd⟩ := (ofBounds_eq_ok_iff a b c d box).mp hBox
  exact (ofBounds_eq_ok_iff _ _ _ _ _).mpr
    ⟨min_toDegrees ha hLon, min_toDegrees hb hLat, max_toDegrees hc hLon, max_toDegrees hd hLat⟩

/-- The whole fold: the bounds taken before converting follow the box through every node. -/
theorem ofBounds_foldl {nodes : List Node} {ps : List (Binary64 × Binary64)}
    (hps : List.Forall₂ (fun node p => node.position = .ok p) nodes ps) :
    ∀ {a b c d : Int} {box : Box}, ofBounds a b c d = .ok box →
      ofBounds ((nodes.map Node.longitude).foldl min a) ((nodes.map Node.latitude).foldl min b)
        ((nodes.map Node.longitude).foldl max c) ((nodes.map Node.latitude).foldl max d) =
        .ok (ps.foldl extend box) := by
  induction hps with
  | nil => exact fun h => h
  | cons hp _ ih => exact fun h => ih (ofBounds_extend h hp)

/-! ## Overflow -/

/-- A coordinate that overflows lies between two bounds, one of which overflows too: the one on
its side of zero is at least as large in absolute value. -/
theorem toDegrees_error_of_between {lo x hi : Int} (hLo : lo ≤ x) (hHi : x ≤ hi)
    (hx : toDegrees x = .error ⟨⟩) : toDegrees lo = .error ⟨⟩ ∨ toDegrees hi = .error ⟨⟩ := by
  rw [toDegrees_eq_error_iff] at hx
  rw [toDegrees_eq_error_iff, toDegrees_eq_error_iff]
  generalize scale * (Nat.pow 2 1024 - Nat.pow 2 970) = T at hx ⊢
  omega

theorem ofNodes_cons (node : Node) (rest : List Node) :
    ofNodes (node :: rest) = (do
      let p ← node.position
      let ps ← rest.mapM Node.position
      pure (some (ofPoints p ps))) := rfl

section Extremes

variable {nodes : List Node} {lonMin latMin lonMax latMax : Int}
  (h1 : (nodes.map Node.longitude).min? = some lonMin)
  (h2 : (nodes.map Node.latitude).min? = some latMin)
  (h3 : (nodes.map Node.longitude).max? = some lonMax)
  (h4 : (nodes.map Node.latitude).max? = some latMax)

include h1 h2 h3 h4 in
/-- A node without a position makes the box of the extremes overflow. -/
theorem ofBounds_eq_error_of_mem {node : Node} (hMem : node ∈ nodes)
    (hErr : node.position = .error ⟨⟩) : ofBounds lonMin latMin lonMax latMax = .error ⟨⟩ := by
  have hLon1 := (List.min?_eq_some_iff.mp h1).2 _ (List.mem_map_of_mem hMem)
  have hLat1 := (List.min?_eq_some_iff.mp h2).2 _ (List.mem_map_of_mem hMem)
  have hLon2 := (List.max?_eq_some_iff.mp h3).2 _ (List.mem_map_of_mem hMem)
  have hLat2 := (List.max?_eq_some_iff.mp h4).2 _ (List.mem_map_of_mem hMem)
  rw [ofBounds_eq_error_iff]
  rcases (position_eq_error_iff node).mp hErr with hErr | hErr
  · rcases toDegrees_error_of_between hLon1 hLon2 hErr with h | h
    · exact Or.inl h
    · exact Or.inr (Or.inr (Or.inl h))
  · rcases toDegrees_error_of_between hLat1 hLat2 hErr with h | h
    · exact Or.inr (Or.inl h)
    · exact Or.inr (Or.inr (Or.inr h))

include h1 h2 h3 h4 in
/-- **Bounding commutes with converting.** The box of the positions of some nodes is the box of
their least and greatest integer coordinates, converted afterwards; either both overflow or
neither does. -/
theorem ofNodes_eq_ofBounds :
    ofNodes nodes = (ofBounds lonMin latMin lonMax latMax).map some := by
  cases nodes with
  | nil => cases h1
  | cons node rest =>
    -- `rewrite` and `rfl` after it: only the binds of `ofNodes` are unfolded, never a conversion
    cases hp : node.position with
    | error e =>
      rewrite [ofNodes_cons, hp, ofBounds_eq_error_of_mem h1 h2 h3 h4 List.mem_cons_self hp]
      rfl
    | ok p =>
      cases hps : rest.mapM Node.position with
      | error e =>
        obtain ⟨bad, hBad, hErr⟩ := exists_mem_of_mapM_eq_error hps
        rewrite [ofNodes_cons, hp, hps,
          ofBounds_eq_error_of_mem h1 h2 h3 h4 (List.mem_cons_of_mem node hBad) hErr]
        rfl
      | ok ps =>
        -- the extremes of a list with a first element are folds started at that element
        rewrite [ofNodes_cons, hp, hps, ← Option.some.inj h1, ← Option.some.inj h2,
          ← Option.some.inj h3, ← Option.some.inj h4,
          ofBounds_foldl ((mapM_eq_ok_iff _ _ _).mp hps) (ofBounds_ofPoint hp)]
        rfl

include h1 h2 h3 h4 in
theorem ofWayNodes_eq_ofBounds (way : Option String) :
    ofWayNodes way nodes = (ofBounds lonMin latMin lonMax latMax).mapError Overflow.toFailure := by
  unfold ofWayNodes
  rewrite [ofNodes_eq_ofBounds h1 h2 h3 h4]
  cases ofBounds lonMin latMin lonMax latMax <;> rfl

end Extremes

/-- Nodes have their least and greatest coordinates exactly when there are some. -/
theorem exists_extremes {nodes : List Node} (h : nodes ≠ []) :
    ∃ lonMin latMin lonMax latMax : Int,
      (nodes.map Node.longitude).min? = some lonMin ∧
      (nodes.map Node.latitude).min? = some latMin ∧
      (nodes.map Node.longitude).max? = some lonMax ∧
      (nodes.map Node.latitude).max? = some latMax := by
  obtain ⟨node, rest, rfl⟩ := List.exists_cons_of_ne_nil h
  exact ⟨_, _, _, _, rfl, rfl, rfl, rfl⟩

theorem ofWayNodes_nil (way : Option String) :
    ofWayNodes way [] = .error (EmptyWay.toFailure ⟨way⟩) := rfl

theorem ne_nil_of_ofWayNodes_eq_ok {way : Option String} {nodes : List Node} {box : Box}
    (h : ofWayNodes way nodes = .ok box) : nodes ≠ [] := by
  rintro rfl
  cases h

/-! ## The box of a way -/

section Way

variable {way : Option String} {nodes : List Node} {box : Box}

/-- Every node of a box has a position, and it lies inside the box. -/
theorem position_mem_of_ofWayNodes (h : ofWayNodes way nodes = .ok box) {node : Node}
    (hMem : node ∈ nodes) :
    ∃ lon lat, node.position = .ok (lon, lat) ∧
      box.minLon.scaled ≤ lon.scaled ∧ lon.scaled ≤ box.maxLon.scaled ∧
      box.minLat.scaled ≤ lat.scaled ∧ lat.scaled ≤ box.maxLat.scaled := by
  obtain ⟨lonMin, latMin, lonMax, latMax, h1, h2, h3, h4⟩ :=
    exists_extremes (ne_nil_of_ofWayNodes_eq_ok h)
  rw [ofWayNodes_eq_ofBounds h1 h2 h3 h4, mapError_eq_ok_iff] at h
  obtain ⟨hMinLon, hMinLat, hMaxLon, hMaxLat⟩ := (ofBounds_eq_ok_iff _ _ _ _ _).mp h
  -- a node without a position would make the box overflow
  obtain ⟨⟨lon, lat⟩, hp⟩ : ∃ p, node.position = .ok p := by
    cases hp : node.position with
    | ok p => exact ⟨p, rfl⟩
    | error e =>
      have hErr := ofBounds_eq_error_of_mem h1 h2 h3 h4 hMem hp
      rw [h] at hErr
      cases hErr
  obtain ⟨hLon, hLat⟩ := (position_eq_ok_iff node lon lat).mp hp
  refine ⟨lon, lat, hp, ?_, ?_, ?_, ?_⟩
  · exact toDegrees_mono ((List.min?_eq_some_iff.mp h1).2 _ (List.mem_map_of_mem hMem)) hMinLon hLon
  · exact toDegrees_mono ((List.max?_eq_some_iff.mp h3).2 _ (List.mem_map_of_mem hMem)) hLon hMaxLon
  · exact toDegrees_mono ((List.min?_eq_some_iff.mp h2).2 _ (List.mem_map_of_mem hMem)) hMinLat hLat
  · exact toDegrees_mono ((List.max?_eq_some_iff.mp h4).2 _ (List.mem_map_of_mem hMem)) hLat hMaxLat

/-- A bound that is the value of an extreme coordinate is the value of the node it belongs to. -/
theorem exists_node_of_extreme {f : Node → Int} {v : Int} {x : Binary64}
    (hExtreme : v ∈ nodes.map f) (hx : toDegrees v = .ok x) :
    ∃ node ∈ nodes, toDegrees (f node) = .ok x := by
  obtain ⟨node, hMem, rfl⟩ := List.mem_map.mp hExtreme
  exact ⟨node, hMem, hx⟩

/-- Each bound of a box is the value of a coordinate of one of its nodes. -/
theorem bounds_attained_of_ofWayNodes (h : ofWayNodes way nodes = .ok box) :
    (∃ node ∈ nodes, toDegrees node.longitude = .ok box.minLon) ∧
    (∃ node ∈ nodes, toDegrees node.latitude = .ok box.minLat) ∧
    (∃ node ∈ nodes, toDegrees node.longitude = .ok box.maxLon) ∧
    (∃ node ∈ nodes, toDegrees node.latitude = .ok box.maxLat) := by
  obtain ⟨lonMin, latMin, lonMax, latMax, h1, h2, h3, h4⟩ :=
    exists_extremes (ne_nil_of_ofWayNodes_eq_ok h)
  rw [ofWayNodes_eq_ofBounds h1 h2 h3 h4, mapError_eq_ok_iff] at h
  obtain ⟨hMinLon, hMinLat, hMaxLon, hMaxLat⟩ := (ofBounds_eq_ok_iff _ _ _ _ _).mp h
  exact ⟨exists_node_of_extreme (List.min?_mem h1) hMinLon,
    exists_node_of_extreme (List.min?_mem h2) hMinLat,
    exists_node_of_extreme (List.max?_mem h3) hMaxLon,
    exists_node_of_extreme (List.max?_mem h4) hMaxLat⟩

/-- A way with nodes fails exactly when one of its nodes has a coordinate that overflows, and
then with the failure of an overflow. -/
theorem ofWayNodes_eq_error_iff (hNodes : nodes ≠ []) (f : Failure) :
    ofWayNodes way nodes = .error f ↔
      f = Overflow.toFailure ⟨⟩ ∧
        ∃ node ∈ nodes, toDegrees node.longitude = .error ⟨⟩ ∨ toDegrees node.latitude = .error ⟨⟩ := by
  obtain ⟨lonMin, latMin, lonMax, latMax, h1, h2, h3, h4⟩ := exists_extremes hNodes
  rw [ofWayNodes_eq_ofBounds h1 h2 h3 h4, mapError_eq_error_iff]
  constructor
  · rintro ⟨⟨⟩, hErr, rfl⟩
    refine ⟨rfl, ?_⟩
    -- the bound that overflows is a coordinate of some node
    rcases (ofBounds_eq_error_iff _ _ _ _).mp hErr with hErr | hErr | hErr | hErr
    · obtain ⟨node, hMem, rfl⟩ := List.mem_map.mp (List.min?_mem h1)
      exact ⟨node, hMem, Or.inl hErr⟩
    · obtain ⟨node, hMem, rfl⟩ := List.mem_map.mp (List.min?_mem h2)
      exact ⟨node, hMem, Or.inr hErr⟩
    · obtain ⟨node, hMem, rfl⟩ := List.mem_map.mp (List.max?_mem h3)
      exact ⟨node, hMem, Or.inl hErr⟩
    · obtain ⟨node, hMem, rfl⟩ := List.mem_map.mp (List.max?_mem h4)
      exact ⟨node, hMem, Or.inr hErr⟩
  · rintro ⟨rfl, node, hMem, hErr⟩
    exact ⟨⟨⟩, ofBounds_eq_error_of_mem h1 h2 h3 h4 hMem ((position_eq_error_iff node).mpr hErr),
      rfl⟩

end Way

/-- **The bounding box of a way.** For every way and every list of nodes with least and greatest
longitude and latitude, the box is those four integers converted to degrees, and it fails with an
overflow exactly when one of them does. Every node lies in the box, every bound is the value of
some node's coordinate, and the box fails exactly when some coordinate of some node overflows.
Without nodes the failure is that of an empty way, naming the way when it is known. -/
theorem ofWayNodes_bounds :
    (∀ (way : Option String) (nodes : List Node) (lonMin latMin lonMax latMax : Int),
      (nodes.map Node.longitude).min? = some lonMin →
      (nodes.map Node.latitude).min? = some latMin →
      (nodes.map Node.longitude).max? = some lonMax →
      (nodes.map Node.latitude).max? = some latMax →
      ofWayNodes way nodes = (ofBounds lonMin latMin lonMax latMax).mapError Overflow.toFailure) ∧
    (∀ (way : Option String) (nodes : List Node) (box : Box), ofWayNodes way nodes = .ok box →
      ∀ node ∈ nodes, ∃ lon lat, node.position = .ok (lon, lat) ∧
        box.minLon.scaled ≤ lon.scaled ∧ lon.scaled ≤ box.maxLon.scaled ∧
        box.minLat.scaled ≤ lat.scaled ∧ lat.scaled ≤ box.maxLat.scaled) ∧
    (∀ (way : Option String) (nodes : List Node) (box : Box), ofWayNodes way nodes = .ok box →
      (∃ node ∈ nodes, toDegrees node.longitude = .ok box.minLon) ∧
      (∃ node ∈ nodes, toDegrees node.latitude = .ok box.minLat) ∧
      (∃ node ∈ nodes, toDegrees node.longitude = .ok box.maxLon) ∧
      (∃ node ∈ nodes, toDegrees node.latitude = .ok box.maxLat)) ∧
    (∀ (way : Option String) (nodes : List Node) (f : Failure), nodes ≠ [] →
      (ofWayNodes way nodes = .error f ↔ f = Overflow.toFailure ⟨⟩ ∧
        ∃ node ∈ nodes, toDegrees node.longitude = .error ⟨⟩ ∨
          toDegrees node.latitude = .error ⟨⟩)) ∧
    ofWayNodes none [] =
      .error ⟨.emptyWay, "Unable to compute bounding box of a way without nodes."⟩ ∧
    (∀ w : String, ofWayNodes (some w) [] =
      .error ⟨.emptyWay, "Unable to compute bounding box of way " ++ w ++ " without nodes."⟩) := by
  refine ⟨fun way _ _ _ _ _ h1 h2 h3 h4 => ofWayNodes_eq_ofBounds h1 h2 h3 h4 way,
    fun _ _ _ h _ hMem => position_mem_of_ofWayNodes h hMem,
    fun _ _ _ h => bounds_attained_of_ofWayNodes h,
    fun _ _ f hNodes => ofWayNodes_eq_error_iff hNodes f, ofWayNodes_nil none, fun w => ?_⟩
  exact ofWayNodes_nil (some w)

end RoadAtlas.Box
