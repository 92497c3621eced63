import RoadAtlas.Survey.Collection
import RoadAtlas.Proofs.FirstSeen
import RoadAtlas.Proofs.Gather

/-!
# Grouped and flat feature collections

Survey rows are gathered into features in two ways (`Survey.flatCollection`,
`Survey.groupedCollections`). Both parse the geometry of every row and stop at the first row
that fails; they differ in the order in which they visit the rows and in the order of the two
members of `properties`. This module makes that difference exact.

The grouped gathering visits the rows in the order `groupedRows`: road by road in order of
first appearance, within a road source by source in order of first appearance, and within a
group in row order. That order is the input *stably sorted* by the key `groupKey` (the rank of
the road among the roads, then the rank of the source among the sources of that road), which
is a permutation of the input (`groupedRows_stablySorted`). Everything else follows from it:

* the grouped result, when every row parses, is the nested list of collections the grouping
  describes (`groupedCollections_eq_ok_iff`);
* the two gatherings fail on the same inputs, each with the failure of the first failing row
  in the order it visits (`flatCollection_eq_error_iff`, `groupedCollections_eq_error_iff`),
  and the grouped one can only report a row that comes later in the input;
* when they succeed, the grouped features are the flat ones reordered by `groupedRows`, each
  with the same two properties in the other order (`grouped_flat_agree`).

## Main definitions

* `groupedRows`: the order in which the grouped gathering reads the rows.
* `groupKey`, `StablySortedBy`: that order as a stable sort.
* `groupedLayout`: the grouped result the grouping describes; `GroupedShape`: what it shows.
* `groupedFeatures`: the features of a grouped result, collection after collection.
-/

namespace RoadAtlas.Survey

open RoadAtlas.FirstSeen RoadAtlas.Gather

/-! ## The order of the grouped gathering -/

/-- The rows of one road, source by source in order of first appearance. -/
def roadBlock (rows : List GeometryRow) (r : String) : List GeometryRow :=
  ((rows.filter (·.roadId == r)).map GeometryRow.source).eraseDups.flatMap fun s =>
    (rows.filter (·.roadId == r)).filter (·.source == s)

/-- **The grouping loop.** The two dictionaries hold the roads in order of first appearance,
each with the sources of its rows in order of first appearance, each with its rows in order. -/
theorem groups_eq (rows : List GeometryRow) :
    groups rows = (rows.map GeometryRow.roadId).eraseDups.map fun r =>
      let own := rows.filter (·.roadId == r)
      (r, (own.map GeometryRow.source).eraseDups.map fun s => (s, own.filter (·.source == s))) := by
  unfold groups
  rw [Dict.foldl_alter_eq]
  refine List.map_congr_left fun r _ => ?_
  -- the rows of one road, each appended to the list of its source
  rw [Dict.foldl_push_eq]
  simp

/-- The rows in the order the grouped gathering reads them. -/
def groupedRows (rows : List GeometryRow) : List GeometryRow :=
  (groups rows).flatMap fun g => g.2.flatMap Prod.snd

theorem groupedRows_eq (rows : List GeometryRow) :
    groupedRows rows = (rows.map GeometryRow.roadId).eraseDups.flatMap (roadBlock rows) := by
  simp only [groupedRows, groups_eq, List.flatMap_map]
  rfl

/-- A road's block rearranges the rows of that road. -/
theorem roadBlock_perm (rows : List GeometryRow) (r : String) :
    (roadBlock rows r).Perm (rows.filter (·.roadId == r)) :=
  perm_flatMap_filter GeometryRow.source _

theorem mem_roadBlock (rows : List GeometryRow) (r : String) (x : GeometryRow) :
    x ∈ roadBlock rows r ↔ x ∈ rows ∧ x.roadId = r := by
  rw [(roadBlock_perm rows r).mem_iff, List.mem_filter, beq_iff_eq]

/-- **Grouping loses and repeats no row.** -/
theorem groupedRows_perm (rows : List GeometryRow) : (groupedRows rows).Perm rows := by
  rw [groupedRows_eq]
  exact (List.Perm.flatMap_left _ fun r _ => roadBlock_perm rows r).trans
    (perm_flatMap_filter GeometryRow.roadId rows)

/-- The rank of a road among the roads of the rows, in order of first appearance. -/
def roadRank (rows : List GeometryRow) (r : String) : Nat :=
  (rows.map GeometryRow.roadId).eraseDups.idxOf r

/-- The rank of a source among the sources of one road, in order of first appearance. -/
def sourceRank (rows : List GeometryRow) (r : String) (s : Source) : Nat :=
  ((rows.filter (·.roadId == r)).map GeometryRow.source).eraseDups.idxOf s

/-- The key by which the grouped order sorts the rows: the rank of the road, then the rank of
the source within the road. -/
def groupKey (rows : List GeometryRow) (x : GeometryRow) : Nat × Nat :=
  (roadRank rows x.roadId, sourceRank rows x.roadId x.source)

/-- `S` is `R` sorted by `key` in lexicographic order, rows of equal key kept in their order
in `R`. Such an `S` is unique: it is what a stable sort of `R` by `key` returns. -/
structure StablySortedBy {α : Type} (key : α → Nat × Nat) (S R : List α) : Prop where
  perm : S.Perm R
  sorted : S.Pairwise fun x y => toLex (key x) ≤ toLex (key y)
  stable : ∀ k, S.filter (fun x => key x = k) = R.filter (fun x => key x = k)

/-- Within a road's block the sources come in order of their rank. -/
theorem roadBlock_sorted (rows : List GeometryRow) (r : String) :
    (roadBlock rows r).Pairwise fun x y => sourceRank rows r x.source ≤ sourceRank rows r y.source := by
  unfold roadBlock
  rw [List.pairwise_flatMap]
  constructor
  · -- one group: every row has the same source
    intro s _
    refine List.pairwise_of_forall_mem_list fun x hx y hy => ?_
    have hxs : x.source = s := by simpa using (List.mem_filter.mp hx).2
    have hys : y.source = s := by simpa using (List.mem_filter.mp hy).2
    rw [hxs, hys]
  · -- two groups: the earlier source has the smaller rank
    refine (pairwise_idxOf_lt (nodup_eraseDups _)).imp fun {s s'} hLt x hx y hy => ?_
    have hxs : x.source = s := by simpa using (List.mem_filter.mp hx).2
    have hys : y.source = s' := by simpa using (List.mem_filter.mp hy).2
    rw [sourceRank, sourceRank, hxs, hys]
    exact hLt.le

/-- The grouped order is sorted by the key. -/
theorem groupedRows_sorted (rows : List GeometryRow) :
    (groupedRows rows).Pairwise fun x y => toLex (groupKey rows x) ≤ toLex (groupKey rows y) := by
  rw [groupedRows_eq, List.pairwise_flatMap]
  constructor
  · -- one road: equal road ranks, source ranks in order
    intro r _
    refine (roadBlock_sorted rows r).imp_of_mem fun {x y} hx hy hLe => ?_
    have hxr := ((mem_roadBlock rows r x).mp hx).2
    have hyr := ((mem_roadBlock rows r y).mp hy).2
    rw [groupKey, groupKey, Prod.Lex.toLex_le_toLex, hxr, hyr]
    exact Or.inr ⟨rfl, hLe⟩
  · -- two roads: the earlier road has the smaller rank
    refine (pairwise_idxOf_lt (nodup_eraseDups _)).imp fun {r r'} hLt x hx y hy => ?_
    have hxr := ((mem_roadBlock rows r x).mp hx).2
    have hyr := ((mem_roadBlock rows r' y).mp hy).2
    rw [groupKey, groupKey, Prod.Lex.toLex_le_toLex, hxr, hyr]
    exact Or.inl hLt

/-- The rows of road `r` with source `s` come out of the grouped order in row order. -/
theorem filter_groupedRows_pair (rows : List GeometryRow) (r : String) (s : Source) :
    (groupedRows rows).filter (fun x => x.roadId == r && x.source == s) =
      rows.filter (fun x => x.roadId == r && x.source == s) := by
  have hSplit : ∀ l : List GeometryRow, l.filter (fun x => x.roadId == r && x.source == s) =
      (l.filter (·.roadId == r)).filter (·.source == s) := fun l => by
    rw [List.filter_filter]
    exact List.filter_congr fun x _ => Bool.and_comm ..
  have hRoads : ∀ r', ∀ x ∈ roadBlock rows r', x.roadId = r' := fun r' x hx =>
    ((mem_roadBlock rows r' x).mp hx).2
  have hSources : ∀ s', ∀ x ∈ (rows.filter (·.roadId == r)).filter (·.source == s'),
      x.source = s' := fun s' x hx => by simpa using (List.mem_filter.mp hx).2
  rw [hSplit, hSplit, groupedRows_eq]
  by_cases hr : r ∈ (rows.map GeometryRow.roadId).eraseDups
  · -- the road occurs: its block, filtered by source
    rw [filter_flatMap_of_mem GeometryRow.roadId (roadBlock rows) hRoads (nodup_eraseDups _) hr,
      roadBlock]
    by_cases hs : s ∈ ((rows.filter (·.roadId == r)).map GeometryRow.source).eraseDups
    · rw [filter_flatMap_of_mem GeometryRow.source _ hSources (nodup_eraseDups _) hs]
    · rw [filter_flatMap_of_not_mem GeometryRow.source _ hSources hs]
      refine (List.filter_eq_nil_iff.mpr fun x hx hxs => hs ?_).symm
      rw [List.mem_eraseDups, List.mem_map]
      exact ⟨x, hx, by simpa using hxs⟩
  · -- the road does not occur: no row on either side
    rw [filter_flatMap_of_not_mem GeometryRow.roadId (roadBlock rows) hRoads hr]
    have hNone : rows.filter (·.roadId == r) = [] := List.filter_eq_nil_iff.mpr fun x hx hxr =>
      hr (List.mem_eraseDups.mpr (List.mem_map.mpr ⟨x, hx, by simpa using hxr⟩))
    rw [hNone]

/-- For a row of the input, an equal key means an equal road and an equal source. -/
theorem groupKey_eq_iff {rows : List GeometryRow} {x y : GeometryRow} (hx : x ∈ rows) :
    groupKey rows x = groupKey rows y ↔ x.roadId = y.roadId ∧ x.source = y.source := by
  constructor
  · intro hKey
    have hRoadMem : x.roadId ∈ (rows.map GeometryRow.roadId).eraseDups :=
      List.mem_eraseDups.mpr (List.mem_map_of_mem hx)
    have hRoad : x.roadId = y.roadId :=
      (List.idxOf_inj hRoadMem).mp (congrArg Prod.fst hKey)
    have hSourceMem :
        x.source ∈ ((rows.filter (·.roadId == y.roadId)).map GeometryRow.source).eraseDups :=
      List.mem_eraseDups.mpr (List.mem_map_of_mem (List.mem_filter.mpr ⟨hx, by simp [hRoad]⟩))
    have hRank := congrArg Prod.snd hKey
    simp only [groupKey, sourceRank, hRoad] at hRank
    exact ⟨hRoad, (List.idxOf_inj hSourceMem).mp hRank⟩
  · rintro ⟨hRoad, hSource⟩
    simp [groupKey, hRoad, hSource]

/-- Rows of equal key keep their input order. -/
theorem filter_groupedRows_key (rows : List GeometryRow) (k : Nat × Nat) :
    (groupedRows rows).filter (fun x => groupKey rows x = k) =
      rows.filter (fun x => groupKey rows x = k) := by
  have hSub : ∀ x ∈ groupedRows rows, x ∈ rows := fun x hx =>
    (groupedRows_perm rows).mem_iff.mp hx
  by_cases hk : ∃ x₀ ∈ rows, groupKey rows x₀ = k
  · -- a key of some row: the rows with that road and that source
    obtain ⟨x₀, hx₀, rfl⟩ := hk
    have hCongr : ∀ l : List GeometryRow, (∀ x ∈ l, x ∈ rows) →
        l.filter (fun x => groupKey rows x = groupKey rows x₀) =
          l.filter (fun x => x.roadId == x₀.roadId && x.source == x₀.source) := fun l hl =>
      List.filter_congr fun x hx => by
        rw [Bool.eq_iff_iff]
        simp [groupKey_eq_iff (hl x hx)]
    rw [hCongr _ hSub, hCongr _ fun x hx => hx, filter_groupedRows_pair]
  · -- a key of no row: nothing on either side
    have hNone : ∀ l : List GeometryRow, (∀ x ∈ l, x ∈ rows) →
        l.filter (fun x => groupKey rows x = k) = [] := fun l hl =>
      List.filter_eq_nil_iff.mpr fun x hx hKey => hk ⟨x, hl x hx, by simpa using hKey⟩
    rw [hNone _ hSub, hNone _ fun x hx => hx]

/-- **The grouped order is the input stably sorted by road rank, then source rank.** -/
theorem groupedRows_stablySorted (rows : List GeometryRow) :
    StablySortedBy (groupKey rows) (groupedRows rows) rows :=
  ⟨groupedRows_perm rows, groupedRows_sorted rows, filter_groupedRows_key rows⟩

/-! ## Failures -/

theorem feature_eq_error_iff (row : GeometryRow) (props : List (String × Json)) (e : Failure) :
    row.feature props = .error e ↔ row.parse = .error e := by
  cases h : row.parse <;> simp [GeometryRow.feature, h, Except.map]

/-- **The flat gathering fails with the failure of the first row, in input order, whose geometry
fails.** -/
theorem flatCollection_eq_error_iff (rows : List GeometryRow) (e : Failure) :
    flatCollection rows = .error e ↔ FirstFailure GeometryRow.parse rows e := by
  rw [flatCollection, bind_pure_eq_error_iff, mapM_eq_error_iff]
  exact firstFailure_congr (fun row e => feature_eq_error_iff row _ e) rows e

/-- **The grouped gathering fails with the failure of the first row, in grouped order, whose
geometry fails.** The nesting of roads, sources and rows is flattened by
`mapM_eq_error_iff_flatMap`, once per level. -/
theorem groupedCollections_eq_error_iff (rows : List GeometryRow) (e : Failure) :
    groupedCollections rows = .error e ↔ FirstFailure GeometryRow.parse (groupedRows rows) e := by
  rw [groupedCollections, bind_pure_eq_error_iff, groupedRows]
  refine mapM_eq_error_iff_flatMap _ (fun g => g.2.flatMap Prod.snd) _ ?_ (groups rows) e
  rintro ⟨r, bySource⟩ e'
  dsimp only
  rw [bind_pure_eq_error_iff]
  refine mapM_eq_error_iff_flatMap _ Prod.snd _ ?_ bySource e'
  rintro ⟨s, own⟩ e''
  dsimp only
  rw [bind_pure_eq_error_iff, mapM_eq_error_iff]
  exact firstFailure_congr (fun row e => feature_eq_error_iff row _ e) own e''

/-- Every row has a geometry exactly when no row fails. -/
theorem exists_geom_iff (rows : List GeometryRow) :
    (∃ geom : GeometryRow → Json, ∀ x ∈ rows, x.parse = .ok (geom x)) ↔
      ¬∃ e, FirstFailure GeometryRow.parse rows e := by
  rw [exists_firstFailure_iff]
  constructor
  · rintro ⟨geom, hGeom⟩ ⟨x, hx, e, hErr⟩
    rw [hGeom x hx] at hErr
    cases hErr
  · intro hNone
    have hAll : ∀ x ∈ rows, ∃ g, x.parse = .ok g := fun x hx => by
      cases hParse : x.parse with
      | ok g => exact ⟨g, rfl⟩
      | error e => exact absurd ⟨x, hx, e, hParse⟩ hNone
    choose! geom hGeom using hAll
    exact ⟨geom, hGeom⟩

/-- Some row fails in grouped order exactly when some row fails in input order. -/
theorem exists_firstFailure_groupedRows_iff (rows : List GeometryRow) :
    (∃ e, FirstFailure GeometryRow.parse (groupedRows rows) e) ↔
      ∃ e, FirstFailure GeometryRow.parse rows e := by
  simp only [exists_firstFailure_iff, (groupedRows_perm rows).mem_iff]

/-! ## Results -/

/-- The feature of a row in the flat collection. -/
def flatFeature (geom : GeometryRow → Json) (x : GeometryRow) : Json :=
  (geom x).set "properties" (.obj [("road_id", .str x.roadId), ("source", .str x.source.name)])

/-- The feature of a row in the grouped collections. -/
def groupedFeature (geom : GeometryRow → Json) (x : GeometryRow) : Json :=
  (geom x).set "properties" (.obj [("source", .str x.source.name), ("road_id", .str x.roadId)])

theorem feature_eq_ok (row : GeometryRow) (g : Json) (h : row.parse = .ok g)
    (props : List (String × Json)) : row.feature props = .ok (g.set "properties" (.obj props)) := by
  simp [GeometryRow.feature, h, Except.map]

/-- When every row parses, the flat gathering gives one feature per row, in row order. -/
theorem flatCollection_of_parse (rows : List GeometryRow) (geom : GeometryRow → Json)
    (hOk : ∀ x ∈ rows, x.parse = .ok (geom x)) :
    flatCollection rows = .ok (collection (rows.map (flatFeature geom))) := by
  rw [flatCollection, mapM_eq_ok_map _ (flatFeature geom) rows fun x hx => feature_eq_ok x _ (hOk x hx) _]
  rfl

/-- The rows of one road, as the grouping filters them. -/
theorem filter_roadId (rows : List GeometryRow) (r : String) :
    rows.filter (·.roadId == r) = rows.filter (·.roadId = r) :=
  List.filter_congr fun x _ => by
    rw [Bool.eq_iff_iff]
    simp

/-- The rows of one road and one source, as the grouping filters them. -/
theorem filter_roadId_source (rows : List GeometryRow) (r : String) (s : Source) :
    (rows.filter (·.roadId = r)).filter (·.source == s) =
      rows.filter fun x => x.roadId = r ∧ x.source = s := by
  rw [List.filter_filter]
  exact List.filter_congr fun x _ => by
    rw [Bool.eq_iff_iff]
    simp [and_comm]

/-! ## The grouped layout -/

/-- The road ids of the rows, in order of first appearance. -/
def roadIds (rows : List GeometryRow) : List String :=
  (rows.map GeometryRow.roadId).eraseDups

/-- The sources of the rows of road `r`, in order of first appearance. -/
def roadSources (rows : List GeometryRow) (r : String) : List Source :=
  ((rows.filter (·.roadId = r)).map GeometryRow.source).eraseDups

/-- The features of the rows of road `r` and source `s` in row order, each with the properties
of its group. -/
def groupFeatures (rows : List GeometryRow) (geom : GeometryRow → Json) (r : String)
    (s : Source) : List Json :=
  (rows.filter fun x => x.roadId = r ∧ x.source = s).map fun x =>
    (geom x).set "properties" (.obj [("source", .str s.name), ("road_id", .str r)])

/-- The result the grouping describes, given the geometry of every row: for each road in order of
first appearance, an object with that road as its only key, holding one collection per source
of the road in order of first appearance. -/
def groupedLayout (rows : List GeometryRow) (geom : GeometryRow → Json) : Json :=
  .arr ((roadIds rows).map fun r =>
    .obj [(r, .arr ((roadSources rows r).map fun s => collection (groupFeatures rows geom r s)))])

/-- A road's block, group by group. -/
theorem roadBlock_eq (rows : List GeometryRow) (r : String) :
    roadBlock rows r = (roadSources rows r).flatMap fun s =>
      rows.filter fun x => x.roadId = r ∧ x.source = s := by
  rw [roadBlock, filter_roadId]
  exact List.flatMap_congr fun s _ => filter_roadId_source rows r s

/-- Each feature of a group carries the road and the source of its own row. -/
theorem groupFeatures_eq (rows : List GeometryRow) (geom : GeometryRow → Json) (r : String)
    (s : Source) :
    groupFeatures rows geom r s =
      (rows.filter fun x => x.roadId = r ∧ x.source = s).map (groupedFeature geom) := by
  refine List.map_congr_left fun x hx => ?_
  obtain ⟨hxr, hxs⟩ := of_decide_eq_true (List.mem_filter.mp hx).2
  rw [groupedFeature, hxr, hxs]

/-- A source of a road names at least one row of that road. -/
theorem groupFeatures_ne_nil (rows : List GeometryRow) (geom : GeometryRow → Json) {r : String}
    {s : Source} (hs : s ∈ roadSources rows r) : groupFeatures rows geom r s ≠ [] := by
  have hRows := filter_ne_nil_of_mem_eraseDups GeometryRow.source hs
  rw [filter_roadId_source] at hRows
  simpa [groupFeatures] using hRows

/-- When every row parses, the grouped gathering returns the grouped layout. -/
theorem groupedCollections_of_parse (rows : List GeometryRow) (geom : GeometryRow → Json)
    (hOk : ∀ x ∈ rows, x.parse = .ok (geom x)) :
    groupedCollections rows = .ok (groupedLayout rows geom) := by
  rw [groupedCollections, groups_eq, List.mapM_map, mapM_eq_ok_map _ (fun r => Json.obj [(r, .arr
      ((roadSources rows r).map fun s => collection (groupFeatures rows geom r s)))]) _ fun r _ => ?_]
  · rfl
  · -- one road: a collection per source
    simp only [Function.comp_apply]
    rw [List.mapM_map, mapM_eq_ok_map _ (fun s => collection
        (((rows.filter (·.roadId == r)).filter (·.source == s)).map fun x =>
          (geom x).set "properties" (.obj [("source", .str s.name), ("road_id", .str r)])))
        _ fun s _ => ?_]
    · simp only [filter_roadId, filter_roadId_source]
      rfl
    · -- one source: a feature per row
      simp only [Function.comp_apply]
      rw [mapM_eq_ok_map _ _ _ fun x hx => feature_eq_ok x _ (hOk x (List.mem_of_mem_filter
        (List.mem_of_mem_filter hx))) _]
      rfl

/-! ## Reading a grouped result -/

/-- The entries of a grouped result. -/
def entries : Json → List Json
  | .arr es => es
  | _ => []

/-- The keys of an entry. -/
def entryKeys : Json → List String
  | .obj fields => fields.map Prod.fst
  | _ => []

/-- The collections of an entry, member after member. -/
def entryCollections : Json → List Json
  | .obj fields => fields.flatMap fun
      | (_, .arr cs) => cs
      | _ => []
  | _ => []

/-- The features of a collection. -/
def collectionFeatures (c : Json) : List Json :=
  match c.get? "features" with
  | some (.arr fs) => fs
  | _ => []

/-- The features of a grouped result, collection after collection. -/
def groupedFeatures (J : Json) : List Json :=
  (entries J).flatMap fun entry => (entryCollections entry).flatMap collectionFeatures

/-- What a grouped result shows of the rows, read with `entries`, `entryKeys`,
`entryCollections` and `collectionFeatures`. -/
structure GroupedShape (rows : List GeometryRow) (geom : GeometryRow → Json) (J : Json) : Prop where
  /-- every entry has exactly one key, and the keys are the roads in order of first appearance -/
  keys : (entries J).map entryKeys = (roadIds rows).map fun r => [r]
  /-- no road has two entries -/
  keys_nodup : ((entries J).flatMap entryKeys).Nodup
  /-- the entry of a road holds one non-empty collection per source of the road, in order of
  first appearance, with the features of the rows of that road and source in row order -/
  collections : List.Forall₂ (fun r entry => List.Forall₂ (fun s c =>
      collectionFeatures c ≠ [] ∧
        collectionFeatures c = (rows.filter fun x => x.roadId = r ∧ x.source = s).map
          (groupedFeature geom))
      (roadSources rows r) (entryCollections entry)) (roadIds rows) (entries J)
  /-- the features, collection after collection, are the rows' own in grouped order -/
  features : groupedFeatures J = (groupedRows rows).map (groupedFeature geom)
  /-- one feature per row -/
  count : (groupedFeatures J).length = rows.length

theorem collectionFeatures_collection (fs : List Json) :
    collectionFeatures (collection fs) = fs := by
  simp [collectionFeatures, collection, Json.get?, Json.lookup]

theorem entries_groupedLayout (rows : List GeometryRow) (geom : GeometryRow → Json) :
    entries (groupedLayout rows geom) = (roadIds rows).map fun r =>
      .obj [(r, .arr ((roadSources rows r).map fun s => collection (groupFeatures rows geom r s)))] :=
  rfl

theorem entryCollections_single (r : String) (cs : List Json) :
    entryCollections (.obj [(r, .arr cs)]) = cs := by
  simp [entryCollections]

/-- The features of the grouped layout are those of the rows in grouped order. -/
theorem groupedFeatures_groupedLayout (rows : List GeometryRow) (geom : GeometryRow → Json) :
    groupedFeatures (groupedLayout rows geom) = (groupedRows rows).map (groupedFeature geom) := by
  rw [groupedRows_eq, List.map_flatMap, groupedFeatures, entries_groupedLayout, List.flatMap_map]
  refine List.flatMap_congr fun r _ => ?_
  rw [entryCollections_single, roadBlock_eq, List.map_flatMap, List.flatMap_map]
  refine List.flatMap_congr fun s _ => ?_
  rw [collectionFeatures_collection, groupFeatures_eq]

/-- **The grouped layout has the shape the grouping promises.** -/
theorem groupedLayout_shape (rows : List GeometryRow) (geom : GeometryRow → Json) :
    GroupedShape rows geom (groupedLayout rows geom) := by
  have hFeatures := groupedFeatures_groupedLayout rows geom
  have hKeys : (entries (groupedLayout rows geom)).map entryKeys = (roadIds rows).map fun r => [r] := by
    simp [entries_groupedLayout, entryKeys]
  refine ⟨hKeys, ?_, ?_, hFeatures, ?_⟩
  · -- the keys, one per entry, are the roads without repeats
    rw [List.flatMap_def, hKeys, ← List.flatMap_def, List.flatMap_singleton']
    exact nodup_eraseDups _
  · -- each road's entry: one collection per source
    rw [entries_groupedLayout, List.forall₂_map_right_iff]
    refine List.forall₂_same.mpr fun r _ => ?_
    rw [entryCollections_single, List.forall₂_map_right_iff]
    refine List.forall₂_same.mpr fun s hs => ?_
    rw [collectionFeatures_collection, ← groupFeatures_eq]
    exact ⟨groupFeatures_ne_nil rows geom hs, rfl⟩
  · rw [hFeatures, List.length_map]
    exact (groupedRows_perm rows).length_eq

/-! ## The grouped gathering, and the two gatherings compared -/

/-- A grouped gathering that succeeds has parsed every row, for a row that fails makes it fail
wherever the row stands; what it returns is then the grouped layout. -/
theorem exists_geom_of_groupedCollections_eq_ok {rows : List GeometryRow} {J : Json}
    (hJ : groupedCollections rows = .ok J) :
    ∃ geom : GeometryRow → Json, (∀ x ∈ rows, x.parse = .ok (geom x)) ∧
      J = groupedLayout rows geom := by
  have hNoFailure : ¬∃ e, FirstFailure GeometryRow.parse rows e := by
    rw [← exists_firstFailure_groupedRows_iff]
    rintro ⟨e, hFirst⟩
    rw [← groupedCollections_eq_error_iff, hJ] at hFirst
    cases hFirst
  obtain ⟨geom, hGeom⟩ := (exists_geom_iff rows).mpr hNoFailure
  refine ⟨geom, hGeom, ?_⟩
  rw [groupedCollections_of_parse rows geom hGeom] at hJ
  exact (Except.ok.inj hJ).symm

/-- **The grouped gathering succeeds exactly when every row parses, and then returns the grouped
layout**, with the shape `GroupedShape` describes. -/
theorem groupedCollections_eq_ok_iff (rows : List GeometryRow) (J : Json) :
    groupedCollections rows = .ok J ↔
      ∃ geom : GeometryRow → Json, (∀ x ∈ rows, x.parse = .ok (geom x)) ∧
        J = groupedLayout rows geom ∧ GroupedShape rows geom J := by
  constructor
  · intro hJ
    obtain ⟨geom, hGeom, rfl⟩ := exists_geom_of_groupedCollections_eq_ok hJ
    exact ⟨geom, hGeom, rfl, groupedLayout_shape rows geom⟩
  · rintro ⟨geom, hGeom, rfl, -⟩
    exact groupedCollections_of_parse rows geom hGeom

/-- Two features equal but for the order of the members of `properties`. -/
def SameFeature (a b : Json) : Prop :=
  ∃ (g : Json) (ps qs : List (String × Json)),
    a = g.set "properties" (.obj ps) ∧ b = g.set "properties" (.obj qs) ∧ ps.Perm qs

/-- A row's grouped feature and its flat feature differ only in the order of the properties. -/
theorem sameFeature_grouped_flat (geom : GeometryRow → Json) (x : GeometryRow) :
    SameFeature (groupedFeature geom x) (flatFeature geom x) :=
  ⟨geom x, _, _, rfl, rfl, List.Perm.swap _ _ []⟩

/-- **The grouped and the flat gathering agree.** They fail on the same inputs, each with the
failure of the first failing row in the order it reads the rows: the input order, and the input
stably sorted by road and source rank. The grouped one thus reports the row the flat one reports,
or one that comes later in the input. When both succeed, the grouped features are the flat ones
in that sorted order, with the same properties in the other order. -/
theorem grouped_flat_agree (rows : List GeometryRow) :
    ((∃ e, groupedCollections rows = .error e) ↔ ∃ e, flatCollection rows = .error e) ∧
    (∀ e, flatCollection rows = .error e ↔ FirstFailure GeometryRow.parse rows e) ∧
    (∀ e, groupedCollections rows = .error e ↔
      FirstFailure GeometryRow.parse (groupedRows rows) e) ∧
    StablySortedBy (groupKey rows) (groupedRows rows) rows ∧
    (∀ J K, groupedCollections rows = .ok J → flatCollection rows = .ok K →
      ∃ geom : GeometryRow → Json, (∀ x ∈ rows, x.parse = .ok (geom x)) ∧
        K = collection (rows.map (flatFeature geom)) ∧
        groupedFeatures J = (groupedRows rows).map (groupedFeature geom) ∧
        List.Forall₂ SameFeature (groupedFeatures J) ((groupedRows rows).map (flatFeature geom)) ∧
        ((groupedRows rows).map (flatFeature geom)).Perm (rows.map (flatFeature geom))) ∧
    (∀ e e', flatCollection rows = .error e → groupedCollections rows = .error e' →
      ∃ pre x post y, rows = pre ++ x :: post ∧ (∀ z ∈ pre, ∃ g, z.parse = .ok g) ∧
        x.parse = .error e ∧ y ∈ x :: post ∧ y.parse = .error e') := by
  refine ⟨?_, flatCollection_eq_error_iff rows, groupedCollections_eq_error_iff rows,
    groupedRows_stablySorted rows, ?_, ?_⟩
  · -- failing at all: some row fails, in either order
    simp only [groupedCollections_eq_error_iff, flatCollection_eq_error_iff]
    exact exists_firstFailure_groupedRows_iff rows
  · -- success: both read the geometry of every row
    intro J K hJ hK
    obtain ⟨geom, hGeom, rfl⟩ := exists_geom_of_groupedCollections_eq_ok hJ
    have hFlat : K = collection (rows.map (flatFeature geom)) := by
      rw [flatCollection_of_parse rows geom hGeom] at hK
      exact (Except.ok.inj hK).symm
    refine ⟨geom, hGeom, hFlat, groupedFeatures_groupedLayout rows geom, ?_,
      (groupedRows_perm rows).map _⟩
    rw [groupedFeatures_groupedLayout, List.forall₂_map_left_iff, List.forall₂_map_right_iff]
    exact List.forall₂_same.mpr fun x _ => sameFeature_grouped_flat geom x
  · -- failure: the row the grouped gathering reports is not before the flat one's
    intro e e' hFlat hGrouped
    obtain ⟨pre, x, post, hSplit, hPre, hx⟩ := (flatCollection_eq_error_iff rows e).mp hFlat
    obtain ⟨gpre, y, gpost, hgSplit, -, hy⟩ :=
      (groupedCollections_eq_error_iff rows e').mp hGrouped
    have hyRows : y ∈ rows := by
      rw [← (groupedRows_perm rows).mem_iff, hgSplit]
      simp
    refine ⟨pre, x, post, y, hSplit, hPre, hx, ?_, hy⟩
    rw [hSplit, List.mem_append] at hyRows
    rcases hyRows with hyPre | hyLater
    · obtain ⟨g, hg⟩ := hPre y hyPre
      rw [hg] at hy
      cases hy
    · exact hyLater

end RoadAtlas.Survey
