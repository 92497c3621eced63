import RoadAtlas.Store.Session
import RoadAtlas.Proofs.CellOrder

/-!
# Reading ways from the store

For some way ids `I` the way query (`Database.ways`) reads the rows of `current_ways` whose id
is among `I`, in id order, each with the node ids of its rows of `current_way_nodes` in order of
position and with the author of its changeset; the rows of `current_nodes` that a path of a way
among `I` names; and the rows of `current_way_tags` of those ways. Every row is read into its
record, and the first row that does not read ends the query with its failure.

This module states what the query answers without the sorts and lookups it makes:

* which rows it reads, each once: those that a condition `column IN (I)` selects (`selects`),
  and for the nodes those that some link row of a way among `I` names (`referencedBy`);
* in which order: ways by strictly ascending id, and each path by strictly ascending position,
  given that ids and positions are unique (`WayKeys`); the order of cells is a total preorder
  (`Proofs.CellOrder`), so a sorted list is ascending, and with unique keys strictly so;
* who the author of a changeset is: the user row of the changeset row with that key
  (`AuthorOf`), and `""` and `0` when the changeset or its user is missing.

An empty list of ids reads nothing, and no call of the client other than opening a changeset
changes the store.

## Main definitions

* `Database.selects`, `Database.referencedBy`: which rows the query reads.
* `Database.UniqueOn`, `Database.KeysUnique`, `Database.WayKeys`: the keys it relies on.
* `Database.AuthorOf`: the user of the changeset a cell names.
* `Database.WaysAnswer`: the answer of the query, given its way rows and their paths.

## Main results

* `author_of_authorOf`, `author_of_no_author`: the author of a changeset.
* `ways_answer`: for every store with unique keys and every non-empty list of ids, the query
  answers as `WaysAnswer` says.
* `ways_query`: all of it, with the empty list and the calls that leave the store alone.
* `ways_refuses_way_without_timestamp`: a way row without a timestamp makes the query fail.
-/

namespace RoadAtlas.Store

namespace Database

variable {db : Database}

/-! ## Which rows the query reads -/

/-- Whether a row's column is among some values as `column IN (values)` decides it: the values
are converted by the column's affinity and compared by `Cell.equals`. -/
def selects (t : Table) (column : String) (values : List Cell) (r : Row) : Bool :=
  (r.cell t column).within (values.map (·.withAffinity (t.affinity column)))

/-- Whether a node row is named by a link row of a way among some ids. -/
def referencedBy (db : Database) (ids : List Cell) (n : Row) : Bool :=
  (db.rows .currentWayNodes).any fun l =>
    selects .currentWayNodes "way_id" ids l &&
      (n.cell .currentNodes "id").equals (l.cell .currentWayNodes "node_id")

/-! ## Keys -/

/-- No two rows of a table hold the same values in some columns; values are compared as cells
are ordered, so `NULL` counts as one value. -/
def UniqueOn (db : Database) (t : Table) (columns : List String) : Prop :=
  (db.rows t).Pairwise fun r s =>
    Cell.compareLists (columns.map (r.cell t)) (columns.map (s.cell t)) ≠ .eq

/-- The keys of a keyed table are distinct. -/
def KeysUnique (db : Database) (t : Table) : Prop :=
  ((db.rows t).filterMap Row.key).Nodup

instance (db : Database) (t : Table) (columns : List String) : Decidable (db.UniqueOn t columns) :=
  inferInstanceAs (Decidable (List.Pairwise _ _))

instance (db : Database) (t : Table) : Decidable (db.KeysUnique t) :=
  inferInstanceAs (Decidable (List.Nodup _))

/-- The keys the way query relies on: way ids, the positions of a way's path, changeset ids and
user ids are unique. -/
structure WayKeys (db : Database) : Prop where
  ways : db.UniqueOn .currentWays ["id"]
  positions : db.UniqueOn .currentWayNodes ["way_id", "sequence_id"]
  changesets : db.KeysUnique .changesets
  users : db.KeysUnique .users

/-- With distinct keys, the row found for a key is the one row that has it. -/
theorem find?_key_eq_some {rows : List Row} (hU : (rows.filterMap Row.key).Nodup) {r : Row}
    {k : Int} (hr : r ∈ rows) (hk : r.key = some k) : rows.find? (·.key == some k) = some r := by
  induction rows with
  | nil => cases hr
  | cons s rest ih =>
    by_cases hs : s.key = some k
    · -- `s` has the key, so it is `r`: a second row with it would repeat the key
      have hsr : s = r := by
        rcases List.mem_cons.mp hr with h | h
        · exact h.symm
        · rw [List.filterMap_cons_some hs] at hU
          exact absurd (List.mem_filterMap.mpr ⟨r, h, hk⟩) (List.nodup_cons.mp hU).1
      subst hsr
      simp [hk]
    · have hr' : r ∈ rest := by
        rcases List.mem_cons.mp hr with h | h
        · exact absurd (h ▸ hk) hs
        · exact h
      rw [List.find?_cons_of_neg (by simpa using hs)]
      exact ih (hU.sublist ((List.sublist_cons_self s rest).filterMap _)) hr'

theorem byKey_eq_some {t : Table} {c : Cell} {r : Row} {k : Int} (hU : db.KeysUnique t)
    (hr : r ∈ db.rows t) (hc : c.asKey = some k) (hk : r.key = some k) :
    db.byKey t c = some r := by
  rw [byKey, hc]
  exact find?_key_eq_some hU hr hk

/-- A row found for a cell is a row of the table with the key the cell reads as. -/
theorem mem_of_byKey_eq_some {t : Table} {c : Cell} {r : Row} (h : db.byKey t c = some r) :
    r ∈ db.rows t ∧ ∃ k, c.asKey = some k ∧ r.key = some k := by
  unfold byKey at h
  split at h
  · rename_i k hk
    refine ⟨List.mem_of_find?_eq_some h, k, hk, ?_⟩
    simpa using List.find?_some h
  · cases h

/-! ## The author of a changeset -/

/-- `u` is the user of the changeset a cell names: the changeset row with the key the cell reads
as, and the user row with the key its `user_id` reads as. -/
def AuthorOf (db : Database) (c : Cell) (u : Row) : Prop :=
  ∃ cs ∈ db.rows .changesets, ∃ k, c.asKey = some k ∧ cs.key = some k ∧
    u ∈ db.rows .users ∧ ∃ k', (cs.cell .changesets "user_id").asKey = some k' ∧ u.key = some k'

/-- With unique keys, the author is the name of the user (`""` when it is `NULL`) and its id. -/
theorem author_of_authorOf {c : Cell} {u : Row} (hC : db.KeysUnique .changesets)
    (hU : db.KeysUnique .users) (h : db.AuthorOf c u) :
    db.author c = ((u.cell .users "display_name").coalesce (.text ""), u.cell .users "id") := by
  obtain ⟨cs, hcs, k, hc, hk, hu, k', hck, huk⟩ := h
  simp only [author, byKey_eq_some hC hcs hc hk, byKey_eq_some hU hu hck huk]

/-- Without a changeset, or without its user, the author is `""` and `0`. -/
theorem author_of_no_author {c : Cell} (h : ¬∃ u, db.AuthorOf c u) :
    db.author c = (.text "", .int 0) := by
  unfold author
  cases hcs : db.byKey .changesets c with
  | none => rfl
  | some cs =>
    simp only
    cases hu : db.byKey .users (cs.cell .changesets "user_id") with
    | none => rfl
    | some u =>
      -- both rows were found, so `u` is the author after all
      obtain ⟨hcsMem, k, hc, hk⟩ := mem_of_byKey_eq_some hcs
      obtain ⟨huMem, k', hck, huk⟩ := mem_of_byKey_eq_some hu
      exact absurd ⟨u, cs, hcsMem, k, hc, hk, huMem, k', hck, huk⟩ h

/-! ## The rows of the query, in order -/

/-- The link rows of the ways among some ids, in order of way id and position. -/
def linkRows (db : Database) (I : List Cell) : List Row :=
  orderBy (fun l => [l.cell .currentWayNodes "way_id", l.cell .currentWayNodes "sequence_id"])
    ((db.rows .currentWayNodes).filter (selects .currentWayNodes "way_id" I))

/-- The way rows among some ids, in id order. -/
def wayRows (db : Database) (I : List Cell) : List Row :=
  orderBy (fun r => [r.cell .currentWays "id"])
    ((db.rows .currentWays).filter (selects .currentWays "id" I))

/-- The link rows of one way, in order. -/
def pathRows (db : Database) (I : List Cell) (r : Row) : List Row :=
  (db.linkRows I).filter fun l =>
    (l.cell .currentWayNodes "way_id").equals (r.cell .currentWays "id")

/-- The node ids of each way as the query gathers them: the node id of each link row appended to
the list of its way id. -/
def nodeIdsByWay (db : Database) (I : List Cell) : List (Cell.DictKey × List Cell) :=
  (db.linkRows I).foldl (fun d l =>
    Dict.push (Cell.DictKey.mk (l.cell .currentWayNodes "way_id"))
      (l.cell .currentWayNodes "node_id") d) []

/-- The query reads the way rows with the node ids gathered for them, the node rows that a link
row names, and the tag rows of the ways. -/
theorem ways_eq {I : List Cell} (hI : I ≠ []) :
    db.ways I = (do
      let ways ← (db.wayRows I).mapM fun r =>
        db.wayRecord r (Dict.getD (db.nodeIdsByWay I) ⟨r.cell .currentWays "id"⟩ [])
      let nodes ← ((db.rows .currentNodes).filter fun n =>
        (n.cell .currentNodes "id").within
          ((db.linkRows I).map (Row.cell .currentWayNodes · "node_id"))).mapM db.nodeRecord
      let tags ← ((db.rows .currentWayTags).filter
        (selects .currentWayTags "way_id" I)).mapM tagRecord
      pure ⟨ways, nodes, tags⟩) := by
  have hNonempty : I.isEmpty = false := by simpa using hI
  rw [ways, if_neg (by simp [hNonempty])]
  rfl

theorem wayRows_perm (I : List Cell) :
    (db.wayRows I).Perm ((db.rows .currentWays).filter (selects .currentWays "id" I)) :=
  orderBy_perm _ _

/-- With unique ids, the way rows come in strictly ascending id order. -/
theorem wayRows_ascending (hWays : db.UniqueOn .currentWays ["id"]) (I : List Cell) :
    (db.wayRows I).Pairwise fun r s =>
      (r.cell .currentWays "id").compare (s.cell .currentWays "id") = .lt := by
  have hUnique : ((db.rows .currentWays).filter (selects .currentWays "id" I)).Pairwise
      fun r s => Cell.compareLists [r.cell .currentWays "id"] [s.cell .currentWays "id"] ≠ .eq :=
    hWays.sublist List.filter_sublist
  exact (orderBy_strict hUnique).imp fun h => by rwa [Cell.compareLists_singleton] at h

theorem selects_of_mem_wayRows {I : List Cell} {r : Row} (hr : r ∈ db.wayRows I) :
    selects .currentWays "id" I r = true :=
  (List.mem_filter.mp ((wayRows_perm I).subset hr)).2

/-- A link row naming a selected way has its way id among the ids too. -/
theorem selects_link_of_equals {I : List Cell} {r l : Row}
    (hSel : selects .currentWays "id" I r = true)
    (hEq : (l.cell .currentWayNodes "way_id").equals (r.cell .currentWays "id") = true) :
    selects .currentWayNodes "way_id" I l = true := by
  obtain ⟨d, hd, hrd⟩ := Cell.within_iff.mp hSel
  exact Cell.within_iff.mpr ⟨d, hd, Cell.equals_trans hEq hrd⟩

/-- The path of a way is its link rows, each once. -/
theorem pathRows_perm {I : List Cell} {r : Row} (hr : r ∈ db.wayRows I) :
    (db.pathRows I r).Perm ((db.rows .currentWayNodes).filter fun l =>
      (l.cell .currentWayNodes "way_id").equals (r.cell .currentWays "id")) := by
  have hSel := selects_of_mem_wayRows hr
  -- among the link rows of the ids, the way's own are all its link rows
  have hOwn : ((db.rows .currentWayNodes).filter (selects .currentWayNodes "way_id" I)).filter
      (fun l => (l.cell .currentWayNodes "way_id").equals (r.cell .currentWays "id")) =
      (db.rows .currentWayNodes).filter fun l =>
        (l.cell .currentWayNodes "way_id").equals (r.cell .currentWays "id") := by
    rw [List.filter_filter]
    refine List.filter_congr fun l _ => ?_
    cases hEq : (l.cell .currentWayNodes "way_id").equals (r.cell .currentWays "id")
    · simp
    · simp [selects_link_of_equals hSel hEq]
  exact ((orderBy_perm _ _).filter _).trans (hOwn ▸ List.Perm.refl _)

/-- Two link rows of one way have way ids that compare equal. -/
theorem compare_wayId_of_mem_pathRows {I : List Cell} {r l l' : Row}
    (hl : l ∈ db.pathRows I r) (hl' : l' ∈ db.pathRows I r) :
    (l.cell .currentWayNodes "way_id").compare (l'.cell .currentWayNodes "way_id") = .eq := by
  obtain ⟨-, -, h⟩ := Cell.equals_eq_true_iff.mp (List.mem_filter.mp hl).2
  obtain ⟨-, -, h'⟩ := Cell.equals_eq_true_iff.mp (List.mem_filter.mp hl').2
  exact Std.TransCmp.eq_trans h (Std.OrientedCmp.eq_symm h')

/-- With unique positions, the path of a way comes in strictly ascending position. -/
theorem pathRows_ascending (hPositions : db.UniqueOn .currentWayNodes ["way_id", "sequence_id"])
    (I : List Cell) (r : Row) :
    (db.pathRows I r).Pairwise fun l l' =>
      (l.cell .currentWayNodes "sequence_id").compare
        (l'.cell .currentWayNodes "sequence_id") = .lt := by
  have hLinks : (db.linkRows I).Pairwise fun l l' =>
      Cell.compareLists [l.cell .currentWayNodes "way_id", l.cell .currentWayNodes "sequence_id"]
        [l'.cell .currentWayNodes "way_id", l'.cell .currentWayNodes "sequence_id"] = .lt :=
    orderBy_strict (hPositions.sublist List.filter_sublist)
  refine (hLinks.sublist List.filter_sublist).imp_of_mem fun hl hl' h => ?_
  -- the way ids agree, so the positions decide the order
  rwa [Cell.compareLists_pair, compare_wayId_of_mem_pathRows hl hl', Ordering.eq_then] at h

/-- The link rows of the ids are the link rows whose way id is among them. -/
theorem mem_linkRows {I : List Cell} {l : Row} :
    l ∈ db.linkRows I ↔
      l ∈ db.rows .currentWayNodes ∧ selects .currentWayNodes "way_id" I l = true :=
  (orderBy_perm _ _).mem_iff.trans List.mem_filter

/-- A link row of the ids has a way id. -/
theorem wayId_ne_null_of_mem_linkRows {I : List Cell} {l : Row} (hl : l ∈ db.linkRows I) :
    l.cell .currentWayNodes "way_id" ≠ .null := by
  obtain ⟨d, -, hEq⟩ := Cell.within_iff.mp (mem_linkRows.mp hl).2
  exact (Cell.equals_eq_true_iff.mp hEq).1

/-- **The gathered paths.** The node ids gathered under the id of a way are those of its link
rows, in order: the link rows have way ids, so being one key is equality in a condition. -/
theorem getD_nodeIdsByWay (I : List Cell) (r : Row) :
    Dict.getD (db.nodeIdsByWay I) ⟨r.cell .currentWays "id"⟩ [] =
      (db.pathRows I r).map (Row.cell .currentWayNodes · "node_id") := by
  rw [nodeIdsByWay, Dict.getD_foldl_push]
  refine (List.nil_append _).trans (congrArg _ (List.filter_congr fun l hl => ?_))
  exact Cell.DictKey.beq_eq_equals (wayId_ne_null_of_mem_linkRows hl) _

/-- A node row is read exactly when a link row of a way among the ids names it. -/
theorem within_linkNodes_eq_referencedBy (I : List Cell) (n : Row) :
    (n.cell .currentNodes "id").within ((db.linkRows I).map (Row.cell .currentWayNodes · "node_id")) =
      db.referencedBy I n := by
  apply Bool.eq_iff_iff.mpr
  simp only [Cell.within_iff, List.mem_map, referencedBy, List.any_eq_true, Bool.and_eq_true]
  constructor
  · rintro ⟨_, ⟨l, hl, rfl⟩, hEq⟩
    obtain ⟨hMem, hSel⟩ := mem_linkRows.mp hl
    exact ⟨l, hMem, hSel, hEq⟩
  · rintro ⟨l, hl, hSel, hEq⟩
    exact ⟨_, ⟨l, mem_linkRows.mpr ⟨hl, hSel⟩, rfl⟩, hEq⟩

/-! ## The answer -/

/-- What the way query answers for ids `I`, given the way rows `W` it reads and the link rows
`path r` of each way `r`. -/
structure WaysAnswer (db : Database) (I : List Cell) (W : List Row) (path : Row → List Row) :
    Prop where
  /-- The way rows are the rows of `current_ways` whose id is among the ids, each once. -/
  ways_perm : W.Perm ((db.rows .currentWays).filter (selects .currentWays "id" I))
  /-- They come in strictly ascending id order. -/
  ways_ascending : W.Pairwise fun r s =>
    (r.cell .currentWays "id").compare (s.cell .currentWays "id") = .lt
  /-- The path of a way is its rows of `current_way_nodes`, each once. -/
  path_perm : ∀ r ∈ W, (path r).Perm ((db.rows .currentWayNodes).filter fun l =>
    (l.cell .currentWayNodes "way_id").equals (r.cell .currentWays "id"))
  /-- It comes in strictly ascending position. -/
  path_ascending : ∀ r ∈ W, (path r).Pairwise fun l l' =>
    (l.cell .currentWayNodes "sequence_id").compare (l'.cell .currentWayNodes "sequence_id") = .lt
  /-- Each way is read with the node ids of its path and the author of its changeset; then each
  node row that a link row of a way among the ids names, and each tag row of those ways, each
  once and in table order; the first row that does not read is the failure. -/
  result : db.ways I = (do
    let ways ← W.mapM fun r =>
      db.wayRecord r ((path r).map (Row.cell .currentWayNodes · "node_id"))
    let nodes ← ((db.rows .currentNodes).filter (db.referencedBy I)).mapM db.nodeRecord
    let tags ← ((db.rows .currentWayTags).filter (selects .currentWayTags "way_id" I)).mapM tagRecord
    pure ⟨ways, nodes, tags⟩)

/-- **The way query.** For a store with unique keys and a non-empty list of ids, the query
answers with its own way rows and paths as `WaysAnswer` says. -/
theorem ways_answer (hKeys : db.WayKeys) {I : List Cell} (hI : I ≠ []) :
    db.WaysAnswer I (db.wayRows I) (db.pathRows I) where
  ways_perm := wayRows_perm I
  ways_ascending := wayRows_ascending hKeys.ways I
  path_perm := fun _ hr => pathRows_perm hr
  path_ascending := fun r _ => pathRows_ascending hKeys.positions I r
  result := by
    have hNodes : ((db.rows .currentNodes).filter fun n => (n.cell .currentNodes "id").within
        ((db.linkRows I).map (Row.cell .currentWayNodes · "node_id"))) =
        (db.rows .currentNodes).filter (db.referencedBy I) :=
      List.filter_congr fun n _ => within_linkNodes_eq_referencedBy I n
    have hPaths : (fun r => db.wayRecord r
        (Dict.getD (db.nodeIdsByWay I) ⟨r.cell .currentWays "id"⟩ [])) =
        fun r => db.wayRecord r ((db.pathRows I r).map (Row.cell .currentWayNodes · "node_id")) :=
      funext fun r => by rw [getD_nodeIdsByWay]
    rw [ways_eq hI, hNodes, hPaths]

/-- An empty list of ids reads nothing. -/
theorem ways_nil (db : Database) : db.ways [] = .ok ⟨[], [], []⟩ := rfl

/-- A call of the client other than opening a changeset leaves the store as it was. -/
theorem perform_snd_of_query (db : Database) {op : Operation}
    (h : ∀ r now, op ≠ .createChangeset r now) : (db.perform op).2 = db := by
  rcases perform_cases db op with ⟨hSame, -⟩ | ⟨r, now, -, hOp, -, -⟩
  · exact hSame
  · exact absurd hOp (h r now)

/-- **Reading ways.** An empty list of ids reads nothing, whatever the store. For a store whose
way ids, path positions, changeset ids and user ids are unique, and a non-empty list of ids, the
query reads the rows of `current_ways` whose id is among the ids, each once and in strictly
ascending id order, each with the node ids of its rows of `current_way_nodes`, each once and in
strictly ascending position, and with the author of its changeset; then the rows of
`current_nodes` that a link row of a way among the ids names, each once however often it is
named, and the rows of `current_way_tags` of those ways; every row is read into its record,
and the first that does not read is the failure. The author of a changeset is the name (`""`
when `NULL`) and the id of the user of the changeset row with its key, and `""` and `0` when
there is no such changeset or no such user. No call other than opening a changeset changes the
store. -/
theorem ways_query :
    (∀ db : Database, db.ways [] = .ok ⟨[], [], []⟩) ∧
    (∀ (db : Database) (I : List Cell), db.WayKeys → I ≠ [] →
      ∃ W path, db.WaysAnswer I W path) ∧
    (∀ (db : Database) (c : Cell) (u : Row), db.KeysUnique .changesets →
      db.KeysUnique .users → db.AuthorOf c u →
      db.author c = ((u.cell .users "display_name").coalesce (.text ""), u.cell .users "id")) ∧
    (∀ (db : Database) (c : Cell), (¬∃ u, db.AuthorOf c u) →
      db.author c = (.text "", .int 0)) ∧
    (∀ (db : Database) (op : Operation), (∀ r now, op ≠ .createChangeset r now) →
      (db.perform op).2 = db) :=
  ⟨ways_nil, fun _ _ hKeys hI => ⟨_, _, ways_answer hKeys hI⟩,
    fun _ _ _ hC hU h => author_of_authorOf hC hU h, fun _ _ h => author_of_no_author h,
    fun db _ h => perform_snd_of_query db h⟩

/-- A store with the ways `2` and `1`, way `1` with the nodes `11` and `10` listed against
their positions, way `2` with node `10`, and the changeset and the user of the ways. -/
def sampleStore : Database :=
  ⟨fun t => match t with
    | .currentWays => [[.int 2, .int 1, .int 1, .int 7, .text "2015-03-11T09:38:41"],
        [.int 1, .int 1, .int 1, .int 7, .text "2015-03-11T09:38:41"]]
    | .currentWayNodes => [[.int 1, .int 11, .int 2], [.int 1, .int 10, .int 1],
        [.int 2, .int 10, .int 1]]
    | .currentNodes => [[.int 10, .int 0, .int 0, .int 1, .int 1, .int 7, .text "2015-03-11T09:38:41"],
        [.int 11, .int 1, .int 1, .int 1, .int 1, .int 7, .text "2015-03-11T09:38:41"]]
    | .changesets => [[.int 7, .int 3, .null, .null, .int 0]]
    | .users => [[.int 3, .text "OpenRoads", .null, .null, .int 1, .null]]
    | _ => [], []⟩

theorem sampleStore_wayKeys : sampleStore.WayKeys :=
  ⟨by decide, by decide, by decide, by decide⟩

/-- The store's keys are unique, so reading the ways `2` and `1` answers as `WaysAnswer` says. -/
theorem ways_query_sampleStore :
    sampleStore.WayKeys ∧ [Cell.int 2, .int 1] ≠ [] ∧
      ∃ W path, sampleStore.WaysAnswer [.int 2, .int 1] W path :=
  ⟨sampleStore_wayKeys, List.cons_ne_nil _ _,
    ways_query.2.1 sampleStore _ sampleStore_wayKeys (List.cons_ne_nil _ _)⟩

/-- A store whose one way row, `1`, has no timestamp. -/
def timelessWayStore : Database :=
  ⟨fun t => if t = .currentWays then [[.int 1, .int 1, .int 1, .int 0, .null]] else [], []⟩

/-- **A way row without a timestamp is no way.** The store's keys are unique, yet reading way
`1` gives no answer: its row does not read as a way. -/
theorem ways_refuses_way_without_timestamp :
    timelessWayStore.WayKeys ∧ (timelessWayStore.ways [.int 1]).toOption = none :=
  ⟨⟨by decide, by decide, by decide, by decide⟩, by decide +kernel⟩

end Database

end RoadAtlas.Store
