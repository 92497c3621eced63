import RoadAtlas.Store.Client

/-!
# Inserting rows

What an insert does to the store, said once so that later proofs never unfold `put` or
`insert`. A row of a table without key is appended. A row of a keyed table whose key is fresh
is placed among the rows by its key, and a row with a `NULL` key gets the next key, which is
always fresh. Before any of this a trigger may decide the insert: for each table at most one
trigger acts on its inserts, and when it stands on the store it decides every one of them.

One list of rows *gains* a row over another when it is the other with that row put in at one
place, every other row kept in its order (`Gains`). Gaining a row adds its key to the keys of
the table, and a row that takes the next key moves the next key one up.

## Main definitions

* `Store.Gains`: a list of rows with one row put in.

## Main results

* `placeByKey_gains`: placing a row by key gains it.
* `lt_nextKey`, `nextKey_of_gains`: the next key is above every key, and moves one up when a
  row takes it.
* `put_of_unkeyed`, `put_of_fresh_key`, `put_of_null_key`: what a stored row becomes.
* `insert_users`, `insert_changesets`, `insert_changesetTags`: the triggers of each table.
-/

namespace RoadAtlas.Store

/-- `after` is `before` with the row `r` put in at one place. -/
def Gains (before after : List Row) (r : Row) : Prop :=
  ∃ pre post, before = pre ++ post ∧ after = pre ++ r :: post

namespace Gains

variable {before after : List Row} {r : Row}

theorem mem_iff (h : Gains before after r) (x : Row) : x ∈ after ↔ x = r ∨ x ∈ before := by
  obtain ⟨pre, post, rfl, rfl⟩ := h
  simp only [List.mem_append, List.mem_cons]
  exact or_left_comm

theorem mem_of_mem (h : Gains before after r) {x : Row} (hx : x ∈ before) : x ∈ after :=
  (h.mem_iff x).mpr (.inr hx)

/-- The keys after gaining a row are those before and the row's key. -/
theorem keys_perm (h : Gains before after r) :
    (after.filterMap Row.key).Perm (r.key.toList ++ before.filterMap Row.key) := by
  obtain ⟨pre, post, rfl, rfl⟩ := h
  have hMiddle : ((pre ++ r :: post).filterMap Row.key).Perm
      ((r :: (pre ++ post)).filterMap Row.key) :=
    List.perm_middle.filterMap Row.key
  rw [List.filterMap_cons] at hMiddle
  cases hKey : r.key with
  | none =>
    rw [hKey] at hMiddle
    exact hMiddle
  | some k =>
    rw [hKey] at hMiddle
    exact hMiddle

end Gains

namespace Database

variable {db : Database} {t : Table}

@[simp] theorem triggers_update (db : Database) (t : Table) (rs : List Row) :
    (db.update t rs).triggers = db.triggers :=
  rfl

@[simp] theorem update_update (db : Database) (t : Table) (rs rs' : List Row) :
    (db.update t rs).update t rs' = db.update t rs' := by
  unfold update
  congr 1
  funext u
  by_cases h : u = t <;> simp [h]

@[simp] theorem update_self (db : Database) (t : Table) : db.update t (db.rows t) = db := by
  unfold update
  congr 1
  funext u
  by_cases h : u = t
  · rw [if_pos h, h]
  · rw [if_neg h]

theorem placeByKey_gains (k : Int) (r : Row) (rows : List Row) :
    Gains rows (placeByKey k r rows) r := by
  induction rows with
  | nil => exact ⟨[], [], rfl, rfl⟩
  | cons s rest ih =>
    unfold placeByKey
    split
    · exact ⟨[], s :: rest, rfl, rfl⟩
    · obtain ⟨pre, post, hRest, hPlaced⟩ := ih
      exact ⟨s :: pre, post, by rw [hRest]; rfl, by rw [hPlaced]; rfl⟩

/-! ## Keys -/

@[simp] theorem asKey_int (k : Int) : Cell.asKey (.int k) = some k := rfl

theorem nextKey_eq {m : Int} (h : ((db.rows t).filterMap Row.key).max? = some m) :
    db.nextKey t = m + 1 := by
  unfold nextKey
  rw [h]

theorem nextKey_congr {db' : Database} (h : db'.rows t = db.rows t) :
    db'.nextKey t = db.nextKey t := by
  unfold nextKey
  rw [h]

/-- The next key is above every key of the table. -/
theorem lt_nextKey {k : Int} (h : k ∈ (db.rows t).filterMap Row.key) : k < db.nextKey t := by
  cases hMax : ((db.rows t).filterMap Row.key).max? with
  | none =>
    rw [List.max?_eq_none_iff] at hMax
    rw [hMax] at h
    cases h
  | some m =>
    have hLe : k ≤ m := (List.max?_eq_some_iff.mp hMax).2 k h
    rw [nextKey_eq hMax]
    omega

theorem nextKey_fresh (row : Row) (h : row ∈ db.rows t) : row.key ≠ some (db.nextKey t) := by
  intro hKey
  have hMem : db.nextKey t ∈ (db.rows t).filterMap Row.key :=
    List.mem_filterMap.mpr ⟨row, h, hKey⟩
  exact Int.lt_irrefl _ (lt_nextKey hMem)

/-- A row that takes the next key moves it one up. -/
theorem nextKey_of_gains {db' : Database} {r : Row}
    (hGains : Gains (db.rows t) (db'.rows t) r) (hKey : r.key = some (db.nextKey t)) :
    db'.nextKey t = db.nextKey t + 1 := by
  have hPerm := hGains.keys_perm
  rw [hKey] at hPerm
  have hMax : ((db'.rows t).filterMap Row.key).max? = some (db.nextKey t) := by
    refine List.max?_eq_some_iff.mpr ⟨hPerm.mem_iff.mpr (by simp), ?_⟩
    intro b hb
    rcases List.mem_cons.mp (hPerm.mem_iff.mp hb) with rfl | hOld
    · exact Int.le_refl _
    · exact Int.le_of_lt (lt_nextKey hOld)
  exact nextKey_eq hMax

theorem byKey_congr {db' : Database} (h : db'.rows t = db.rows t) (c : Cell) :
    db'.byKey t c = db.byKey t c := by
  unfold byKey
  rw [h]

theorem byKey_int_eq_none_iff (k : Int) :
    db.byKey t (.int k) = none ↔ ∀ row ∈ db.rows t, row.key ≠ some k := by
  simp [byKey, List.find?_eq_none]

theorem byKey_isSome_iff (c : Cell) :
    (db.byKey t c).isSome ↔
      ∃ k, c.asKey = some k ∧ ∃ row ∈ db.rows t, row.key = some k := by
  unfold byKey
  cases c.asKey with
  | none => simp
  | some k => simp [List.find?_isSome]

/-- A key found among the rows of a table is still found once the table has more rows. -/
theorem byKey_isSome_of_subset {db' : Database} {c : Cell}
    (hSub : ∀ x ∈ db.rows t, x ∈ db'.rows t) (h : (db.byKey t c).isSome) :
    (db'.byKey t c).isSome := by
  obtain ⟨k, hAsKey, row, hRow, hKey⟩ := (byKey_isSome_iff c).mp h
  exact (byKey_isSome_iff c).mpr ⟨k, hAsKey, row, hSub row hRow, hKey⟩

/-! ## Storing a row -/

theorem put_of_unkeyed (r : Row) (h : t.keyed = false) :
    db.put t r = .ok (db.update t (db.rows t ++ [Row.conform t r])) := by
  simp [put, h]

/-- A row of a keyed table with a fresh integer key is placed by that key. -/
theorem put_of_fresh_key {r : Row} {k : Int} (h : t.keyed = true)
    (hHead : (Row.conform t r).head? = some (.int k))
    (hFresh : ∀ row ∈ db.rows t, row.key ≠ some k) :
    db.put t r =
      .ok (db.update t (placeByKey k (.int k :: (Row.conform t r).drop 1) (db.rows t))) := by
  have hAny : ((db.rows t).any fun row => row.key == some k) = false :=
    List.any_eq_false.mpr fun row hRow hEq => hFresh row hRow (beq_iff_eq.mp hEq)
  simp only [put, h, if_true, hHead, asKey_int, hAny]
  rfl

/-- A row of a keyed table without key gets the next key. -/
theorem put_of_null_key {r : Row} (h : t.keyed = true)
    (hHead : (Row.conform t r).head? = some .null) :
    db.put t r = .ok (db.update t (placeByKey (db.nextKey t)
      (.int (db.nextKey t) :: (Row.conform t r).drop 1) (db.rows t))) := by
  have hAny : ((db.rows t).any fun row => row.key == some (db.nextKey t)) = false :=
    List.any_eq_false.mpr fun row hRow hEq => nextKey_fresh row hRow (beq_iff_eq.mp hEq)
  simp only [put, h, if_true, hHead, hAny]
  rfl

/-! ## Triggers -/

section Trigger

variable {g : Trigger} {x : Option String}

/-- When `g` is the only trigger acting on inserts into `t`, the triggers acting are the copies
of `g` on the store. -/
theorem filterMap_onInsert (hg : g.onInsert t = some x)
    (hOnly : ∀ g', g' ≠ g → g'.onInsert t = none) (l : List Trigger) :
    l.filterMap (·.onInsert t) = List.replicate (l.count g) x := by
  induction l with
  | nil => rfl
  | cons g' rest ih =>
    by_cases hEq : g' = g
    · subst hEq
      rw [List.filterMap_cons, hg, List.count_cons_self, List.replicate_succ, ih]
    · rw [List.filterMap_cons, hOnly g' hEq, List.count_cons_of_ne hEq, ih]

theorem insert_of_not_mem (hg : g.onInsert t = some x)
    (hOnly : ∀ g', g' ≠ g → g'.onInsert t = none) (hNot : g ∉ db.triggers) (r : Row) :
    db.insert t r = (db.put t r).map some := by
  unfold insert
  rw [filterMap_onInsert hg hOnly, List.count_eq_zero.mpr hNot]
  rfl

theorem insert_of_mem (hg : g.onInsert t = some x)
    (hOnly : ∀ g', g' ≠ g → g'.onInsert t = none) (hMem : g ∈ db.triggers) (r : Row) :
    db.insert t r = match x with
      | some message => .error ⟨.integrity, message⟩
      | none => .ok none := by
  unfold insert
  rw [filterMap_onInsert hg hOnly]
  obtain ⟨n, hn⟩ : ∃ n, db.triggers.count g = n + 1 :=
    ⟨_, (Nat.succ_pred_eq_of_pos (List.count_pos_iff.mpr hMem)).symm⟩
  rw [hn, List.replicate_succ]
  cases x <;> rfl

end Trigger

theorem insert_users (db : Database) (r : Row) :
    db.insert .users r =
      if .abortUsers ∈ db.triggers then .error ⟨.integrity, "user rejected"⟩
      else (db.put .users r).map some := by
  have hOnly : ∀ g : Trigger, g ≠ .abortUsers → g.onInsert .users = none := by
    intro g hg
    cases g with
    | abortUsers => exact absurd rfl hg
    | _ => rfl
  split
  · exact insert_of_mem rfl hOnly ‹_› r
  · exact insert_of_not_mem rfl hOnly ‹_› r

theorem insert_changesets (db : Database) (r : Row) :
    db.insert .changesets r = if .rejectChangesets ∈ db.triggers then .ok none
      else (db.put .changesets r).map some := by
  have hOnly : ∀ g : Trigger, g ≠ .rejectChangesets → g.onInsert .changesets = none := by
    intro g hg
    cases g with
    | rejectChangesets => exact absurd rfl hg
    | _ => rfl
  split
  · exact insert_of_mem rfl hOnly ‹_› r
  · exact insert_of_not_mem rfl hOnly ‹_› r

theorem insert_changesetTags (db : Database) (r : Row) :
    db.insert .changesetTags r = if .abortChangesetTags ∈ db.triggers
      then .error ⟨.integrity, "tag rejected"⟩ else (db.put .changesetTags r).map some := by
  have hOnly : ∀ g : Trigger, g ≠ .abortChangesetTags → g.onInsert .changesetTags = none := by
    intro g hg
    cases g with
    | abortChangesetTags => exact absurd rfl hg
    | _ => rfl
  split
  · exact insert_of_mem rfl hOnly ‹_› r
  · exact insert_of_not_mem rfl hOnly ‹_› r

end Database

end RoadAtlas.Store
