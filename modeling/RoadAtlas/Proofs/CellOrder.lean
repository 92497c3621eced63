import RoadAtlas.Store.Client
import RoadAtlas.Proofs.Degrees

/-!
# The order of cells

Cells are compared by class first (`NULL`, numbers, texts), numbers by exact value with the
infinities at either end, and texts code point by code point (`Cell.compare`). That order is
the lexicographic order of four keys of a cell, each compared as a number or a text
(`compare_eq_byKeys`): its class, where a number lies on the extended line, the value of a
finite number, and the text of a text. So it is a total preorder (`Std.TransCmp`), and so is
its lexicographic extension to lists of cells (`compareLists`), which orders rows.

From it: a table sorted by the values of some columns (`orderBy`) is a permutation of its rows in
ascending order of those values, and equality in a condition (`Cell.equals`) is symmetric and
transitive.

## Main definitions

* `Cell.numClass`, `Cell.numValue`, `Cell.textValue`: the keys of a cell.

## Main results

* `Cell.compare_eq_byKeys`, and the instances `Std.TransCmp Cell.compare`,
  `Std.TransCmp Cell.compareLists`.
* `orderBy_perm`, `orderBy_sorted`: what sorting rows gives.
* `Cell.equals_eq_true_iff`, `Cell.equals_comm`, `Cell.equals_trans`.
* `Cell.DictKey.beq_eq_equals`, and the instance `EquivBEq Cell.DictKey`: the keys of the
  client's dictionaries.
-/

namespace RoadAtlas.Store

namespace Cell

/-- Where a number lies on the extended line: `0` for `-∞`, `1` for a finite value, `2` for
`+∞`; `0` for a cell that is no number. -/
def numClass : Cell → Nat
  | .int _ => 1
  | .real x => if x.isInf then (if x.sign then 0 else 2) else 1
  | _ => 0

/-- The value of a finite number in units of `2⁻¹⁰⁷⁴`; `0` for any other cell. -/
def numValue : Cell → Int
  | .int n => n * Binary64.unitScale
  | .real x => if x.isInf then 0 else x.scaled
  | _ => 0

/-- The text of a text cell; `""` for any other cell. -/
def textValue : Cell → String
  | .text s => s
  | _ => ""

/-- The order of the four keys of cells, one after the other. -/
def byKeys : Cell → Cell → Ordering :=
  compareLex (compareOn rank)
    (compareLex (compareOn numClass) (compareLex (compareOn numValue) (compareOn textValue)))

theorem compare_mul_unitScale (a b : Int) :
    Ord.compare (a * Binary64.unitScale) (b * Binary64.unitScale) = Ord.compare a b := by
  have hPos : (0 : Int) < Binary64.unitScale := by exact_mod_cast Coordinate.unitScale_pos
  rcases lt_trichotomy a b with h | rfl | h
  · rw [compare_lt_iff_lt.mpr h, compare_lt_iff_lt.mpr (Int.mul_lt_mul_of_pos_right h hPos)]
  · rw [compare_eq_iff_eq.mpr rfl, compare_eq_iff_eq.mpr rfl]
  · rw [compare_gt_iff_gt.mpr h, compare_gt_iff_gt.mpr (Int.mul_lt_mul_of_pos_right h hPos)]

theorem compare_nat (a b : Nat) :
    Ord.compare a b = if a < b then .lt else if a = b then .eq else .gt := rfl

theorem swap_compare_int (a b : Int) : (Ord.compare a b).swap = Ord.compare b a :=
  Std.OrientedOrd.eq_swap.symm

theorem compare_eq_byKeys : Cell.compare = byKeys := by
  funext a b
  cases a <;> cases b <;>
    simp only [Cell.compare, byKeys, compareLex, compareOn, rank, numClass, numValue, textValue,
      compareIntReal, compareReals, compare_mul_unitScale] <;>
    -- no case needs the value of the scale, a power of two too large for simp to unfold
    generalize (Binary64.unitScale : Int) = u <;>
    simp [compare_nat] <;>
    split_ifs <;> simp_all [swap_compare_int]

/-- **Cells are totally preordered.** -/
instance : Std.TransCmp Cell.compare := by
  rw [compare_eq_byKeys]
  unfold byKeys
  infer_instance

theorem compareLists_eq_compareLex : compareLists = List.compareLex Cell.compare := by
  funext as bs
  induction as generalizing bs with
  | nil => cases bs <;> rfl
  | cons a as ih =>
    cases bs with
    | nil => rfl
    | cons b bs =>
      simp only [compareLists, List.compareLex, ih]
      cases Cell.compare a b <;> rfl

/-- Lists of cells, compared item by item, are totally preordered too. -/
instance : Std.TransCmp compareLists := by
  rw [compareLists_eq_compareLex]
  infer_instance

theorem compareLists_singleton (a b : Cell) : compareLists [a] [b] = Cell.compare a b := by
  simp [compareLists_eq_compareLex, List.compareLex_cons_cons, List.compareLex]

theorem compareLists_pair (a b a' b' : Cell) :
    compareLists [a, b] [a', b'] = (Cell.compare a a').then (Cell.compare b b') := by
  simp only [compareLists_eq_compareLex, List.compareLex_cons_cons, List.compareLex]
  cases Cell.compare b b' <;> rfl

/-! ## Equality in a condition -/

theorem equals_eq_true_iff {a b : Cell} :
    a.equals b = true ↔ a ≠ .null ∧ b ≠ .null ∧ Cell.compare a b = .eq := by
  cases a <;> cases b <;> simp [equals]

theorem equals_comm (a b : Cell) : a.equals b = b.equals a := by
  apply Bool.eq_iff_iff.mpr
  simp only [equals_eq_true_iff]
  constructor
  · rintro ⟨ha, hb, hab⟩
    exact ⟨hb, ha, Std.OrientedCmp.eq_symm hab⟩
  · rintro ⟨hb, ha, hba⟩
    exact ⟨ha, hb, Std.OrientedCmp.eq_symm hba⟩

theorem equals_trans {a b c : Cell} (hab : a.equals b = true) (hbc : b.equals c = true) :
    a.equals c = true := by
  obtain ⟨ha, -, hab⟩ := equals_eq_true_iff.mp hab
  obtain ⟨-, hc, hbc⟩ := equals_eq_true_iff.mp hbc
  exact equals_eq_true_iff.mpr ⟨ha, hc, Std.TransCmp.eq_trans hab hbc⟩

theorem within_iff {c : Cell} {cs : List Cell} : c.within cs = true ↔ ∃ d ∈ cs, c.equals d = true := by
  simp [within]

/-! ## Keys of the client's dictionaries -/

theorem DictKey.beq_iff (a b : DictKey) : (a == b) = true ↔ Cell.compare a.cell b.cell = .eq := by
  show (a.cell.compare b.cell == .eq) = true ↔ _
  simp

/-- Keys equal by value are an equivalence, since the order of cells is a total preorder. -/
instance : EquivBEq DictKey where
  rfl := (DictKey.beq_iff _ _).mpr Std.ReflCmp.compare_self
  symm h := (DictKey.beq_iff _ _).mpr (Std.OrientedCmp.eq_symm ((DictKey.beq_iff _ _).mp h))
  trans h h' := (DictKey.beq_iff _ _).mpr
    (Std.TransCmp.eq_trans ((DictKey.beq_iff _ _).mp h) ((DictKey.beq_iff _ _).mp h'))

/-- For a cell that is no `NULL`, being one key is equality in a condition. -/
theorem DictKey.beq_eq_equals {a : Cell} (ha : a ≠ .null) (b : Cell) :
    (DictKey.mk a == DictKey.mk b) = a.equals b := by
  apply Bool.eq_iff_iff.mpr
  rw [DictKey.beq_iff, equals_eq_true_iff]
  constructor
  · intro h
    refine ⟨ha, ?_, h⟩
    rintro rfl
    -- a cell that is no `NULL` lies after `NULL`
    cases a <;> simp_all [Cell.compare, rank, compare_nat]
  · exact fun h => h.2.2

end Cell

/-! ## Rows in order -/

theorem ne_gt_eq_isLE (o : Ordering) : (o != .gt) = o.isLE := by
  cases o <;> rfl

/-- Sorting keeps the rows. -/
theorem orderBy_perm (key : Row → List Cell) (rows : List Row) : (orderBy key rows).Perm rows :=
  List.mergeSort_perm _ _

/-- Sorted rows are in ascending order of their keys. -/
theorem orderBy_sorted (key : Row → List Cell) (rows : List Row) :
    (orderBy key rows).Pairwise fun r s => (Cell.compareLists (key r) (key s)).isLE := by
  have hSorted : (orderBy key rows).Pairwise fun r s => Cell.compareLists (key r) (key s) != .gt :=
    List.pairwise_mergeSort
      (fun _ _ _ hab hbc => by
        rw [ne_gt_eq_isLE] at *
        exact Std.TransCmp.isLE_trans hab hbc)
      (fun r s => by
        rw [ne_gt_eq_isLE, ne_gt_eq_isLE]
        cases h : Cell.compareLists (key r) (key s)
        · rfl
        · rfl
        · rw [Std.OrientedCmp.lt_of_gt h]
          rfl)
      rows
  refine hSorted.imp fun h => ?_
  rwa [ne_gt_eq_isLE] at h

theorem eq_lt_of_isLE_of_ne {o : Ordering} (hLE : o.isLE = true) (hNe : o ≠ .eq) : o = .lt := by
  cases o <;> simp_all

/-- Rows no two of which share their key are sorted into strictly ascending order. -/
theorem orderBy_strict {key : Row → List Cell} {rows : List Row}
    (hUnique : rows.Pairwise fun r s => Cell.compareLists (key r) (key s) ≠ .eq) :
    (orderBy key rows).Pairwise fun r s => Cell.compareLists (key r) (key s) = .lt := by
  -- sharing a key is symmetric, so the sorted rows share none either
  have hSymm : ∀ {r s : Row}, Cell.compareLists (key r) (key s) ≠ .eq →
      Cell.compareLists (key s) (key r) ≠ .eq :=
    fun h h' => h (Std.OrientedCmp.eq_symm h')
  have hSortedUnique := (List.Perm.pairwise_iff hSymm (orderBy_perm key rows)).mpr hUnique
  exact ((orderBy_sorted key rows).and hSortedUnique).imp fun h => eq_lt_of_isLE_of_ne h.1 h.2

end RoadAtlas.Store
