import RoadAtlas.Proofs.Nearest
import RoadAtlas.Osm.Bounds

/-!
# Coordinates in degrees

A coordinate of `n` ten-millionths of a degree is worth the double nearest the rational
`n / 10 ^ 7`, ties to even (`Coordinate.toDegrees`). This module proves that it is, for every
integer, and reads off what follows for a caller:

* the value exists exactly below `10 ^ 7 * (2 ^ 1024 - 2 ^ 970)` in absolute value, where the
  rounding reaches `2 ^ 1024` (`toDegrees_eq_error_iff`);
* it is a nearest double and carries the sign of `n`, zero being positive
  (`toDegrees_isNearest`);
* it grows with `n` (`toDegrees_mono`), and `-n` is worth its negation (`toDegrees_neg`);
* two coordinates of one value are the same double, since no `-0` is ever made
  (`toDegrees_eq_of_scaled_eq`); so the smaller and the larger of two values in degrees are the
  values of the smaller and the larger coordinate (`min_toDegrees`, `max_toDegrees`).

A value `x` is compared with `n / 10 ^ 7` through `x.scaled * 10 ^ 7` and `n * 2 ^ 1074`, both in
units of `2⁻¹⁰⁷⁴ / 10 ^ 7`.

## Main results

* `toDegrees_correctly_rounded`: the value in degrees of every coordinate, and the position of
  every node.
-/

namespace RoadAtlas.Coordinate

open Binary64

theorem scale_pos : 0 < scale := by decide

/-- The rational `n / 10 ^ 7`, in units of `2⁻¹⁰⁷⁴ / 10 ^ 7`. -/
theorem signed_natAbs_mul (n : Int) (U : Nat) :
    (if decide (n < 0) = true then -((n.natAbs * U : Nat) : Int) else ((n.natAbs * U : Nat) : Int)) =
      n * U := by
  rw [Int.natCast_mul]
  by_cases hn : n < 0
  · rw [if_pos (decide_eq_true hn), Int.ofNat_natAbs_of_nonpos (Int.le_of_lt hn), Int.neg_mul,
      Int.neg_neg]
  · rw [if_neg (by simpa using hn), Int.natAbs_of_nonneg (Int.not_lt.mp hn)]

/-! ## The value in degrees, through the rounding -/

theorem ofRatio_eq_round (n : Int) :
    ofRatio n scale = round (decide (n < 0)) (n.natAbs * unitScale) scale := rfl

theorem toDegrees_eq_ok_iff (n : Int) (x : Binary64) :
    toDegrees n = .ok x ↔ ∃ m q, roundMag (n.natAbs * unitScale) scale = some (m, q) ∧
      x = make (decide (n < 0)) m q := by
  unfold toDegrees
  dsimp only
  rw [ofRatio_eq_round]
  cases h : roundMag (n.natAbs * unitScale) scale with
  | none =>
    rw [round_of_none h, if_pos (isInf_inf _)]
    constructor
    · intro hErr
      cases hErr
    · rintro ⟨m, q, hSome, -⟩
      cases hSome
  | some mq =>
    obtain ⟨m, q⟩ := mq
    obtain ⟨hValid, -⟩ := roundMag_valid scale_pos h
    rw [round_eq_make h, if_neg (by rw [isInf_make hValid]; decide)]
    constructor
    · intro hOk
      cases hOk
      exact ⟨m, q, rfl, rfl⟩
    · rintro ⟨m', q', hSome, rfl⟩
      cases hSome
      rfl

theorem toDegrees_eq_error_iff_roundMag (n : Int) :
    toDegrees n = .error ⟨⟩ ↔ roundMag (n.natAbs * unitScale) scale = none := by
  unfold toDegrees
  dsimp only
  rw [ofRatio_eq_round]
  cases h : roundMag (n.natAbs * unitScale) scale with
  | none =>
    rw [round_of_none h, if_pos (isInf_inf _)]
    exact ⟨fun _ => rfl, fun _ => rfl⟩
  | some mq =>
    obtain ⟨m, q⟩ := mq
    obtain ⟨hValid, -⟩ := roundMag_valid scale_pos h
    rw [round_eq_make h, if_neg (by rw [isInf_make hValid]; decide)]
    constructor
    · intro hErr
      cases hErr
    · intro hNone
      cases hNone

/-- The threshold of overflow moved from units of `2⁻¹⁰⁷⁴` to ten-millionths:
`(2 ^ a - 1) * 2 ^ (b + e)` units are `2 ^ (a + b) - 2 ^ b` whole ones. Every exponent is a
variable here, so that no large power is ever evaluated. -/
private theorem threshold_iff {a b c k e N d : Nat} (hk : k = b + e) (hc : c = a + b) :
    (Nat.pow 2 a - 1) * (d * Nat.pow 2 k) ≤ N * Nat.pow 2 e ↔
      d * (Nat.pow 2 c - Nat.pow 2 b) ≤ N := by
  subst hk hc
  simp only [Nat.pow_eq]
  have hTop : 2 ^ (a + b) - 2 ^ b = (2 ^ a - 1) * 2 ^ b := by
    rw [Nat.sub_mul, Nat.one_mul, Nat.pow_add]
  have hMoved : (2 ^ a - 1) * (d * 2 ^ (b + e)) = d * ((2 ^ a - 1) * 2 ^ b) * 2 ^ e := by
    rw [Nat.pow_add]
    ac_rfl
  rw [hTop, hMoved]
  exact Nat.mul_le_mul_right_iff (Nat.two_pow_pos e)

theorem unitScale_pos : 0 < unitScale := by
  obtain ⟨e, -, hUnit⟩ := unitScale_eq_two_pow
  rw [hUnit]
  exact Nat.two_pow_pos e

/-- **Overflow.** A coordinate has a value in degrees exactly below `10 ^ 7 * (2 ^ 1024 - 2 ^ 970)`
ten-millionths in absolute value: from there `n / 10 ^ 7` rounds to `2 ^ 1024`. -/
theorem toDegrees_eq_error_iff (n : Int) :
    toDegrees n = .error ⟨⟩ ↔ scale * (Nat.pow 2 1024 - Nat.pow 2 970) ≤ n.natAbs := by
  refine (toDegrees_eq_error_iff_roundMag n).trans ((roundMag_eq_none_iff scale_pos).trans ?_)
  obtain ⟨e, he, hUnit⟩ := unitScale_eq_two_pow
  -- exponents become variables first: unifying powers of two with large literal exponents
  -- would evaluate them
  generalize hK : (2044 : Nat) = K
  generalize hA : (1024 : Nat) = A
  generalize hB : (970 : Nat) = B
  rewrite [hUnit]
  exact threshold_iff (by omega) (by omega)

/-- **Correct rounding.** The value in degrees is a double nearest `n / 10 ^ 7`, ties to even,
with the sign of `n`. -/
theorem toDegrees_isNearest {n : Int} {x : Binary64} (h : toDegrees n = .ok x) :
    IsNearest (n * unitScale) scale x ∧ x.sign = decide (n < 0) := by
  obtain ⟨m, q, hRound, rfl⟩ := (toDegrees_eq_ok_iff n x).mp h
  obtain ⟨hValid, -⟩ := roundMag_valid scale_pos hRound
  have hNearest := round_isNearest (s := decide (n < 0)) scale_pos hRound
  rw [round_eq_make hRound, signed_natAbs_mul] at hNearest
  exact ⟨hNearest, make_sign _ hValid.lt hValid.le⟩

/-! ## Order and sign -/

/-- Zero, and only zero, is worth zero degrees: a double nearer than zero to `n / 10 ^ 7` is the
smallest subnormal of the sign of `n`, since `2 ^ 1074` exceeds `10 ^ 7`. -/
theorem scaled_toDegrees_eq_zero_iff {n : Int} {x : Binary64} (h : toDegrees n = .ok x) :
    x.scaled = 0 ↔ n = 0 := by
  obtain ⟨hNearest, -⟩ := toDegrees_isNearest h
  have hTiny : Valid 1 0 := ⟨Nat.one_lt_two_pow (by decide), .inr rfl, by decide⟩
  have hZero : Valid 0 0 := ⟨Nat.two_pow_pos 53, .inr rfl, by decide⟩
  obtain ⟨e, he, hUnit⟩ := unitScale_eq_two_pow
  have hBig : (scale : Int) < unitScale := by
    have hLt : scale < unitScale := by
      rw [hUnit]
      exact Nat.lt_of_lt_of_le (by decide : scale < Nat.pow 2 24)
        (Nat.pow_le_pow_right (by decide) (by omega))
    exact_mod_cast hLt
  have hScalePos : (0 : Int) < scale := by exact_mod_cast scale_pos
  constructor
  · intro hx
    by_contra hn
    -- the smallest subnormal of the sign of `n` is nearer than zero
    have hTinyScaled : (make (decide (n < 0)) 1 0).scaled = if n < 0 then -1 else 1 := by
      rw [scaled_make hTiny]
      by_cases hNeg : n < 0 <;> simp [hNeg]
    have hNearTiny := hNearest.nearest (make (decide (n < 0)) 1 0) (isFinite_make hTiny)
    rw [hTinyScaled, hx] at hNearTiny
    by_cases hNeg : n < 0
    · have hMul : n * unitScale ≤ -1 * (unitScale : Int) :=
        Int.mul_le_mul_of_nonneg_right (by omega) (Int.natCast_nonneg _)
      rw [if_pos hNeg] at hNearTiny
      omega
    · have hMul : 1 * (unitScale : Int) ≤ n * unitScale :=
        Int.mul_le_mul_of_nonneg_right (by omega) (Int.natCast_nonneg _)
      rw [if_neg hNeg] at hNearTiny
      omega
  · rintro rfl
    -- zero is a double, and no double is nearer to zero
    have hNearZero := hNearest.nearest (make false 0 0) (isFinite_make hZero)
    have hZeroScaled : (make false 0 0).scaled = 0 := by
      rw [scaled_make hZero]
      rfl
    rw [hZeroScaled] at hNearZero
    simp only [Int.zero_mul, Int.zero_sub, Int.sub_zero, Int.natAbs_neg, Int.natAbs_zero,
      Nat.le_zero, Int.natAbs_eq_zero] at hNearZero
    rcases Int.mul_eq_zero.mp hNearZero with hx | hx
    · exact hx
    · omega

/-- **Monotone.** A larger coordinate is worth at least as much: were it worth less, both values
would be nearest the midpoint of the two doubles, so the two coordinates would be equal. -/
theorem toDegrees_mono {n n' : Int} {x y : Binary64} (hn : n ≤ n') (hx : toDegrees n = .ok x)
    (hy : toDegrees n' = .ok y) : x.scaled ≤ y.scaled := by
  obtain ⟨hNearX, -⟩ := toDegrees_isNearest hx
  obtain ⟨hNearY, -⟩ := toDegrees_isNearest hy
  by_contra hLt
  have hXY := hNearX.nearest y hNearY.finite
  have hYX := hNearY.nearest x hNearX.finite
  have hScalePos : (0 : Int) < scale := by exact_mod_cast scale_pos
  have hUnitPos : (0 : Int) < unitScale := by exact_mod_cast unitScale_pos
  have hLess : y.scaled * scale < x.scaled * scale := by
    exact Int.mul_lt_mul_of_pos_right (Int.lt_of_not_ge hLt) hScalePos
  -- both values are nearest the midpoint, so `n * 2 ^ 1074 = n' * 2 ^ 1074`
  have hSame : n * unitScale = n' * unitScale := by
    have hLe : n * unitScale ≤ n' * unitScale := Int.mul_le_mul_of_nonneg_right hn hUnitPos.le
    omega
  have hEq : n = n' := Int.eq_of_mul_eq_mul_right hUnitPos.ne' hSame
  subst hEq
  rw [hx] at hy
  cases hy
  exact hLt (Int.le_refl _)

/-- **Odd.** A non-zero coordinate of the other sign is worth the negation, bit for bit. -/
theorem toDegrees_neg {n : Int} (hn : n ≠ 0) : toDegrees (-n) = (toDegrees n).map Binary64.neg := by
  have hSign : decide (-n < 0) = !decide (n < 0) := by
    by_cases h : n < 0
    · rw [decide_eq_false (by omega : ¬-n < 0), decide_eq_true h]
      rfl
    · rw [decide_eq_true (by omega : -n < 0), decide_eq_false h]
      rfl
  have hDouble : ofRatio (-n) scale = (ofRatio n scale).neg := by
    unfold ofRatio
    rw [hSign, Int.natAbs_neg, round_not scale_pos]
  unfold toDegrees
  dsimp only
  rw [hDouble, isInf_neg]
  split <;> rfl

/-! ## One value, one double -/

/-- Two coordinates worth the same value are worth the same double. -/
theorem toDegrees_eq_of_scaled_eq {n n' : Int} {x y : Binary64} (hx : toDegrees n = .ok x)
    (hy : toDegrees n' = .ok y) (hEq : x.scaled = y.scaled) : x = y := by
  have hZeroX := scaled_toDegrees_eq_zero_iff hx
  have hZeroY := scaled_toDegrees_eq_zero_iff hy
  obtain ⟨m, q, hRound, rfl⟩ := (toDegrees_eq_ok_iff n x).mp hx
  obtain ⟨m', q', hRound', rfl⟩ := (toDegrees_eq_ok_iff n' y).mp hy
  obtain ⟨hValid, -⟩ := roundMag_valid scale_pos hRound
  obtain ⟨hValid', -⟩ := roundMag_valid scale_pos hRound'
  rw [scaled_make hValid] at hZeroX hEq
  rw [scaled_make hValid'] at hZeroY hEq
  -- equal values have equal magnitudes, and equal signs unless both are zero
  have hMag : m * Nat.pow 2 q = m' * Nat.pow 2 q' := by
    split at hEq <;> split at hEq <;> omega
  obtain ⟨rfl, rfl⟩ := hValid.eq_of_mag_eq hValid' hMag
  have hSigns : decide (n < 0) = decide (n' < 0) := by
    by_cases hZero : m * Nat.pow 2 q = 0
    · have hn : n = 0 := hZeroX.mp (by split <;> omega)
      have hn' : n' = 0 := hZeroY.mp (by split <;> omega)
      rw [hn, hn']
    · -- a nonzero value carries the sign of its coordinate
      have hPos : 0 < ((m * Nat.pow 2 q : Nat) : Int) := by omega
      generalize decide (n < 0) = s at hEq ⊢
      generalize decide (n' < 0) = s' at hEq ⊢
      cases s <;> cases s' <;> simp only [Bool.false_eq_true, if_false, if_true] at hEq ⊢ <;> omega
  rw [hSigns]

/-- The smaller of two values in degrees is the value of the smaller coordinate. -/
theorem min_toDegrees {n n' : Int} {x y : Binary64} (hx : toDegrees n = .ok x)
    (hy : toDegrees n' = .ok y) : toDegrees (min n n') = .ok (x.min y) := by
  unfold Binary64.min
  rcases Int.le_total n n' with hLe | hLe
  · rw [Int.min_eq_left hLe, if_neg (Int.not_lt.mpr (toDegrees_mono hLe hx hy)), hx]
  · rw [Int.min_eq_right hLe]
    by_cases hLt : y.scaled < x.scaled
    · rw [if_pos hLt, hy]
    · rw [if_neg hLt, hy, toDegrees_eq_of_scaled_eq hy hx
        (Int.le_antisymm (toDegrees_mono hLe hy hx) (Int.not_lt.mp hLt))]

/-- The larger of two values in degrees is the value of the larger coordinate. -/
theorem max_toDegrees {n n' : Int} {x y : Binary64} (hx : toDegrees n = .ok x)
    (hy : toDegrees n' = .ok y) : toDegrees (max n n') = .ok (x.max y) := by
  unfold Binary64.max
  rcases Int.le_total n n' with hLe | hLe
  · rw [Int.max_eq_right hLe]
    by_cases hLt : x.scaled < y.scaled
    · rw [if_pos hLt, hy]
    · rw [if_neg hLt, hy, toDegrees_eq_of_scaled_eq hy hx
        (Int.le_antisymm (Int.not_lt.mp hLt) (toDegrees_mono hLe hx hy))]
  · rw [Int.max_eq_left hLe, if_neg (Int.not_lt.mpr (toDegrees_mono hLe hy hx)), hx]

/-! ## Positions -/

theorem position_eq_ok_iff (node : Node) (lon lat : Binary64) :
    node.position = .ok (lon, lat) ↔
      toDegrees node.longitude = .ok lon ∧ toDegrees node.latitude = .ok lat := by
  unfold Node.position
  cases toDegrees node.longitude <;> cases toDegrees node.latitude <;>
    simp [bind, Except.bind, pure, Except.pure]

theorem position_eq_error_iff (node : Node) :
    node.position = .error ⟨⟩ ↔
      toDegrees node.longitude = .error ⟨⟩ ∨ toDegrees node.latitude = .error ⟨⟩ := by
  unfold Node.position
  cases toDegrees node.longitude <;> cases toDegrees node.latitude <;>
    simp [bind, Except.bind, pure, Except.pure]

/-- **The value in degrees of a coordinate.** For every integer `n`: the value fails exactly from
`10 ^ 7 * (2 ^ 1024 - 2 ^ 970)` ten-millionths in absolute value; otherwise it is a double nearest
`n / 10 ^ 7`, ties to even, with the sign of `n`. It grows with `n`, `-n` is worth the negated
value (bit for bit unless `n = 0`, whose value is `+0`), and the position of a node is the values
of its longitude and latitude, failing when either fails. -/
theorem toDegrees_correctly_rounded :
    (∀ n : Int, toDegrees n = .error ⟨⟩ ↔ scale * (Nat.pow 2 1024 - Nat.pow 2 970) ≤ n.natAbs) ∧
    (∀ (n : Int) (x : Binary64), toDegrees n = .ok x →
      IsNearest (n * unitScale) scale x ∧ x.sign = decide (n < 0)) ∧
    (∀ (n n' : Int) (x y : Binary64), n ≤ n' → toDegrees n = .ok x → toDegrees n' = .ok y →
      x.scaled ≤ y.scaled) ∧
    (∀ n : Int, (toDegrees (-n)).map Binary64.scaled = (toDegrees n).map fun x => -x.scaled) ∧
    (∀ n : Int, n ≠ 0 → toDegrees (-n) = (toDegrees n).map Binary64.neg) ∧
    (∀ (node : Node) (lon lat : Binary64), node.position = .ok (lon, lat) ↔
      toDegrees node.longitude = .ok lon ∧ toDegrees node.latitude = .ok lat) ∧
    (∀ node : Node, node.position = .error ⟨⟩ ↔
      toDegrees node.longitude = .error ⟨⟩ ∨ toDegrees node.latitude = .error ⟨⟩) := by
  refine ⟨toDegrees_eq_error_iff, fun n x h => toDegrees_isNearest h,
    fun n n' x y hn hx hy => toDegrees_mono hn hx hy, fun n => ?_, fun n hn => toDegrees_neg hn,
    position_eq_ok_iff, position_eq_error_iff⟩
  by_cases hn : n = 0
  · -- zero is worth `+0`, whose negation has the same value
    subst hn
    rw [Int.neg_zero]
    cases h : toDegrees 0 with
    | error e => rfl
    | ok x =>
      have hZero := (scaled_toDegrees_eq_zero_iff h).mpr rfl
      simp [Except.map, hZero]
  · rw [toDegrees_neg hn]
    cases toDegrees n with
    | error e => rfl
    | ok x => simp [Except.map, scaled_neg]

end RoadAtlas.Coordinate
