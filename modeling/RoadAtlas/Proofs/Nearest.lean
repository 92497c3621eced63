import Mathlib.Data.Nat.Dist
import RoadAtlas.Proofs.Rounding

/-!
# Rounding to the nearest double is correct

`Binary64.round s a d` is meant to give the double nearest `±a / d` units of `2⁻¹⁰⁷⁴`, a tie going
to the even significand, and an infinity exactly when that rounding reaches `2 ^ 1024`. This
module proves it. Values are compared as integers: a finite double `y` is worth `y.scaled` units,
so its distance from `r / d` units is `|r - y.scaled * d| / d`, and no rational arithmetic is
needed.

* Every magnitude is a multiple of the unit `2 ^ p` of the binade of `a / d`, or lies below that
  binade (`mag_grid`). So the multiple of the unit nearest `a / d`, which `rne` picks
  (`rne_nearest`, `rne_tie`), is a double nearest `a / d` (`roundMag_nearest`).
* Rounding leaves the finite range exactly from `2 ^ 1024 - 2 ^ 970`, where the largest double
  and `2 ^ 1024` are equally near and the latter has the even significand
  (`roundMag_eq_none_iff`).
* The sign of the ratio is only the sign bit of the result (`round_not`).

## Main definitions

* `Binary64.IsNearest r d x`: `x` is a finite double nearest `r / d` units, ties to even.

## Main results

* `round_isNearest`: a rounding that stays finite is a nearest double.
* `roundMag_eq_none_iff`: when rounding overflows.
* `round_not`: the rounding of the negated ratio is the negated rounding.
-/

namespace RoadAtlas.Binary64

/-! ## Finite doubles -/

theorem sig_lt (x : Binary64) : x.sig < Nat.pow 2 53 := by
  have hFrac : x.frac < Nat.pow 2 52 := Nat.mod_lt _ (Nat.two_pow_pos 52)
  have h52 : Nat.pow 2 52 = 4503599627370496 := rfl
  have h53 : Nat.pow 2 53 = 9007199254740992 := rfl
  unfold sig
  rw [h52] at hFrac ⊢
  rw [h53]
  split <;> omega

/-- Of two layouts of one magnitude, the one with the smaller exponent cannot have the strictly
smaller one: its significand would be `2 ^ 53` or more. -/
private theorem Valid.exp_eq_of_mag_eq {m p m' p' : Nat} (h : Valid m p) (h' : Valid m' p')
    (hMag : m * Nat.pow 2 p = m' * Nat.pow 2 p') (hLe : p ≤ p') : p = p' := by
  by_contra hNe
  have hNorm : Nat.pow 2 52 ≤ m' := h'.norm.resolve_right (by omega)
  have hLt := h.lt
  obtain ⟨k, rfl⟩ : ∃ k, p' = p + 1 + k := ⟨p' - p - 1, by omega⟩
  simp only [Nat.pow_eq] at hMag hNorm hLt
  have hCancel : m = m' * 2 ^ (k + 1) := by
    apply Nat.eq_of_mul_eq_mul_right (Nat.two_pow_pos p)
    rw [hMag, Nat.mul_assoc, ← Nat.pow_add, show k + 1 + p = p + 1 + k by omega]
  have hGrow : m' * 2 ≤ m' * 2 ^ (k + 1) := by
    apply Nat.mul_le_mul_left m'
    rw [Nat.pow_succ]
    exact Nat.le_mul_of_pos_left 2 (Nat.two_pow_pos k)
  have h52 : (2 : Nat) ^ 52 = 4503599627370496 := rfl
  have h53 : (2 : Nat) ^ 53 = 9007199254740992 := rfl
  rw [h52] at hNorm
  rw [h53] at hLt
  omega

/-- A significand and exponent laid out by `make` are fixed by the magnitude. -/
theorem Valid.eq_of_mag_eq {m p m' p' : Nat} (h : Valid m p) (h' : Valid m' p')
    (hMag : m * Nat.pow 2 p = m' * Nat.pow 2 p') : m = m' ∧ p = p' := by
  have hp : p = p' := by
    rcases Nat.le_total p p' with hLe | hLe
    · exact h.exp_eq_of_mag_eq h' hMag hLe
    · exact (h'.exp_eq_of_mag_eq h hMag.symm hLe).symm
  subst hp
  exact ⟨Nat.eq_of_mul_eq_mul_right (Nat.two_pow_pos p) hMag, rfl⟩

section Make

variable {s : Bool} {m p : Nat}

theorem isFinite_make (h : Valid m p) : (make s m p).isFinite = true := by
  have hp := h.le
  simp only [isFinite, bexp_make h, bne_iff_ne, ne_eq]
  split <;> omega

theorem sig_make (h : Valid m p) : (make s m p).sig = m := by
  unfold sig
  rw [bexp_make h, frac_make h]
  by_cases hm : m < Nat.pow 2 52
  · simp [hm]
  · simp only [hm, if_false, Nat.add_one_ne_zero]
    exact Nat.sub_add_cancel (Nat.le_of_not_lt hm)

theorem scaled_make (h : Valid m p) :
    (make s m p).scaled = if s then -((m * Nat.pow 2 p : Nat) : Int) else ((m * Nat.pow 2 p : Nat) : Int) := by
  simp only [scaled, make_sign s h.lt h.le, mag_make h]

end Make

theorem isInf_inf (s : Bool) : (inf s).isInf = true := by
  cases s <;> decide

/-! ## The nearest multiple -/

/-- A multiple `k * D` lies at or below the floor multiple, or one step above it at least. -/
private theorem mul_side (k f D : Nat) : k * D ≤ f * D ∨ f * D + D ≤ k * D := by
  rcases Nat.lt_or_ge f k with h | h
  · exact .inr (by have := Nat.mul_le_mul_right D h; rwa [Nat.succ_mul] at this)
  · exact .inl (Nat.mul_le_mul_right D h)

/-- A multiple `k * D` is two steps from the floor multiple, or one of the two nearest. -/
private theorem mul_side_two (k f D : Nat) :
    k * D + D ≤ f * D ∨ k = f ∨ k = f + 1 ∨ f * D + 2 * D ≤ k * D := by
  rcases Nat.lt_or_ge k f with h | h
  · exact .inl (by have := Nat.mul_le_mul_right D h; rwa [Nat.succ_mul] at this)
  · rcases Nat.lt_or_ge (f + 1) k with h' | h'
    · refine .inr (.inr (.inr ?_))
      have := Nat.mul_le_mul_right D h'
      rw [Nat.succ_mul, Nat.succ_mul] at this
      omega
    · omega

/-- `rne a D * D` is a multiple of `D` nearest `a`. -/
theorem rne_nearest {a D : Nat} (hD : 0 < D) (k : Nat) :
    Nat.dist a (rne a D * D) ≤ Nat.dist a (k * D) := by
  have hDivMod := Nat.div_add_mod a D
  have hMod := Nat.mod_lt a hD
  rw [Nat.mul_comm] at hDivMod
  have hSide := mul_side k (a / D) D
  unfold Nat.dist
  rcases rne_cases a D with ⟨hEq, hHalf⟩ | ⟨hEq, hHalf⟩ <;> rw [hEq]
  · omega
  · rw [Nat.succ_mul]
    omega

/-- Another multiple as near as `rne a D * D` is a tie, and of the two `rne` picks the even one. -/
theorem rne_tie {a D k : Nat} (hD : 0 < D) (hk : k ≠ rne a D)
    (hEq : Nat.dist a (rne a D * D) = Nat.dist a (k * D)) : rne a D % 2 = 0 := by
  have hDivMod := Nat.div_add_mod a D
  have hMod := Nat.mod_lt a hD
  rw [Nat.mul_comm] at hDivMod
  have hSide := mul_side_two k (a / D) D
  have hNext : (a / D + 1) * D = a / D * D + D := Nat.succ_mul _ _
  unfold Nat.dist at hEq
  unfold rne at hk hEq ⊢
  dsimp only at hk hEq ⊢
  by_cases hBelow : 2 * (a % D) < D
  · simp only [hBelow, if_true] at hk hEq
    rcases hSide with hSide | rfl | rfl | hSide
    · omega
    · exact absurd rfl hk
    · rw [hNext] at hEq
      omega
    · omega
  · by_cases hAbove : D < 2 * (a % D)
    · simp only [hBelow, hAbove, if_true, if_false] at hk hEq
      rcases hSide with hSide | rfl | rfl | hSide
      · rw [hNext] at hEq
        omega
      · rw [hNext] at hEq
        omega
      · exact absurd rfl hk
      · rw [hNext] at hEq
        omega
    · simp only [hBelow, hAbove, if_false]
      split <;> omega

/-! ## Rounding a magnitude -/

/-- Every magnitude is a multiple of `2 ^ p`, or lies below `2 ^ 52` units `2 ^ p`: a magnitude
with a smaller unit has fewer than 53 bits of it. -/
theorem mag_grid (y : Binary64) (p : Nat) :
    (∃ k, y.mag = k * Nat.pow 2 p) ∨ (0 < p ∧ y.mag < Nat.pow 2 52 * Nat.pow 2 p) := by
  simp only [Nat.pow_eq]
  rcases Nat.lt_or_ge y.uexp p with h | h
  · refine .inr ⟨by omega, ?_⟩
    have hSig : y.sig * 2 ^ y.uexp < 2 ^ 53 * 2 ^ y.uexp :=
      Nat.mul_lt_mul_of_pos_right (sig_lt y) (Nat.two_pow_pos _)
    have hPow : 2 ^ 53 * 2 ^ y.uexp ≤ 2 ^ 52 * 2 ^ p := by
      rw [← Nat.pow_add, ← Nat.pow_add]
      exact Nat.pow_le_pow_right (by decide) (by omega)
    exact Nat.lt_of_lt_of_le hSig hPow
  · refine .inl ⟨y.sig * 2 ^ (y.uexp - p), ?_⟩
    rw [Nat.mul_assoc, ← Nat.pow_add, Nat.sub_add_cancel h]
    rfl

/-- A significand that `roundMag` returns is even when the nearest multiple it came from is:
a carry gives `2 ^ 52`. -/
theorem roundMag_even {a d m q : Nat} (h : roundMag a d = some (m, q))
    (hEven : rne a (d * Nat.pow 2 (ulpExp a d)) % 2 = 0) : m % 2 = 0 := by
  unfold roundMag at h
  dsimp only at h
  generalize rne a (d * Nat.pow 2 (ulpExp a d)) = r at h hEven
  by_cases hCarry : r = Nat.pow 2 53
  · rw [if_pos hCarry] at h
    split at h
    · cases h
      decide
    · cases h
  · rw [if_neg hCarry] at h
    split at h
    · cases h
      exact hEven
    · cases h

/-- **Nearest, on magnitudes.** The rounded magnitude is at least as near `a / d` as every
magnitude, and one as near with another value makes the rounded significand even. -/
theorem roundMag_nearest {a d m q : Nat} (hd : 0 < d) (h : roundMag a d = some (m, q))
    (y : Binary64) :
    Nat.dist a (m * Nat.pow 2 q * d) ≤ Nat.dist a (y.mag * d) ∧
      (Nat.dist a (m * Nat.pow 2 q * d) = Nat.dist a (y.mag * d) → y.mag ≠ m * Nat.pow 2 q →
        m % 2 = 0) := by
  have hSpec := ulpExp_spec (a := a) hd
  obtain ⟨-, hMag⟩ := roundMag_valid hd h
  have hEven := roundMag_even h
  generalize hp : ulpExp a d = p at hSpec hMag hEven
  have hUnit : 0 < d * Nat.pow 2 p := Nat.mul_pos hd (Nat.two_pow_pos p)
  have hRounded : m * Nat.pow 2 q * d = rne a (d * Nat.pow 2 p) * (d * Nat.pow 2 p) := by
    rw [hMag, Nat.mul_comm d, Nat.mul_assoc]
  rw [hRounded]
  rcases mag_grid y p with ⟨k, hk⟩ | ⟨hp0, hBelow⟩
  · -- `y` is a multiple of the unit: the nearest multiple is at least as near
    have hy : y.mag * d = k * (d * Nat.pow 2 p) := by rw [hk, Nat.mul_comm d, Nat.mul_assoc]
    rw [hy]
    refine ⟨rne_nearest hUnit k, fun hTie hNe => hEven (rne_tie hUnit (k := k) ?_ hTie)⟩
    rintro rfl
    exact hNe (by rw [hk, hMag])
  · -- `y` is below the binade, so farther than its first multiple `2 ^ 52`
    have hBinade : d * Nat.pow 2 (p + 52) ≤ a := hSpec.2.resolve_left (by omega)
    have hFirst : d * Nat.pow 2 (p + 52) = Nat.pow 2 52 * (d * Nat.pow 2 p) := by
      simp only [Nat.pow_eq]
      rw [Nat.pow_add, Nat.mul_comm (2 ^ p), ← Nat.mul_assoc, Nat.mul_comm d, Nat.mul_assoc]
    have hy : y.mag * d < Nat.pow 2 52 * (d * Nat.pow 2 p) := by
      have := Nat.mul_lt_mul_of_pos_right hBelow hd
      rwa [Nat.mul_assoc, Nat.mul_comm (Nat.pow 2 p) d] at this
    have hNearest := rne_nearest hUnit (a := a) (Nat.pow 2 52)
    unfold Nat.dist at hNearest ⊢
    exact ⟨by omega, fun _ _ => by omega⟩

/-! ## Overflow -/

/-- An odd quotient with a remainder of at least half rounds up. -/
theorem rne_eq_succ_of_odd {a D : Nat} (hOdd : a / D % 2 = 1) (hHalf : D ≤ 2 * (a % D)) :
    rne a D = a / D + 1 := by
  unfold rne
  dsimp only
  rw [if_neg (Nat.not_lt.mpr hHalf)]
  split
  · rfl
  · rw [if_neg (by omega)]

/-- **Overflow.** `a / d` units round past the largest double exactly from `2 ^ 1024 - 2 ^ 970`,
which is `(2 ^ 54 - 1) * 2 ^ 2044` units: there the largest double, `(2 ^ 53 - 1) * 2 ^ 971`, and
`2 ^ 1024` are equally near, and `2 ^ 1024` has the even significand. -/
theorem roundMag_eq_none_iff {a d : Nat} (hd : 0 < d) :
    roundMag a d = none ↔ (Nat.pow 2 54 - 1) * (d * Nat.pow 2 2044) ≤ a := by
  have hSpec := ulpExp_spec (a := a) hd
  have hBounds := quot_bounds hd hSpec
  have hCases := rne_cases a (d * Nat.pow 2 (ulpExp a d))
  have hUp := rne_eq_succ_of_odd (a := a) (D := d * Nat.pow 2 (ulpExp a d))
  unfold roundMag UlpSpec at *
  dsimp only
  generalize ulpExp a d = p at *
  generalize rne a (d * Nat.pow 2 p) = r at *
  -- the exponent after a carry, against the largest exponent
  have hNone : (if (if r = Nat.pow 2 53 then (Nat.pow 2 52, p + 1) else (r, p)).2 ≤ 2045 then
        some (if r = Nat.pow 2 53 then (Nat.pow 2 52, p + 1) else (r, p)) else none) = none ↔
      (r = Nat.pow 2 53 ∧ 2045 ≤ p) ∨ (r ≠ Nat.pow 2 53 ∧ 2046 ≤ p) := by
    by_cases hCarry : r = Nat.pow 2 53
    · rw [if_pos hCarry]
      split <;> simp [hCarry] <;> omega
    · rw [if_neg hCarry]
      split <;> simp [hCarry] <;> omega
  rw [hNone]
  -- the exponent of the threshold gets a name, so that no power of it is ever evaluated
  obtain ⟨K, hK⟩ : ∃ K, K = 2044 := ⟨_, rfl⟩
  rw [← hK]
  have hX : 0 < d * Nat.pow 2 K := Nat.mul_pos hd (Nat.two_pow_pos K)
  have hUnit : 0 < d * Nat.pow 2 p := Nat.mul_pos hd (Nat.two_pow_pos p)
  -- the unit `d * 2 ^ p` of the binade against `d * 2 ^ K`
  have hLow : p ≤ K → d * Nat.pow 2 p ≤ d * Nat.pow 2 K := fun h =>
    Nat.mul_le_mul_left d (Nat.pow_le_pow_right (by decide) h)
  have hTop : p = K + 1 → d * Nat.pow 2 p = 2 * (d * Nat.pow 2 K) := fun h => by
    subst h
    show d * (Nat.pow 2 K * 2) = 2 * (d * Nat.pow 2 K)
    rw [Nat.mul_comm (Nat.pow 2 K) 2, Nat.mul_left_comm]
  have hHigh : K + 2 ≤ p → 4 * (d * Nat.pow 2 K) ≤ d * Nat.pow 2 p := fun h => by
    have hPow : Nat.pow 2 (K + 2) ≤ Nat.pow 2 p := Nat.pow_le_pow_right (by decide) h
    have hFour : Nat.pow 2 (K + 2) = 4 * Nat.pow 2 K := by
      show Nat.pow 2 K * 2 * 2 = 4 * Nat.pow 2 K
      omega
    rw [hFour] at hPow
    have := Nat.mul_le_mul_left d hPow
    rwa [Nat.mul_left_comm] at this
  have hSplit53 : d * Nat.pow 2 (p + 53) = d * Nat.pow 2 p * Nat.pow 2 53 := by
    rw [Nat.mul_assoc]
    exact congrArg (d * ·) (Nat.pow_add 2 p 53)
  have hSplit52 : d * Nat.pow 2 (p + 52) = d * Nat.pow 2 p * Nat.pow 2 52 := by
    rw [Nat.mul_assoc]
    exact congrArg (d * ·) (Nat.pow_add 2 p 52)
  rw [hSplit53, hSplit52] at hSpec
  clear hNone hSplit53 hSplit52
  have h52 : Nat.pow 2 52 = 4503599627370496 := rfl
  have h53 : Nat.pow 2 53 = 9007199254740992 := rfl
  have h54 : Nat.pow 2 54 = 18014398509481984 := rfl
  simp only [h52, h53, h54] at *
  have hDivMod := Nat.div_add_mod a (d * Nat.pow 2 p)
  have hMod := Nat.mod_lt a hUnit
  generalize d * Nat.pow 2 K = X at *
  generalize d * Nat.pow 2 p = D at *
  generalize a / D = f at *
  generalize a % D = s at *
  constructor
  · rintro (⟨hCarry, hp⟩ | ⟨-, hp⟩)
    · by_cases hp46 : 2046 ≤ p
      · have := hHigh (by omega)
        have := hSpec.2.resolve_left (by omega)
        omega
      · -- the top binade carries into `2 ^ 1024` only from its last significand, rounded up
        have hD := hTop (by omega)
        have hf : f = 9007199254740991 := by omega
        subst hf
        omega
    · have := hHigh (by omega)
      have := hSpec.2.resolve_left (by omega)
      omega
  · intro h
    by_cases hp46 : 2046 ≤ p
    · by_cases hCarry : r = 9007199254740992
      · exact .inl ⟨hCarry, by omega⟩
      · exact .inr ⟨hCarry, hp46⟩
    · by_cases hp44 : p ≤ 2044
      · have := hLow (by omega)
        omega
      · -- in the top binade only the last significand reaches the threshold, and it carries
        have hD := hTop (by omega)
        have hf : f = 9007199254740991 := by
          rcases Nat.lt_or_ge f 9007199254740991 with hf | hf
          · have := Nat.mul_le_mul_left D (show f ≤ 9007199254740990 by omega)
            omega
          · omega
        subst hf
        have := hUp (by decide) (by omega)
        exact .inl ⟨by omega, by omega⟩

/-! ## Nearest doubles -/

/-- `x` is a finite double nearest `r / d` units of `2⁻¹⁰⁷⁴`: no finite double is nearer, and
when another finite double with another value is as near, `x` has the even significand. -/
structure IsNearest (r : Int) (d : Nat) (x : Binary64) : Prop where
  finite : x.isFinite = true
  nearest : ∀ y : Binary64, y.isFinite = true →
    (r - x.scaled * d).natAbs ≤ (r - y.scaled * d).natAbs
  even_of_tie : ∀ y : Binary64, y.isFinite = true → y.scaled ≠ x.scaled →
    (r - x.scaled * d).natAbs = (r - y.scaled * d).natAbs → x.sig % 2 = 0

/-- **Round to nearest, ties to even.** A rounding that stays finite is a nearest double. -/
theorem round_isNearest {s : Bool} {a d m q : Nat} (hd : 0 < d) (h : roundMag a d = some (m, q)) :
    IsNearest (if s then -(a : Int) else a) d (round s a d) := by
  obtain ⟨hValid, -⟩ := roundMag_valid hd h
  have hZero : Valid 0 0 := ⟨Nat.two_pow_pos 53, .inr rfl, by decide⟩
  -- the rounding is at least as near as zero, so it lies on the side of `a`
  have hNearZero := (roundMag_nearest hd h (make false 0 0)).1
  simp only [mag_make hZero, Nat.zero_mul] at hNearZero
  have hCast : ∀ k : Nat, (k : Int) * (d : Int) = ((k * d : Nat) : Int) := fun k =>
    (Int.natCast_mul _ _).symm
  rw [round_eq_make h]
  refine ⟨isFinite_make hValid, fun y _ => ?_, fun y _ hNe hTie => ?_⟩
  · have hNear := (roundMag_nearest hd h y).1
    rw [scaled_make hValid]
    simp only [scaled]
    generalize m * Nat.pow 2 q = M at *
    unfold Nat.dist at hNear hNearZero
    cases s <;> cases y.sign <;> simp only [Int.neg_mul, hCast, Bool.false_eq_true, if_true, if_false] <;>
      omega
  · have hNear := roundMag_nearest hd h y
    rw [sig_make hValid]
    rw [scaled_make hValid] at hNe hTie
    simp only [scaled] at hNe hTie
    have hPos : 0 < y.mag → 0 < y.mag * d := fun hy => Nat.mul_pos hy hd
    generalize m * Nat.pow 2 q = M at *
    unfold Nat.dist at hNear hNearZero
    -- a tie of signed values is a tie of magnitudes, on the same side of zero
    refine hNear.2 ?_ ?_
    · cases hSign : y.sign <;> cases s <;>
        simp only [hSign, Int.neg_mul, hCast, Bool.false_eq_true, if_true, if_false] at hTie hNe <;>
        omega
    · intro hEq
      cases hSign : y.sign <;> cases s <;>
        simp only [hSign, Int.neg_mul, hCast, Bool.false_eq_true, if_true, if_false] at hTie hNe <;>
        omega

/-! ## Signs -/

theorem eq_of_word_eq {x y : Binary64} (h : x.word = y.word) : x = y := by
  cases x
  cases y
  exact congrArg Binary64.mk (UInt64.toNat_inj.mp h)

/-- Negation adds or removes the sign bit. -/
theorem word_neg (x : Binary64) :
    x.neg.word = if x.word < Nat.pow 2 63 then x.word + Nat.pow 2 63 else x.word - Nat.pow 2 63 := by
  have hLt := word_lt x
  unfold neg word at *
  rw [UInt64.toNat_xor]
  have hBit : (0x8000000000000000 : UInt64).toNat = 2 ^ 63 := rfl
  rw [hBit]
  simp only [Nat.pow_eq] at hLt ⊢
  generalize x.bits.toNat = w at *
  have hDiv : (w ^^^ 2 ^ 63) / 2 ^ 63 = w / 2 ^ 63 ^^^ 1 := by
    rw [Nat.xor_div_two_pow, Nat.div_self (Nat.two_pow_pos 63)]
  have hMod : (w ^^^ 2 ^ 63) % 2 ^ 63 = w % 2 ^ 63 := by
    rw [Nat.xor_mod_two_pow, Nat.mod_self, Nat.xor_zero]
  have hSplit := Nat.div_add_mod (w ^^^ 2 ^ 63) (2 ^ 63)
  have hSplitW := Nat.div_add_mod w (2 ^ 63)
  have h63 : (2 : Nat) ^ 63 = 9223372036854775808 := rfl
  have h64 : (2 : Nat) ^ 64 = 18446744073709551616 := rfl
  rw [h63] at hDiv hMod hSplit hSplitW ⊢
  rw [h64] at hLt
  have hTop : w / 9223372036854775808 = 0 ∨ w / 9223372036854775808 = 1 := by omega
  rcases hTop with hTop | hTop <;> rw [hTop] at hDiv <;> simp only [Nat.zero_xor, Nat.xor_self] at hDiv <;>
    split <;> omega

section Neg

variable (x : Binary64)

/-- Negation moves the word by `2 ^ 63`, so the fields below the sign bit stay. -/
theorem bexp_neg : x.neg.bexp = x.bexp := by
  have hLt := word_lt x
  unfold bexp
  rw [word_neg]
  have h52 : Nat.pow 2 52 = 4503599627370496 := rfl
  have h63 : Nat.pow 2 63 = 9223372036854775808 := rfl
  have h64 : Nat.pow 2 64 = 18446744073709551616 := rfl
  have h11 : Nat.pow 2 11 = 2048 := rfl
  rw [h52, h63, h11]
  rw [h64] at hLt
  split <;> omega

theorem frac_neg : x.neg.frac = x.frac := by
  unfold frac
  rw [word_neg]
  have h52 : Nat.pow 2 52 = 4503599627370496 := rfl
  have h63 : Nat.pow 2 63 = 9223372036854775808 := rfl
  rw [h52, h63]
  split <;> omega

theorem sign_neg : x.neg.sign = !x.sign := by
  have hLt := word_lt x
  unfold sign
  rw [word_neg]
  have h63 : Nat.pow 2 63 = 9223372036854775808 := rfl
  have h64 : Nat.pow 2 64 = 18446744073709551616 := rfl
  rw [h63]
  rw [h64] at hLt
  by_cases h : x.word < 9223372036854775808
  · rw [if_pos h, decide_eq_true (by omega), decide_eq_false (by omega)]
    rfl
  · rw [if_neg h, decide_eq_false (by omega), decide_eq_true (by omega)]
    rfl

theorem isInf_neg : x.neg.isInf = x.isInf := by
  unfold isInf
  rw [bexp_neg, frac_neg]

theorem mag_neg : x.neg.mag = x.mag := by
  unfold mag sig uexp
  rw [bexp_neg, frac_neg]

theorem scaled_neg : x.neg.scaled = -x.scaled := by
  unfold scaled
  rw [sign_neg, mag_neg]
  cases hSign : x.sign <;> simp

end Neg

/-- A laid-out double of the other sign is the negation. -/
theorem make_not {s : Bool} {m p : Nat} (hm : m < Nat.pow 2 53) (hp : p ≤ 2045) :
    make (!s) m p = (make s m p).neg := by
  apply eq_of_word_eq
  rw [word_neg, word_make _ hm hp, word_make _ hm hp]
  have h52 : Nat.pow 2 52 = 4503599627370496 := rfl
  have h53 : Nat.pow 2 53 = 9007199254740992 := rfl
  have h63 : Nat.pow 2 63 = 9223372036854775808 := rfl
  rw [h52, h63]
  rw [h53] at hm
  cases s <;> simp only [Bool.not_false, Bool.not_true, if_true, if_false, Bool.false_eq_true] <;>
    split <;> split <;> omega

theorem inf_not (s : Bool) : inf (!s) = (inf s).neg := by
  cases s <;> decide

/-- **Rounding is odd.** The rounding of the ratio of the other sign is the negation. -/
theorem round_not {s : Bool} {a d : Nat} (hd : 0 < d) : round (!s) a d = (round s a d).neg := by
  cases h : roundMag a d with
  | none => rw [round_of_none h, round_of_none h, inf_not]
  | some mq =>
    obtain ⟨m, q⟩ := mq
    obtain ⟨hValid, -⟩ := roundMag_valid hd h
    rw [round_eq_make h, round_eq_make h, make_not hValid.lt hValid.le]

end RoadAtlas.Binary64
