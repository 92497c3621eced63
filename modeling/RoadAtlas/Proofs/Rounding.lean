import RoadAtlas.Number.Rounding

/-!
# Rounding to the nearest double, proved

`Binary64.round s a d` rounds `a / d` units of `2⁻¹⁰⁷⁴` to a double. Three facts carry what the
rest of the library says about the doubles it makes:

* `ulpExp a d` is the unit exponent of the binade that holds `a / d` (`ulpExp_spec`): the ratio
  is below `2 ^ 53` units `2 ^ p`, and at least `2 ^ 52` of them unless the unit is the
  smallest. The exponent comes from the bit lengths of `a` and `d`, which fix `⌊log₂ (a / d)⌋`
  up to one, and one product decides (`floorLog2Ratio_spec`).
* The significand and exponent that `roundMag` returns are laid out faithfully by `make`
  (`Valid`, `roundMag_valid`), so the double's magnitude is the rounded magnitude
  (`mag_make`).
* That magnitude is a multiple of the unit nearest `a / d` (`rne_near`), and a multiple nearer
  than half a unit is that one (`rne_eq_of_near`).

## Main definitions

* `Binary64.Valid`: a significand and unit exponent in the layout of `make`.
* `Binary64.UlpSpec`: the unit exponent of the binade of a ratio.

## Main results

* `bexp_make`, `frac_make`, `mag_make`, `isInf_make`: the fields of a laid-out double.
* `ulpExp_spec`, `roundMag_valid`, `roundMag_isSome`: rounding picks the binade and lays its
  result out faithfully, and stays finite below the top binade.
* `rne_near`, `rne_eq_of_near`: the nearest multiple, and its uniqueness.
-/

namespace RoadAtlas.Binary64

/-! ## Laying out a double -/

/-- A significand and unit exponent that `make` lays out faithfully: at most 53 bits, normal
unless the exponent is the smallest, and an exponent below that of the infinities. -/
structure Valid (m p : Nat) : Prop where
  lt : m < Nat.pow 2 53
  norm : Nat.pow 2 52 ≤ m ∨ p = 0
  le : p ≤ 2045

section Make

variable {s : Bool} {m p : Nat}

theorem bexp_make (h : Valid m p) :
    (make s m p).bexp = if m < Nat.pow 2 52 then 0 else p + 1 := by
  have h52 : Nat.pow 2 52 = 4503599627370496 := rfl
  have h53 : Nat.pow 2 53 = 9007199254740992 := rfl
  have h63 : Nat.pow 2 63 = 9223372036854775808 := rfl
  have h11 : Nat.pow 2 11 = 2048 := rfl
  have hm := h.lt
  have hp := h.le
  rw [h53] at hm
  simp only [bexp, word_make s h.lt h.le]
  rw [h52, h63, h11]
  split <;> split <;> omega

theorem frac_make (h : Valid m p) :
    (make s m p).frac = if m < Nat.pow 2 52 then m else m - Nat.pow 2 52 := by
  have h52 : Nat.pow 2 52 = 4503599627370496 := rfl
  have h53 : Nat.pow 2 53 = 9007199254740992 := rfl
  have h63 : Nat.pow 2 63 = 9223372036854775808 := rfl
  have hm := h.lt
  have hp := h.le
  rw [h53] at hm
  simp only [frac, word_make s h.lt h.le]
  rw [h52, h63]
  split <;> split <;> omega

/-- The magnitude of a laid-out double is its significand times its unit. -/
theorem mag_make (h : Valid m p) : (make s m p).mag = m * Nat.pow 2 p := by
  unfold mag sig uexp
  rw [bexp_make h, frac_make h]
  by_cases hm : m < Nat.pow 2 52
  · have hp : p = 0 := h.norm.resolve_left (Nat.not_le.mpr hm)
    simp [hm, hp]
  · have hAdd : m - Nat.pow 2 52 + Nat.pow 2 52 = m := Nat.sub_add_cancel (Nat.le_of_not_lt hm)
    simp only [hm, if_false, Nat.add_one_ne_zero, Nat.add_sub_cancel, hAdd]

theorem isInf_make (h : Valid m p) : (make s m p).isInf = false := by
  have hp := h.le
  unfold isInf
  rw [bexp_make h]
  split
  · simp
  · simp
    omega

end Make

/-- The unit scale is `2 ^ 1074`, with the exponent named so that proofs keep the power symbolic:
a closed power that large is never evaluated. -/
theorem unitScale_eq_two_pow : ∃ e, e = 1074 ∧ unitScale = Nat.pow 2 e :=
  ⟨1074, rfl, by unfold unitScale; exact Eq.refl _⟩

/-! ## The binade of a ratio -/

/-- `⌊log₂ (a / d)⌋`, or `0` below one: `a / d` lies below the next power of two, and from one
on at or above this one. -/
theorem floorLog2Ratio_spec {a d : Nat} (hd : 0 < d) :
    a < d * Nat.pow 2 (floorLog2Ratio a d + 1) ∧
      (1 ≤ floorLog2Ratio a d → d * Nat.pow 2 (floorLog2Ratio a d) ≤ a) := by
  rcases Nat.eq_zero_or_pos a with rfl | ha
  · have hZero : floorLog2Ratio 0 d = 0 := by
      unfold floorLog2Ratio
      simp [Nat.log2_zero]
    rw [hZero]
    exact ⟨Nat.mul_pos hd (Nat.two_pow_pos 1), fun h => absurd h (by decide)⟩
  · have la1 : 2 ^ a.log2 ≤ a := Nat.log2_self_le (Nat.pos_iff_ne_zero.mp ha)
    have la2 : a < 2 ^ (a.log2 + 1) := Nat.lt_log2_self
    have ld1 : 2 ^ d.log2 ≤ d := Nat.log2_self_le (Nat.pos_iff_ne_zero.mp hd)
    have ld2 : d < 2 ^ (d.log2 + 1) := Nat.lt_log2_self
    unfold floorLog2Ratio
    simp only [Nat.pow_eq]
    generalize a.log2 = la at *
    generalize d.log2 = ld at *
    split
    · rename_i hGuard
      refine ⟨?_, fun _ => hGuard⟩
      by_cases hle : ld ≤ la
      · -- `d` has at least `2 ^ ld`, so the next power reaches past `a`
        have hPow : 2 ^ ld * 2 ^ (la - ld + 1) = 2 ^ (la + 1) := by
          rw [← Nat.pow_add]
          congr 1
          omega
        have hMul : 2 ^ ld * 2 ^ (la - ld + 1) ≤ d * 2 ^ (la - ld + 1) :=
          Nat.mul_le_mul_right _ ld1
        omega
      · -- `a` is shorter than `d`, so the guard `d ≤ a` cannot hold
        have hZero : la - ld = 0 := by omega
        rw [hZero, Nat.pow_zero, Nat.mul_one] at hGuard
        have hPow : 2 ^ (la + 1) ≤ 2 ^ ld := Nat.pow_le_pow_right (by decide) (by omega)
        omega
    · rename_i hGuard
      constructor
      · by_cases hZero : la - ld = 0
        · rw [hZero, Nat.pow_zero, Nat.mul_one] at hGuard
          rw [hZero]
          have hTwo : d ≤ d * 2 ^ (0 - 1 + 1) := Nat.le_mul_of_pos_right d (Nat.two_pow_pos _)
          omega
        · have hSucc : la - ld - 1 + 1 = la - ld := by omega
          rw [hSucc]
          omega
      · intro hOne
        -- `d` is below `2 ^ (ld + 1)`, so one power less lands below `2 ^ la ≤ a`
        have hPow : 2 ^ (ld + 1) * 2 ^ (la - ld - 1) = 2 ^ la := by
          rw [← Nat.pow_add]
          congr 1
          omega
        have hMul : d * 2 ^ (la - ld - 1) < 2 ^ (ld + 1) * 2 ^ (la - ld - 1) :=
          Nat.mul_lt_mul_of_pos_right ld2 (Nat.two_pow_pos _)
        omega

/-- `p` is the unit exponent of the binade of `a / d`: the ratio is below `2 ^ 53` units
`2 ^ p`, and at least `2 ^ 52` of them unless `p` is the smallest exponent. -/
def UlpSpec (a d p : Nat) : Prop :=
  a < d * Nat.pow 2 (p + 53) ∧ (p = 0 ∨ d * Nat.pow 2 (p + 52) ≤ a)

theorem ulpExp_spec {a d : Nat} (hd : 0 < d) : UlpSpec a d (ulpExp a d) := by
  obtain ⟨hAbove, hBelow⟩ := floorLog2Ratio_spec (a := a) hd
  unfold ulpExp UlpSpec
  generalize floorLog2Ratio a d = f at *
  constructor
  · have hPow : Nat.pow 2 (f + 1) ≤ Nat.pow 2 (f - 52 + 53) := by
      simp only [Nat.pow_eq]
      exact Nat.pow_le_pow_right (by decide) (by omega)
    exact Nat.lt_of_lt_of_le hAbove (Nat.mul_le_mul_left d hPow)
  · by_cases hp : f - 52 = 0
    · exact .inl hp
    · have hf : f - 52 + 52 = f := by omega
      rw [hf]
      exact .inr (hBelow (by omega))

/-- The quotient at the unit exponent is a significand: below `2 ^ 53`, and at least `2 ^ 52`
unless the unit is the smallest. -/
theorem quot_bounds {a d p : Nat} (hd : 0 < d) (hs : UlpSpec a d p) :
    a / (d * Nat.pow 2 p) < Nat.pow 2 53 ∧ (p = 0 ∨ Nat.pow 2 52 ≤ a / (d * Nat.pow 2 p)) := by
  unfold UlpSpec at hs
  simp only [Nat.pow_eq] at hs ⊢
  have hUnit : 0 < d * 2 ^ p := Nat.mul_pos hd (Nat.two_pow_pos _)
  have h53 : d * 2 ^ p * 2 ^ 53 = d * 2 ^ (p + 53) := by rw [Nat.mul_assoc, ← Nat.pow_add]
  have h52 : d * 2 ^ p * 2 ^ 52 = d * 2 ^ (p + 52) := by rw [Nat.mul_assoc, ← Nat.pow_add]
  constructor
  · rw [Nat.div_lt_iff_lt_mul hUnit, Nat.mul_comm, h53]
    exact hs.1
  · rcases hs.2 with hp | hp
    · exact .inl hp
    · exact .inr ((Nat.le_div_iff_mul_le hUnit).mpr (by rw [Nat.mul_comm, h52]; exact hp))

/-! ## The nearest multiple -/

/-- `rne a D` times `D` is within half of `D` from `a`. -/
theorem rne_near {a D : Nat} (hD : 0 < D) :
    2 * a ≤ 2 * (rne a D * D) + D ∧ 2 * (rne a D * D) ≤ 2 * a + D := by
  have hDivMod := Nat.div_add_mod a D
  have hMod := Nat.mod_lt a hD
  rcases rne_cases a D with ⟨hEq, hHalf⟩ | ⟨hEq, hHalf⟩
  · rw [hEq, Nat.mul_comm (a / D) D]
    omega
  · have hSucc : (a / D + 1) * D = D * (a / D) + D := by rw [Nat.succ_mul, Nat.mul_comm]
    rw [hEq, hSucc]
    omega

/-- A multiple of `D` nearer than half of `D` to `a` is the one `rne` picks. -/
theorem rne_eq_of_near {a D k : Nat} (hD : 0 < D) (hAbove : 2 * a < 2 * (k * D) + D)
    (hBelow : 2 * (k * D) < 2 * a + D) : rne a D = k := by
  obtain ⟨hNearAbove, hNearBelow⟩ := rne_near (a := a) hD
  rcases Nat.lt_trichotomy (rne a D) k with hLt | hEq | hGt
  · have hStep : rne a D * D + D ≤ k * D := by
      have := Nat.mul_le_mul_right D hLt
      rwa [Nat.succ_mul] at this
    omega
  · exact hEq
  · have hStep : k * D + D ≤ rne a D * D := by
      have := Nat.mul_le_mul_right D hGt
      rwa [Nat.succ_mul] at this
    omega

/-! ## Rounding a magnitude -/

/-- What `roundMag` returns is laid out faithfully, and is the nearest multiple of the unit of
the binade, a carry into the next binade included. -/
theorem roundMag_valid {a d m q : Nat} (hd : 0 < d) (h : roundMag a d = some (m, q)) :
    Valid m q ∧
      m * Nat.pow 2 q = rne a (d * Nat.pow 2 (ulpExp a d)) * Nat.pow 2 (ulpExp a d) := by
  have hBounds := quot_bounds hd (ulpExp_spec (a := a) hd)
  have hCases := rne_cases a (d * Nat.pow 2 (ulpExp a d))
  unfold roundMag at h
  dsimp only at h
  generalize ulpExp a d = p at *
  generalize rne a (d * Nat.pow 2 p) = r at *
  have h52 : Nat.pow 2 52 = 4503599627370496 := rfl
  have h53 : Nat.pow 2 53 = 9007199254740992 := rfl
  by_cases hCarry : r = Nat.pow 2 53
  · -- the significand carried into the next binade: `2 ^ 53` units are `2 ^ 52` of the next
    subst hCarry
    simp only [if_true] at h
    split at h
    · rename_i hq
      simp only [Option.some.injEq, Prod.mk.injEq] at h
      obtain ⟨rfl, rfl⟩ := h
      refine ⟨⟨by rw [h52, h53]; decide, .inl (Nat.le_refl _), hq⟩, ?_⟩
      simp only [Nat.pow_eq]
      rw [← Nat.pow_add, ← Nat.pow_add]
      congr 1
      omega
    · cases h
  · simp only [hCarry, if_false] at h
    split at h
    · rename_i hq
      simp only [Option.some.injEq, Prod.mk.injEq] at h
      obtain ⟨rfl, rfl⟩ := h
      refine ⟨⟨?_, ?_, hq⟩, rfl⟩
      · rw [h53] at hBounds hCarry ⊢
        omega
      · rcases hBounds.2 with hp | hp
        · exact .inr hp
        · exact .inl (by omega)
    · cases h

/-- Below the top binades rounding does not overflow. -/
theorem roundMag_isSome {a d : Nat} (hp : ulpExp a d ≤ 2044) :
    ∃ m q, roundMag a d = some (m, q) := by
  unfold roundMag
  dsimp only
  by_cases hCarry : rne a (d * Nat.pow 2 (ulpExp a d)) = Nat.pow 2 53
  · rw [if_pos hCarry, if_pos (by omega)]
    exact ⟨_, _, rfl⟩
  · rw [if_neg hCarry, if_pos (by omega)]
    exact ⟨_, _, rfl⟩

theorem round_eq_make {s : Bool} {a d m q : Nat} (h : roundMag a d = some (m, q)) :
    round s a d = make s m q := by
  unfold round
  rw [h]

end RoadAtlas.Binary64
