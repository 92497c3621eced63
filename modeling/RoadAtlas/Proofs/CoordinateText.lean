import Mathlib.Data.List.DropRight
import RoadAtlas.Osm.Coordinate
import RoadAtlas.Number.IntegerText
import RoadAtlas.Proofs.Rounding

/-!
# The written form of a coordinate

A coordinate of `v` ten-millionths of a degree is written by rounding `v / 10 ^ 7` to a double,
writing that double to seven places, and stripping trailing zeros and then a trailing point.

Two facts hold of it. For every double the result is a plain decimal numeral (`IsPlainNumeral`):
digits with an optional sign and point, never an exponent, never a trailing zero after the
point, never a bare point at the end, never empty and never `-0`. And for `|v| < 2 ^ 52`, a range
that holds every latitude and longitude, the result is the shortest numeral of the rational
`v / 10 ^ 7` itself (`IsShortestNumeral`): below `2 ^ 29` degrees a double is within `2 ^ -25`
of the ratio, less than half of `10 ^ -7`, so the seven-place rounding gives back exactly the
digits of `v` (`fixedUnits_ofRatio`).

Trailing characters are stripped with `List.rdropWhile`; the fraction that is left is described
by its value (`FractionDigits`), read with `IntegerText.digitsValue`.

## Main definitions

* `Coordinate.FractionDigits`: the digits of a fraction of `10 ^ 7`, trailing zeros left out.
* `Coordinate.IsPlainNumeral`, `Coordinate.IsShortestNumeral`.

## Main results

* `stripZeros_fixed`: the shape of every stripped seven-place text.
* `fixedUnits_ofRatio`: below `2 ^ 52` the seven-place rounding is exact.
* `text_shortest_numeral`: the written form is the shortest numeral of `v / 10 ^ 7` there, and a
  plain numeral wherever it exists.
-/

namespace RoadAtlas.Coordinate

open Binary64 IntegerText

/-! ## Values of digit texts -/

/-- The values of the characters of a digit text. -/
def digitValues (ds : List Char) : List Nat := ds.map fun c => c.toNat - 48

theorem foldl_digits (init : Nat) (ys : List Nat) :
    ys.foldl (fun acc d => 10 * acc + d) init =
      init * Nat.pow 10 ys.length + ys.foldl (fun acc d => 10 * acc + d) 0 := by
  rw [Nat.pow_eq]
  induction ys generalizing init with
  | nil => simp
  | cons y ys ih =>
    simp only [List.foldl_cons, List.length_cons]
    rw [ih (10 * init + y), ih (10 * 0 + y), Nat.pow_succ, Nat.mul_zero, Nat.zero_add,
      Nat.add_mul, Nat.mul_comm (10 ^ ys.length) 10, ← Nat.mul_assoc, Nat.mul_comm init 10,
      Nat.add_assoc]

theorem digitsValue_append (xs ys : List Nat) :
    digitsValue (xs ++ ys) = digitsValue xs * Nat.pow 10 ys.length + digitsValue ys := by
  unfold digitsValue
  rw [List.foldl_append, foldl_digits]

theorem digitsValue_replicate_zero (k : Nat) : digitsValue (List.replicate k 0) = 0 := by
  induction k with
  | zero => rfl
  | succ k ih =>
    rw [List.replicate_succ', digitsValue_append, ih]
    rfl

/-- Reading the decimal digits of a number gives the number back. -/
theorem digitsValue_toDigits (n : Nat) : digitsValue (digitValues (Nat.toDigits 10 n)) = n := by
  induction n using Nat.strong_induction_on with
  | _ n ih =>
    by_cases hSmall : n < 10
    · rw [Nat.toDigits_of_lt_base hSmall]
      simp [digitValues, digitsValue, Nat.toNat_digitChar_of_lt_ten hSmall]
    · -- the last digit splits off: `n = 10 * (n / 10) + n % 10`
      have hSplit := Nat.toDigits_append_toDigits (b := 10) (n := n / 10) (d := n % 10)
        (by decide) (by omega) (Nat.mod_lt _ (by decide))
      rw [Nat.div_add_mod] at hSplit
      rw [← hSplit, digitValues, List.map_append, digitsValue_append, ← digitValues, ← digitValues,
        ih (n / 10) (by omega), ih (n % 10) (by omega),
        Nat.toDigits_of_lt_base (Nat.mod_lt _ (by decide))]
      have hPow : Nat.pow 10 (digitValues [(n % 10).digitChar]).length = 10 := rfl
      rw [hPow]
      omega

theorem digitValues_append (ds es : List Char) :
    digitValues (ds ++ es) = digitValues ds ++ digitValues es :=
  List.map_append

theorem digitValues_replicate_zero (k : Nat) :
    digitValues (List.replicate k '0') = List.replicate k 0 := by
  simp [digitValues]

theorem toDigits_eq_zero {w : Nat} (h : Nat.toDigits 10 w = ['0']) : w = 0 := by
  have hValue := digitsValue_toDigits w
  rw [h] at hValue
  exact hValue.symm

/-! ## Stripping trailing characters -/

theorem dropTrailing_eq_rdropWhile (c : Char) (cs : List Char) :
    dropTrailing c cs = cs.rdropWhile fun x => decide (x = c) :=
  rfl

/-- Stripping `c` from a text whose tail is not all `c` strips the tail only. -/
theorem dropTrailing_append_of_ne_nil {c : Char} {l l' : List Char}
    (h : dropTrailing c l' ≠ []) : dropTrailing c (l ++ l') = l ++ dropTrailing c l' := by
  have hNe : (l'.reverse.dropWhile fun x => decide (x = c)).isEmpty = false := by
    simpa [dropTrailing] using h
  simp only [dropTrailing, List.reverse_append, List.dropWhile_append, hNe, Bool.false_eq_true,
    if_false]
  simp

/-- Stripping `c` from a text whose tail is all `c` strips the tail and goes on before it. -/
theorem dropTrailing_append_of_eq_nil {c : Char} {l l' : List Char}
    (h : dropTrailing c l' = []) : dropTrailing c (l ++ l') = dropTrailing c l := by
  have hNil : (l'.reverse.dropWhile fun x => decide (x = c)).isEmpty = true := by
    simpa [dropTrailing] using h
  simp only [dropTrailing, List.reverse_append, List.dropWhile_append, hNil, if_true]

theorem dropTrailing_of_getLast_ne {c : Char} {l : List Char} (hl : l ≠ [])
    (h : l.getLast hl ≠ c) : dropTrailing c l = l := by
  rw [dropTrailing_eq_rdropWhile, List.rdropWhile_eq_self_iff]
  intro _
  simpa using h

theorem getLast_dropTrailing_ne {c : Char} {l : List Char} (hl : dropTrailing c l ≠ []) :
    (dropTrailing c l).getLast hl ≠ c := by
  have hLast := List.rdropWhile_last_not (fun x => decide (x = c)) l hl
  simp only [decide_eq_true_eq] at hLast
  exact hLast

theorem dropTrailing_prefix (c : Char) (l : List Char) : dropTrailing c l <+: l :=
  List.rdropWhile_prefix _ l

/-- What stripping removed is a run of `c`. -/
theorem dropTrailing_append_replicate (c : Char) (l : List Char) :
    dropTrailing c l ++ List.replicate (l.length - (dropTrailing c l).length) c = l := by
  have hSplit := List.rdropWhile_append_rtakeWhile (p := fun x => decide (x = c)) (l := l)
  have hRun : l.rtakeWhile (fun x => decide (x = c)) =
      List.replicate (l.length - (dropTrailing c l).length) c := by
    rw [List.eq_replicate_iff]
    constructor
    · have hLength := congrArg List.length hSplit
      rw [List.length_append] at hLength
      rw [dropTrailing_eq_rdropWhile]
      omega
    · intro x hx
      simpa using List.mem_rtakeWhile_imp hx
  rw [← hRun, dropTrailing_eq_rdropWhile]
  exact hSplit

/-! ## Fraction digits -/

/-- The decimal digits of `n`, with zeros in front to `width` places. -/
theorem toList_padDigits (n width : Nat) :
    (padDigits n width).toList =
      List.replicate (width - (Nat.toDigits 10 n).length) '0' ++ Nat.toDigits 10 n := by
  simp [padDigits]

theorem toList_padDigits_one (n : Nat) : (padDigits n 1).toList = Nat.toDigits 10 n := by
  have hLength : 1 - (Nat.toDigits 10 n).length = 0 := by
    have := Nat.length_toDigits_pos (b := 10) (n := n)
    omega
  rw [toList_padDigits, hLength]
  rfl

theorem isDigit_of_mem_padDigits {c : Char} {n width : Nat} (h : c ∈ (padDigits n width).toList) :
    c.isDigit = true := by
  rw [toList_padDigits] at h
  rcases List.mem_append.mp h with h | h
  · rw [(List.mem_replicate.mp h).2]
    decide
  · exact Nat.isDigit_of_mem_toDigits (by decide) (by decide) h

/-- The digits of a fraction `r / 10 ^ 7` written to seven places with trailing zeros left out:
at most seven digits, the last not `0`, that spell `r` once padded with zeros to seven places. -/
structure FractionDigits (r : Nat) (ds : List Char) : Prop where
  length_le : ds.length ≤ places
  isDigit : ∀ c ∈ ds, c.isDigit = true
  getLast?_ne : ds.getLast? ≠ some '0'
  value_eq : digitsValue (digitValues ds) * Nat.pow 10 (places - ds.length) = r

/-- The fraction digits are empty exactly for a whole number: a last digit `0` is left out, so
a fraction of value zero has no digits. -/
theorem FractionDigits.eq_nil_iff {r : Nat} {ds : List Char} (h : FractionDigits r ds) :
    ds = [] ↔ r = 0 := by
  constructor
  · intro hNil
    rw [← h.value_eq, hNil]
    rfl
  · intro hZero
    by_contra hNe
    have hSplit := List.dropLast_append_getLast hNe
    have hPos : 0 < Nat.pow 10 (places - ds.length) := by
      rw [Nat.pow_eq]
      exact Nat.pow_pos (by decide)
    have hValue : digitsValue (digitValues ds) = 0 := by
      have := h.value_eq
      rw [hZero] at this
      exact (Nat.mul_eq_zero.mp this).resolve_right (Nat.ne_of_gt hPos)
    -- the value ends in the value of the last digit, which must then be `0`
    rw [← hSplit, digitValues, List.map_append, digitsValue_append] at hValue
    have hLastValue : (ds.getLast hNe).toNat - 48 = 0 := by
      simp only [List.map_cons, List.map_nil] at hValue
      have : digitsValue [(ds.getLast hNe).toNat - 48] = (ds.getLast hNe).toNat - 48 := by
        simp [digitsValue]
      omega
    have hDigit := h.isDigit _ (List.getLast_mem hNe)
    simp only [Char.isDigit, Bool.and_eq_true, decide_eq_true_eq] at hDigit
    have hLow : 48 ≤ (ds.getLast hNe).toNat := hDigit.1
    have hZeroChar : ds.getLast hNe = '0' := Char.toNat_inj.mp (by simp; omega)
    exact h.getLast?_ne (by rw [List.getLast?_eq_some_getLast hNe, hZeroChar])

/-- Seven-place digits of `r` stripped of trailing zeros spell `r`. -/
theorem fractionDigits_dropTrailing {r : Nat} (hr : r < scale) :
    FractionDigits r (dropTrailing '0' (padDigits r places).toList) := by
  have hDigits : (Nat.toDigits 10 r).length ≤ places :=
    (Nat.length_toDigits_le_iff (by decide) (by decide)).mpr hr
  have hPadded : (padDigits r places).toList.length = places := by
    rw [toList_padDigits, List.length_append, List.length_replicate]
    omega
  have hPrefix := dropTrailing_prefix '0' (padDigits r places).toList
  have hLength : (dropTrailing '0' (padDigits r places).toList).length ≤ places := by
    have := hPrefix.length_le
    omega
  refine ⟨hLength, fun c hc => isDigit_of_mem_padDigits (hPrefix.subset hc), ?_, ?_⟩
  · intro hLast
    have hNe : dropTrailing '0' (padDigits r places).toList ≠ [] := by
      intro hNil
      rw [hNil] at hLast
      cases hLast
    rw [List.getLast?_eq_some_getLast hNe, Option.some.injEq] at hLast
    exact getLast_dropTrailing_ne hNe hLast
  · -- the padded text is the stripped digits followed by zeros, and its value is `r`
    have hSplit := dropTrailing_append_replicate '0' (padDigits r places).toList
    rw [hPadded] at hSplit
    have hValue : digitsValue (digitValues (padDigits r places).toList) = r := by
      rw [toList_padDigits, digitValues_append, digitValues_replicate_zero, digitsValue_append,
        digitsValue_replicate_zero, Nat.zero_mul, Nat.zero_add, digitsValue_toDigits]
    rw [← hSplit, digitValues_append, digitValues_replicate_zero, digitsValue_append,
      digitsValue_replicate_zero, Nat.add_zero, List.length_replicate] at hValue
    exact hValue

/-! ## The stripped seven-place text -/

theorem toList_fixed (x : Binary64) :
    (x.fixed places).toList = (if x.sign then ['-'] else []) ++
      Nat.toDigits 10 (x.fixedUnits places / scale) ++
        '.' :: (padDigits (x.fixedUnits places % scale) places).toList := by
  have hScale : Nat.pow 10 places = scale := rfl
  have hPlaces : places ≠ 0 := by decide
  simp only [fixed, hScale, if_neg hPlaces, String.toList_append, toList_padDigits_one]
  split <;> simp

/-- A sign, the digits of a whole part, and a fraction if there is one, is `-0` exactly for a
negative sign on zero. -/
theorem numeral_eq_negZero_iff {neg : Bool} {w r : Nat} {ds : List Char}
    (hFrac : FractionDigits r ds) :
    (if neg then ['-'] else []) ++ Nat.toDigits 10 w ++ (if ds = [] then [] else '.' :: ds) =
        ['-', '0'] ↔ neg = true ∧ w = 0 ∧ r = 0 := by
  constructor
  · intro h
    have hWhole := Nat.length_toDigits_pos (b := 10) (n := w)
    cases neg with
    | false =>
      -- a digit cannot stand where the sign is
      have hHead : '-' ∈ Nat.toDigits 10 w := by
        cases hw : Nat.toDigits 10 w with
        | nil => rw [hw] at hWhole; cases hWhole
        | cons d rest =>
          rw [hw] at h
          simp only [Bool.false_eq_true, if_false, List.nil_append, List.cons_append,
            List.cons.injEq] at h
          rw [← h.1]
          exact List.mem_cons_self
      exact absurd (Nat.isDigit_of_mem_toDigits (by decide) (by decide) hHead) (by decide)
    | true =>
      simp only [if_true, List.cons_append, List.nil_append, List.cons.injEq, true_and] at h
      by_cases hds : ds = []
      · rw [if_pos hds, List.append_nil] at h
        exact ⟨rfl, toDigits_eq_zero h, hFrac.eq_nil_iff.mp hds⟩
      · rw [if_neg hds] at h
        have hLength := congrArg List.length h
        simp only [List.length_append, List.length_cons, List.length_nil] at hLength
        omega
  · rintro ⟨rfl, rfl, rfl⟩
    simp [hFrac.eq_nil_iff.mpr rfl]

/-- The last character of a numeral is the last fraction digit, or without fraction the last
digit of the whole part. -/
theorem getLast?_numeral (sign ds : List Char) {whole : List Char} (hWhole : whole ≠ []) :
    (sign ++ whole ++ (if ds = [] then [] else '.' :: ds)).getLast? =
      if ds = [] then whole.getLast? else ds.getLast? := by
  by_cases hds : ds = []
  · simp [hds, List.getLast?_append, List.getLast?_eq_some_getLast hWhole]
  · rw [if_neg hds, if_neg hds, List.getLast?_append, List.getLast?_cons,
      List.getLast?_eq_some_getLast hds]
    rfl

/-- Stripping the zeros and then the point that end `whole.padded`, where the whole part ends
in a digit, keeps the whole part and the fraction without its trailing zeros, and the point only
when a digit of the fraction is kept. -/
theorem strip_numeral (sign : List Char) {whole padded : List Char} (hWholeNe : whole ≠ [])
    (hWholeDigits : ∀ c ∈ whole, c.isDigit = true)
    (hFracDigits : ∀ c ∈ dropTrailing '0' padded, c.isDigit = true) :
    dropTrailing '.' (dropTrailing '0' (sign ++ whole ++ '.' :: padded)) =
      sign ++ whole ++
        (if dropTrailing '0' padded = [] then [] else '.' :: dropTrailing '0' padded) := by
  -- a digit ends the whole part, so stripping a point there changes nothing
  have hKeepWhole : dropTrailing '.' (sign ++ whole) = sign ++ whole := by
    have hNe : sign ++ whole ≠ [] := by simp [hWholeNe]
    apply dropTrailing_of_getLast_ne hNe
    rw [List.getLast_append_of_ne_nil hNe hWholeNe]
    intro hPoint
    have hDigit := hWholeDigits _ (List.getLast_mem hWholeNe)
    rw [hPoint] at hDigit
    exact absurd hDigit (by decide)
  have hSplit : sign ++ whole ++ '.' :: padded = (sign ++ whole ++ ['.']) ++ padded := by simp
  rw [hSplit]
  by_cases hEmpty : dropTrailing '0' padded = []
  · -- the fraction is all zeros: they go, then the point
    have hKeepPoint : dropTrailing '0' (sign ++ whole ++ ['.']) = sign ++ whole ++ ['.'] :=
      dropTrailing_of_getLast_ne (by simp) (by simp)
    have hDropPoint : dropTrailing '.' (sign ++ whole ++ ['.']) = dropTrailing '.' (sign ++ whole) :=
      dropTrailing_append_of_eq_nil (by rfl)
    rw [if_pos hEmpty, List.append_nil, dropTrailing_append_of_eq_nil hEmpty, hKeepPoint,
      hDropPoint, hKeepWhole]
  · -- a digit other than `0` ends the fraction, so the point stays
    rw [if_neg hEmpty, dropTrailing_append_of_ne_nil hEmpty]
    have hNe : sign ++ whole ++ ['.'] ++ dropTrailing '0' padded ≠ [] := by simp
    rw [dropTrailing_of_getLast_ne hNe ?_]
    · simp
    rw [List.getLast_append_of_ne_nil hNe hEmpty]
    intro hPoint
    have hDigit := hFracDigits _ (List.getLast_mem hEmpty)
    rw [hPoint] at hDigit
    exact absurd hDigit (by decide)

/-- **The stripped seven-place text** of any double: its sign, the digits of its whole part, and
a point and its fraction digits when the fraction is not zero; `0` for a negative zero. -/
theorem stripZeros_fixed (x : Binary64) :
    ∃ ds, FractionDigits (x.fixedUnits places % scale) ds ∧
      (stripZeros (x.fixed places)).toList =
        if x.sign = true ∧ x.fixedUnits places = 0 then ['0']
        else (if x.sign then ['-'] else []) ++ Nat.toDigits 10 (x.fixedUnits places / scale) ++
          (if ds = [] then [] else '.' :: ds) := by
  have hFrac := fractionDigits_dropTrailing (Nat.mod_lt (x.fixedUnits places) (by decide))
  refine ⟨_, hFrac, ?_⟩
  generalize hSign : (if x.sign then ['-'] else []) = sign
  generalize hWhole : Nat.toDigits 10 (x.fixedUnits places / scale) = whole
  generalize hPadded : (padDigits (x.fixedUnits places % scale) places).toList = padded at hFrac
  generalize hds : dropTrailing '0' padded = ds at hFrac
  have hWholeNe : whole ≠ [] := by
    rw [← hWhole]
    exact List.ne_nil_of_length_pos Nat.length_toDigits_pos
  have hWholeDigits : ∀ c ∈ whole, c.isDigit = true := by
    rw [← hWhole]
    exact fun c hc => Nat.isDigit_of_mem_toDigits (by decide) (by decide) hc
  have hStrip := strip_numeral sign hWholeNe hWholeDigits (hds ▸ hFrac.isDigit)
  rw [hds] at hStrip
  -- `-0` is the only text the last step replaces
  have hNegZero : sign ++ whole ++ (if ds = [] then [] else '.' :: ds) = ['-', '0'] ↔
      x.sign = true ∧ x.fixedUnits places = 0 := by
    rw [← hSign, ← hWhole, numeral_eq_negZero_iff hFrac]
    have hScale : scale = 10000000 := rfl
    rw [hScale]
    constructor
    · rintro ⟨hNeg, hDiv, hMod⟩
      exact ⟨hNeg, by omega⟩
    · rintro ⟨hNeg, hZero⟩
      exact ⟨hNeg, by omega, by omega⟩
  have hNotNil : sign ++ whole ++ (if ds = [] then [] else '.' :: ds) ≠ [] := by simp [hWholeNe]
  unfold stripZeros
  rw [toList_fixed, hSign, hWhole, hPadded]
  dsimp only
  rw [hStrip]
  by_cases hZero : x.sign = true ∧ x.fixedUnits places = 0
  · rw [if_pos hZero, if_pos (by simp [hNegZero.mpr hZero])]
    rfl
  · have hKept : (decide (sign ++ whole ++ (if ds = [] then [] else '.' :: ds) = []) ||
        decide (sign ++ whole ++ (if ds = [] then [] else '.' :: ds) = ['-', '0'])) = false := by
      simp only [Bool.or_eq_false_iff, decide_eq_false_iff_not]
      exact ⟨hNotNil, mt hNegZero.mp hZero⟩
    simp only [hKept, Bool.false_eq_true, if_false, if_neg hZero, String.toList_ofList]

/-- A plain decimal numeral: digits with an optional sign and point, so no exponent; no `0`
ending a fraction, no point at the end; not empty and not `-0`. -/
structure IsPlainNumeral (t : String) : Prop where
  chars : ∀ c ∈ t.toList, c.isDigit = true ∨ c = '-' ∨ c = '.'
  no_trailing_zero : '.' ∈ t.toList → t.toList.getLast? ≠ some '0'
  no_trailing_point : t.toList.getLast? ≠ some '.'
  ne_nil : t.toList ≠ []
  ne_neg_zero : t.toList ≠ ['-', '0']

/-- Every stripped seven-place text is a plain numeral. -/
theorem isPlainNumeral_stripZeros_fixed (x : Binary64) :
    IsPlainNumeral (stripZeros (x.fixed places)) := by
  obtain ⟨ds, hFrac, hText⟩ := stripZeros_fixed x
  by_cases hZero : x.sign = true ∧ x.fixedUnits places = 0
  · rw [if_pos hZero] at hText
    refine ⟨?_, ?_, ?_, ?_, ?_⟩ <;> rw [hText]
    · intro c hc
      rw [List.mem_singleton.mp hc]
      exact .inl rfl
    · intro hPoint
      cases List.mem_singleton.mp hPoint
    all_goals decide
  · rw [if_neg hZero] at hText
    have hWholeNe := List.ne_nil_of_length_pos
      (Nat.length_toDigits_pos (b := 10) (n := x.fixedUnits places / scale))
    have hWholeDigit : ∀ c ∈ Nat.toDigits 10 (x.fixedUnits places / scale), c.isDigit = true :=
      fun c hc => Nat.isDigit_of_mem_toDigits (by decide) (by decide) hc
    have hLast := getLast?_numeral (if x.sign then ['-'] else []) ds hWholeNe
    rw [← hText] at hLast
    -- the last character is a digit, of the fraction or else of the whole part
    have hLastDigit : ∀ c, (stripZeros (x.fixed places)).toList.getLast? = some c →
        c.isDigit = true := by
      intro c hc
      rw [hLast] at hc
      split at hc
      · exact hWholeDigit c (List.mem_of_getLast? hc)
      · exact hFrac.isDigit c (List.mem_of_getLast? hc)
    refine ⟨?_, ?_, ?_, ?_, ?_⟩
    · intro c hc
      rw [hText] at hc
      simp only [List.mem_append] at hc
      rcases hc with (hc | hc) | hc
      · split at hc
        · exact .inr (.inl (List.mem_singleton.mp hc))
        · cases hc
      · exact .inl (hWholeDigit c hc)
      · split at hc
        · cases hc
        · rcases List.mem_cons.mp hc with hc | hc
          · exact .inr (.inr hc)
          · exact .inl (hFrac.isDigit c hc)
    · intro hPoint
      rw [hLast]
      split
      · -- without a fraction there is no point
        rename_i hEmpty
        rw [hText, if_pos hEmpty, List.append_nil, List.mem_append] at hPoint
        rcases hPoint with hc | hc
        · split at hc
          · cases List.mem_singleton.mp hc
          · cases hc
        · exact absurd (hWholeDigit '.' hc) (by decide)
      · exact hFrac.getLast?_ne
    · intro hPoint
      exact absurd (hLastDigit '.' hPoint) (by decide)
    · rw [hText]
      simp [hWholeNe]
    · intro hNeg
      rw [hText, numeral_eq_negZero_iff hFrac] at hNeg
      obtain ⟨hSign, hDiv, hMod⟩ := hNeg
      have hScale : scale = 10000000 := rfl
      rw [hScale] at hDiv hMod
      exact hZero ⟨hSign, by omega⟩

/-! ## Coordinates below `2 ^ 52` -/

/-- Below `2 ^ 52` ten-millionths of a degree the double nearest `v / 10 ^ 7` rounds back to `v`
at seven places. The ratio is below `2 ^ 29`, so the unit of its binade is at most `2 ^ -24`
and the double is within `2 ^ -25` of the ratio, less than half of `10 ^ -7`. -/
theorem fixedUnits_ofRatio {v : Int} (hv : v.natAbs < Nat.pow 2 52) :
    (ofRatio v scale).isInf = false ∧ (ofRatio v scale).sign = decide (v < 0) ∧
      (ofRatio v scale).fixedUnits places = v.natAbs := by
  have hd : 0 < scale := by decide
  obtain ⟨e, he, hUnit⟩ := unitScale_eq_two_pow
  have hDouble : ofRatio v scale = round (decide (v < 0)) (v.natAbs * Nat.pow 2 e) scale := by
    unfold ofRatio
    rw [hUnit]
  have hFixed : ∀ x : Binary64,
      x.fixedUnits places = rne (Nat.pow 10 places * x.mag) (Nat.pow 2 e) := by
    intro x
    unfold fixedUnits
    rw [hUnit]
  rw [hDouble, hFixed]
  have hUnitPos : 0 < Nat.pow 2 e := Nat.two_pow_pos e
  have hRatio : v.natAbs * Nat.pow 2 e < Nat.pow 2 52 * Nat.pow 2 e :=
    Nat.mul_lt_mul_of_pos_right hv hUnitPos
  have hSpec := ulpExp_spec (a := v.natAbs * Nat.pow 2 e) hd
  -- the ratio is below `2 ^ 52 * 2 ^ 1074` units and `10 ^ 7` is above `2 ^ 23`
  have hExp : ulpExp (v.natAbs * Nat.pow 2 e) scale ≤ 1050 := by
    rcases hSpec.2 with hZero | hBinade
    · omega
    · generalize ulpExp (v.natAbs * Nat.pow 2 e) scale = p at hBinade ⊢
      have hChain : Nat.pow 2 23 * Nat.pow 2 (p + 52) < Nat.pow 2 52 * Nat.pow 2 e :=
        calc Nat.pow 2 23 * Nat.pow 2 (p + 52) ≤ scale * Nat.pow 2 (p + 52) :=
              Nat.mul_le_mul_right _ (by decide)
          _ ≤ v.natAbs * Nat.pow 2 e := hBinade
          _ < Nat.pow 2 52 * Nat.pow 2 e := hRatio
      rw [Nat.pow_eq, Nat.pow_eq, Nat.pow_eq, Nat.pow_eq, ← Nat.pow_add, ← Nat.pow_add] at hChain
      have hLt := (Nat.pow_lt_pow_iff_right (by decide)).mp hChain
      omega
  obtain ⟨m, q, hRound⟩ := roundMag_isSome (a := v.natAbs * Nat.pow 2 e) (d := scale) (by omega)
  obtain ⟨hValid, hMag⟩ := roundMag_valid hd hRound
  rw [round_eq_make hRound]
  refine ⟨isInf_make hValid, make_sign _ hValid.lt hValid.le, ?_⟩
  rw [mag_make hValid, hMag]
  generalize ulpExp (v.natAbs * Nat.pow 2 e) scale = p at hExp ⊢
  -- one unit of the binade is less than one ten-millionth of a degree
  have hStepPos : 0 < scale * Nat.pow 2 p := Nat.mul_pos hd (Nat.two_pow_pos p)
  have hStep : scale * Nat.pow 2 p < Nat.pow 2 e :=
    calc scale * Nat.pow 2 p < Nat.pow 2 24 * Nat.pow 2 p :=
          Nat.mul_lt_mul_of_pos_right (by decide) (Nat.two_pow_pos p)
      _ = Nat.pow 2 (24 + p) := (Nat.pow_add 2 24 p).symm
      _ ≤ Nat.pow 2 e := Nat.pow_le_pow_right (by decide) (by omega)
  obtain ⟨hNearAbove, hNearBelow⟩ := rne_near (a := v.natAbs * Nat.pow 2 e) hStepPos
  have hUnits : Nat.pow 10 places * (rne (v.natAbs * Nat.pow 2 e) (scale * Nat.pow 2 p) * Nat.pow 2 p) =
      rne (v.natAbs * Nat.pow 2 e) (scale * Nat.pow 2 p) * (scale * Nat.pow 2 p) := by
    have hScale : Nat.pow 10 places = scale := rfl
    rw [hScale, Nat.mul_left_comm]
  rw [hUnits]
  apply rne_eq_of_near hUnitPos <;> omega

/-- `t` is the shortest decimal numeral of `v / 10 ^ 7`: a minus sign when `v` is negative, the
digits of the whole part without leading zeros, and, unless the value is whole, a point and the
fraction digits (`FractionDigits`: one to seven, the last not `0`). Zero is `0`. -/
def IsShortestNumeral (v : Int) (t : String) : Prop :=
  ∃ ds, FractionDigits (v.natAbs % scale) ds ∧
    t.toList = (if v < 0 then ['-'] else []) ++ Nat.toDigits 10 (v.natAbs / scale) ++
      (if ds = [] then [] else '.' :: ds)

theorem text_eq_ok_of_toDegrees {v : Int} {x : Binary64} (h : toDegrees v = .ok x) :
    text v = .ok (stripZeros (x.fixed places)) := by
  unfold text
  rw [h]
  rfl

theorem text_isShortestNumeral {v : Int} (hv : v.natAbs < Nat.pow 2 52) :
    ∃ t, text v = .ok t ∧ IsShortestNumeral v t := by
  obtain ⟨hInf, hSign, hUnits⟩ := fixedUnits_ofRatio hv
  have hDegrees : toDegrees v = .ok (ofRatio v scale) := by
    unfold toDegrees
    simp [hInf]
  obtain ⟨ds, hFrac, hText⟩ := stripZeros_fixed (ofRatio v scale)
  rw [hUnits] at hFrac hText
  refine ⟨_, text_eq_ok_of_toDegrees hDegrees, ds, hFrac, ?_⟩
  -- a negative `v` is not zero, so no `-0` is replaced
  have hNotNegZero : ¬((ofRatio v scale).sign = true ∧ v.natAbs = 0) := by
    rintro ⟨hNeg, hZero⟩
    rw [hSign, decide_eq_true_eq] at hNeg
    omega
  rw [hText, if_neg hNotNegZero, hSign]
  simp only [decide_eq_true_eq]

/-- **The written form of a coordinate.** For `|v| < 2 ^ 52` the double nearest `v / 10 ^ 7`
rounds back to exactly `v` ten-millionths at seven places, and the written form is the shortest
decimal numeral of `v / 10 ^ 7`. Wherever the value in degrees exists, the written form is a
plain numeral: no exponent, no trailing zero after a point, no trailing point, not empty and not
`-0`. -/
theorem text_shortest_numeral :
    (∀ v : Int, v.natAbs < Nat.pow 2 52 →
      (ofRatio v scale).fixedUnits places = v.natAbs ∧
        ∃ t, text v = .ok t ∧ IsShortestNumeral v t) ∧
    (∀ (v : Int) (x : Binary64), toDegrees v = .ok x →
      ∃ t, text v = .ok t ∧ IsPlainNumeral t) := by
  refine ⟨fun v hv => ⟨(fixedUnits_ofRatio hv).2.2, text_isShortestNumeral hv⟩, ?_⟩
  intro v x hDegrees
  exact ⟨_, text_eq_ok_of_toDegrees hDegrees, isPlainNumeral_stripZeros_fixed x⟩

end RoadAtlas.Coordinate
