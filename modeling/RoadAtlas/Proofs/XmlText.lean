import RoadAtlas.Osm.Document
import RoadAtlas.Proofs.Gather

/-!
# Text that a document can hold

A string of this library encodes a sequence of code points (`Text.symbols`), where an unpaired
surrogate stands for itself. A document can hold a string exactly when every one of its code
points is an XML character (`Xml.IsText`): no unpaired surrogate, no C0 control other than tab,
line feed and carriage return, and neither `U+FFFE` nor `U+FFFF`. The writer checks this in two
steps, the UTF-8 form first and the characters second (`Xml.checkValue`); `checkValue_eq_ok_iff`
says that the two steps together check exactly `Xml.IsText`, and `checkValue_eq_error` that a
string without unpaired surrogates fails the check only as an incompatible string.

The texts that the writer computes itself (numbers, dates, coordinates) are printable ASCII
(`Xml.IsPlain`), so they always pass.

## Main definitions

* `Xml.IsText`: text of XML characters.
* `Xml.IsPlain`: printable ASCII.

## Main results

* `checkValue_eq_ok_iff`, `checkValue_eq_error`: what the writer's check accepts and how it fails.
* `isPlain_toString`, `isPlain_of_mapText_eq_ok`, `isPlain_of_text_eq_ok`: the computed texts
  are printable ASCII.
-/

namespace RoadAtlas

namespace Text

/-! ## Decoding -/

theorem decode_marker_marker (more : List Char) :
    decode (marker :: marker :: more) = .char marker :: decode more := by
  simp [decode]

theorem decode_marker_surrogate {d : Char} {k : Fin 0x800} (more : List Char) (hd : d ≠ marker)
    (hk : surrogateOf? d = some k) : decode (marker :: d :: more) = .surrogate k :: decode more := by
  simp [decode, hd, hk]

theorem decode_marker_other {d : Char} (more : List Char) (hd : d ≠ marker)
    (hk : surrogateOf? d = none) :
    decode (marker :: d :: more) = .char marker :: decode (d :: more) := by
  simp [decode, hd, hk]

theorem decode_marker_nil : decode [marker] = [.char marker] := by
  simp [decode]

theorem decode_other {c : Char} (rest : List Char) (hc : c ≠ marker) :
    decode (c :: rest) = .char c :: decode rest := by
  rw [decode.eq_def]
  simp only [if_neg hc]

/-- A decoded character stands in the text. -/
theorem mem_of_char_mem_decode {c : Char} :
    ∀ {cs : List Char}, Symbol.char c ∈ decode cs → c ∈ cs := by
  intro cs
  induction cs using decode.induct with
  | case1 => simp [decode]
  | case2 more ih =>
      intro h
      rw [decode_marker_marker, List.mem_cons, Symbol.char.injEq] at h
      rcases h with rfl | h
      · exact List.mem_cons_self
      · exact List.mem_cons_of_mem _ (List.mem_cons_of_mem _ (ih h))
  | case3 d more hd k hk ih =>
      intro h
      rw [decode_marker_surrogate more hd hk, List.mem_cons] at h
      rcases h with h | h
      · cases h
      · exact List.mem_cons_of_mem _ (List.mem_cons_of_mem _ (ih h))
  | case4 d more hd hk ih =>
      intro h
      rw [decode_marker_other more hd hk, List.mem_cons, Symbol.char.injEq] at h
      rcases h with rfl | h
      · exact List.mem_cons_self
      · exact List.mem_cons_of_mem _ (ih h)
  | case5 =>
      intro h
      rw [decode_marker_nil, List.mem_singleton, Symbol.char.injEq] at h
      rw [h]
      exact List.mem_cons_self
  | case6 c' rest hc ih =>
      intro h
      rw [decode_other rest hc, List.mem_cons, Symbol.char.injEq] at h
      rcases h with rfl | h
      · exact List.mem_cons_self
      · exact List.mem_cons_of_mem _ (ih h)

/-- In text without unpaired surrogates, every character is decoded as itself: a marker doubled
or standing alone is one character, and any other character stands for itself. -/
theorem char_mem_decode {c : Char} :
    ∀ {cs : List Char}, (∀ x ∈ decode cs, x.isSurrogate = false) → c ∈ cs →
      Symbol.char c ∈ decode cs := by
  intro cs
  induction cs using decode.induct with
  | case1 => simp
  | case2 more ih =>
      intro hNo hc
      rw [decode_marker_marker] at hNo ⊢
      have hMore := ih fun x hx => hNo x (List.mem_cons_of_mem _ hx)
      rcases List.mem_cons.mp hc with rfl | hc
      · exact List.mem_cons_self
      rcases List.mem_cons.mp hc with rfl | hc
      · exact List.mem_cons_self
      exact List.mem_cons_of_mem _ (hMore hc)
  | case3 d more hd k hk ih =>
      -- a surrogate is decoded here, against the hypothesis
      intro hNo _
      rw [decode_marker_surrogate more hd hk] at hNo
      simp [Symbol.isSurrogate] at hNo
  | case4 d more hd hk ih =>
      intro hNo hc
      rw [decode_marker_other more hd hk] at hNo ⊢
      have hRest := ih fun x hx => hNo x (List.mem_cons_of_mem _ hx)
      rcases List.mem_cons.mp hc with rfl | hc
      · exact List.mem_cons_self
      exact List.mem_cons_of_mem _ (hRest hc)
  | case5 =>
      intro _ hc
      rw [List.mem_singleton.mp hc, decode_marker_nil]
      exact List.mem_cons_self
  | case6 c' rest hc' ih =>
      intro hNo hc
      rw [decode_other rest hc'] at hNo ⊢
      have hRest := ih fun x hx => hNo x (List.mem_cons_of_mem _ hx)
      rcases List.mem_cons.mp hc with rfl | hc
      · exact List.mem_cons_self
      exact List.mem_cons_of_mem _ (hRest hc)

/-- Text without the marker decodes to its own characters. -/
theorem decode_of_forall_ne_marker : ∀ {cs : List Char}, (∀ c ∈ cs, c ≠ marker) →
    decode cs = cs.map Symbol.char
  | [], _ => rfl
  | c :: rest, h => by
      have hc := h c List.mem_cons_self
      rw [decode_other rest hc,
        decode_of_forall_ne_marker fun d hd => h d (List.mem_cons_of_mem c hd), List.map_cons]

theorem runFrom_eq_none_iff : ∀ (i : Nat) (l : List Symbol),
    runFrom i l = none ↔ ∀ x ∈ l, x.isSurrogate = false
  | _, [] => by simp [runFrom]
  | i, .char _ :: rest => by
      rw [runFrom, runFrom_eq_none_iff (i + 1) rest]
      simp [Symbol.isSurrogate]
  | _, .surrogate _ :: _ => by simp [runFrom, Symbol.isSurrogate]

/-- Text has a UTF-8 form exactly when it holds no unpaired surrogate. -/
theorem checkUtf8_eq_ok_iff (s : String) :
    checkUtf8 s = .ok () ↔ ∀ x ∈ symbols s, x.isSurrogate = false := by
  rw [← runFrom_eq_none_iff 0, checkUtf8, ← surrogateRun?]
  cases surrogateRun? s <;> simp

theorem checkUtf8_eq_ok_iff_hasSurrogate (s : String) :
    checkUtf8 s = .ok () ↔ hasSurrogate s = false := by
  rw [checkUtf8_eq_ok_iff, hasSurrogate]
  simp

end Text

namespace Xml

open RoadAtlas.Gather

/-! ## The writer's check -/

/-- Text whose code points are all XML characters. -/
def IsText (s : String) : Prop := ∀ x ∈ Text.symbols s, ∃ c, x = .char c ∧ isXmlChar c = true

/-- The writer's check in its two steps. -/
theorem checkValue_eq_ok_iff_utf8 (s : String) :
    checkValue s = .ok () ↔ Text.checkUtf8 s = .ok () ∧ Compatible s := by
  unfold checkValue
  cases Text.checkUtf8 s with
  | error e => simp [bind, Except.bind]
  | ok u =>
      cases u
      -- the condition is settled by rewriting: unfolding the bind around it would make the
      -- kernel unfold the decision procedure of `Compatible`
      by_cases hc : Compatible s
      · rw [if_pos hc]
        exact ⟨fun _ => ⟨rfl, hc⟩, fun _ => rfl⟩
      · rw [if_neg hc]
        exact ⟨fun h => (by cases h), fun h => absurd h.2 hc⟩

/-- **The writer's check accepts exactly text of XML characters**: the UTF-8 step refuses the
unpaired surrogates, and the character step the other code points that are no XML
characters. -/
theorem checkValue_eq_ok_iff (s : String) : checkValue s = .ok () ↔ IsText s := by
  rw [checkValue_eq_ok_iff_utf8, Text.checkUtf8_eq_ok_iff, Compatible]
  constructor
  · rintro ⟨hNo, hChars⟩ x hx
    cases x with
    | char c => exact ⟨c, rfl, hChars c (Text.mem_of_char_mem_decode hx)⟩
    | surrogate k => simpa [Text.Symbol.isSurrogate] using hNo _ hx
  · intro hText
    have hNo : ∀ x ∈ Text.symbols s, x.isSurrogate = false := fun x hx => by
      obtain ⟨c, rfl, -⟩ := hText x hx
      rfl
    refine ⟨hNo, fun c hc => ?_⟩
    obtain ⟨c', hEq, hXml⟩ := hText _ (Text.char_mem_decode hNo hc)
    rw [Text.Symbol.char.inj hEq]
    exact hXml

/-- A string without unpaired surrogates fails the check only as an incompatible string. -/
theorem checkValue_eq_error {s : String} {e : Failure} (h : checkValue s = .error e)
    (hs : Text.hasSurrogate s = false) : e = incompatible := by
  have hUtf8 := (Text.checkUtf8_eq_ok_iff_hasSurrogate s).mpr hs
  unfold checkValue at h
  rw [hUtf8] at h
  by_cases hc : Compatible s
  · rw [if_pos hc] at h
    cases h
  · rw [if_neg hc] at h
    injection h with hEq
    exact hEq.symm

/-- A string without unpaired surrogates that is not XML text fails the check as an
incompatible string. -/
theorem checkValue_eq_incompatible {s : String} (hs : Text.hasSurrogate s = false)
    (hNotText : ¬IsText s) : checkValue s = .error incompatible := by
  cases hCheck : checkValue s with
  | error e => rw [checkValue_eq_error hCheck hs]
  | ok u => exact absurd ((checkValue_eq_ok_iff _).mp hCheck) hNotText

theorem checkAttrs_eq_ok_iff (attrs : List (String × String)) :
    checkAttrs attrs = .ok () ↔ ∀ a ∈ attrs, checkValue a.2 = .ok () :=
  forM_eq_ok_iff _ attrs

theorem checkAttrs_eq_error {attrs : List (String × String)} {e : Failure}
    (h : checkAttrs attrs = .error e) : ∃ a ∈ attrs, checkValue a.2 = .error e := by
  obtain ⟨pre, a, post, rfl, -, ha⟩ := (forM_eq_error_iff _ attrs e).mp h
  exact ⟨a, List.mem_append_right pre List.mem_cons_self, ha⟩

/-! ## Printable ASCII -/

/-- Printable ASCII: every character from the space up to the tilde. -/
def IsPlain (s : String) : Prop := ∀ c ∈ s.toList, 0x20 ≤ c.toNat ∧ c.toNat < 0x7F

theorem isPlain_append {s t : String} (hs : IsPlain s) (ht : IsPlain t) : IsPlain (s ++ t) := by
  intro c hc
  rw [String.toList_append, List.mem_append] at hc
  rcases hc with hc | hc
  · exact hs c hc
  · exact ht c hc

theorem isPlain_ofList {cs : List Char} (h : ∀ c ∈ cs, 0x20 ≤ c.toNat ∧ c.toNat < 0x7F) :
    IsPlain (String.ofList cs) := by
  simpa [IsPlain] using h

/-- Decimal digits are printable. -/
theorem plain_of_isDigit {c : Char} (h : c.isDigit = true) : 0x20 ≤ c.toNat ∧ c.toNat < 0x7F := by
  simp only [Char.isDigit, Bool.and_eq_true, decide_eq_true_eq] at h
  have h₁ : 48 ≤ c.toNat := h.1
  have h₂ : c.toNat ≤ 57 := h.2
  omega

/-- The digits of a number, with zeros in front, are printable. -/
theorem plain_of_mem_padded {c : Char} {k n : Nat} (h : c ∈ List.replicate k '0' ++ Nat.toDigits 10 n) :
    0x20 ≤ c.toNat ∧ c.toNat < 0x7F := by
  rcases List.mem_append.mp h with h | h
  · rw [(List.mem_replicate.mp h).2]
    decide
  · exact plain_of_isDigit (Nat.isDigit_of_mem_toDigits (by decide) (by decide) h)

theorem isPlain_natRepr (n : Nat) : IsPlain (Nat.repr n) := by
  intro c hc
  rw [Nat.toList_repr] at hc
  exact plain_of_mem_padded (List.mem_append_right (List.replicate 0 '0') hc)

/-- The decimal text of an integer is printable. -/
theorem isPlain_toString (i : Int) : IsPlain (toString i) := by
  cases i with
  | ofNat n => exact isPlain_natRepr n
  | negSucc n => exact isPlain_append ((by simp [IsPlain])) (isPlain_natRepr _)

theorem isPlain_zeroPadded (width n : Nat) : IsPlain (zeroPadded width n) :=
  isPlain_ofList fun _ hc => plain_of_mem_padded hc

/-- The map form of a time is printable. -/
theorem isPlain_mapText (c : Civil) : IsPlain c.mapText := by
  have hDash : IsPlain "-" := (by simp [IsPlain])
  have hClock : IsPlain c.clockText :=
    isPlain_append (isPlain_append (isPlain_append (isPlain_append (isPlain_zeroPadded 2 _)
      ((by simp [IsPlain]))) (isPlain_zeroPadded 2 _)) ((by simp [IsPlain])))
      (isPlain_zeroPadded 2 _)
  exact isPlain_append (isPlain_append (isPlain_append (isPlain_append (isPlain_append
    (isPlain_append (isPlain_append (isPlain_toString _) hDash) (isPlain_zeroPadded 2 _)) hDash)
    (isPlain_zeroPadded 2 _)) ((by simp [IsPlain]))) hClock) ((by simp [IsPlain]))

theorem isPlain_of_mapText_eq_ok {t : Timestamp} {s : String} (h : t.mapText = .ok s) :
    IsPlain s := by
  by_cases hRange : t.utc.InRange
  · simp only [Timestamp.mapText, hRange, if_true, Except.ok.injEq] at h
    rw [← h]
    exact isPlain_mapText _
  · simp [Timestamp.mapText, hRange] at h

/-- The fixed-place text of a double is printable. -/
theorem isPlain_fixed (x : Binary64) (places : Nat) : IsPlain (x.fixed places) := by
  have hSign : IsPlain (if x.sign then "-" else "") := by
    split_ifs
    · simp [IsPlain]
    · simp [IsPlain]
  have hPad : ∀ n w, IsPlain (Binary64.padDigits n w) := fun n w =>
    isPlain_ofList fun _ hc => plain_of_mem_padded hc
  -- the text is a sign, the whole part, and the point and the fraction when there are places
  have hShape : ∀ (sign : String) (whole part : Nat), IsPlain sign →
      IsPlain (if places = 0 then sign ++ Binary64.padDigits whole 1
        else sign ++ Binary64.padDigits whole 1 ++ "." ++ Binary64.padDigits part places) := by
    intro sign whole part hSign'
    split_ifs
    · exact isPlain_append hSign' (hPad _ _)
    · exact isPlain_append (isPlain_append (isPlain_append hSign' (hPad _ _)) (by simp [IsPlain]))
        (hPad _ _)
  exact hShape _ _ _ hSign

/-- Stripping trailing characters keeps text printable. -/
theorem isPlain_stripZeros {s : String} (h : IsPlain s) : IsPlain (Coordinate.stripZeros s) := by
  have hDrop : ∀ (d : Char) (cs : List Char), ∀ c ∈ Coordinate.dropTrailing d cs, c ∈ cs :=
    fun d cs c hc => by
      rw [Coordinate.dropTrailing, List.mem_reverse] at hc
      exact List.mem_reverse.mp ((List.dropWhile_suffix _).subset hc)
  -- what is left after stripping, or `0`
  have hShape : ∀ t : List Char, (∀ c ∈ t, c ∈ s.toList) →
      IsPlain (if t = [] || t = ['-', '0'] then "0" else String.ofList t) := by
    intro t ht
    split_ifs
    · simp [IsPlain]
    · exact isPlain_ofList fun c hc => h c (ht c hc)
  unfold Coordinate.stripZeros
  exact hShape _ fun c hc => hDrop _ _ c (hDrop _ _ c hc)

/-- The written form of a coordinate is printable. -/
theorem isPlain_of_text_eq_ok {n : Int} {s : String} (h : Coordinate.text n = .ok s) : IsPlain s := by
  -- the written form is the stripped fixed-place text of the value in degrees, if there is one
  have hText : Coordinate.text n =
      (Coordinate.toDegrees n).map fun x => Coordinate.stripZeros (x.fixed Coordinate.places) := rfl
  rw [hText] at h
  cases hx : Coordinate.toDegrees n with
  | error e =>
      rw [hx] at h
      cases h
  | ok x =>
      rw [hx] at h
      rw [← Except.ok.inj h]
      exact isPlain_stripZeros (isPlain_fixed x _)

/-- **Printable ASCII passes the writer's check.** -/
theorem checkValue_of_isPlain {s : String} (h : IsPlain s) : checkValue s = .ok () := by
  rw [checkValue_eq_ok_iff]
  intro x hx
  have hNoMarker : ∀ c ∈ s.toList, c ≠ Text.marker := fun c hc hEq => by
    have := (h c hc).2
    rw [hEq, Text.marker_toNat] at this
    omega
  rw [Text.symbols, Text.decode_of_forall_ne_marker hNoMarker, List.mem_map] at hx
  obtain ⟨c, hc, rfl⟩ := hx
  refine ⟨c, rfl, ?_⟩
  have hPlain := h c hc
  simp only [isXmlChar, Bool.or_eq_true, decide_eq_true_eq, Bool.and_eq_true]
  exact Or.inr ⟨⟨hPlain.1, by omega⟩, by omega⟩

end Xml

end RoadAtlas
