import RoadAtlas.Service.PathParam
import RoadAtlas.Proofs.IntegerLiteral
import RoadAtlas.Proofs.Gather

/-!
# Lists of ids in a path

A list of road or way ids is given in a path as text. Its items are the pieces between commas,
each stripped of blanks, the empty ones dropped (`items_eq`, where the split is the library's
`List.splitOn` on the characters). Road ids are the items, refused when there are none. Way ids
are the values of the items when every item is an integer literal (`IntegerText.Literal`) of a
non-zero value; the first bad item refuses the list, and a list without items is refused on its
own account. A single way id may have blanks around its literal.

Joining a list with commas and reading it back gives the list again, for road ids that are
non-empty, comma-free and already stripped (`roadIds_intercalate`), and for non-zero integers of
at most `maxDigits` digits written in decimal (`wayIds_intercalate`).

`String.splitOn` matches its separator by byte positions; with the one-byte separator `,` it walks
the text exactly as `String.splitAux` does with the test for a comma (`splitOnAux_comma`), whose
list form the library gives.

## Main results

* `items_eq`: the items as a split of the characters.
* `roadIds_eq_ok_iff`, `wayIds_eq_ok_iff`, `wayId_eq_ok_iff` and their failures.
* `roadIds_intercalate`, `wayIds_intercalate`: lists written with commas read back.
* `id_parameters_read_back`: all of these together.
-/

namespace RoadAtlas

namespace PathParam

open IntegerText Gather

/-! ## Splitting at a comma -/

private theorem unoffsetBy_zero (i : String.Pos.Raw) : i.unoffsetBy 0 = i := by
  simp [String.Pos.Raw.unoffsetBy]

private theorem get_comma : String.Pos.Raw.get "," 0 = ',' := by decide

private theorem next_comma : String.Pos.Raw.next "," 0 = ⟨1⟩ := by decide

private theorem atEnd_comma : String.Pos.Raw.atEnd "," (String.Pos.Raw.next "," 0) = true := by
  decide

/-- With a separator of one character the matcher of `String.splitOn` never keeps a partial
match, and walks the text as `String.splitAux` does with the test for that character. -/
theorem splitOnAux_comma (s : String) (b i : String.Pos.Raw) (r : List String) :
    String.splitOnAux s "," b i 0 r = String.splitAux s (· == ',') b i r := by
  fun_induction String.splitAux s (· == ',') b i r with
  | case1 b i r h =>
    rw [String.splitOnAux, if_pos h]
  | case2 b i r h _ hp i' ih =>
    have hc : String.Pos.Raw.get s i = ',' := by simpa using hp
    -- a comma is one byte, so stepping back over the separator returns to `i`
    have hBack : (String.Pos.Raw.next s i).unoffsetBy (String.Pos.Raw.next "," 0) = i := by
      have hSize : ','.utf8Size = 1 := by decide
      rw [next_comma]
      simp [String.Pos.Raw.next, String.Pos.Raw.unoffsetBy, hc, hSize]
    rw [String.splitOnAux, if_neg h, hc, get_comma]
    dsimp only
    rw [if_pos (beq_self_eq_true ','), if_pos atEnd_comma, hBack]
    exact ih
  | case3 b i r h _ hp ih =>
    have hc : (String.Pos.Raw.get s i == ',') = false := by simpa using hp
    rw [String.splitOnAux, if_neg h, unoffsetBy_zero, get_comma, hc]
    exact ih

/-- Splitting text at `,` splits its characters at every comma. -/
theorem splitOn_comma (s : String) :
    s.splitOn "," = (s.toList.splitOn ',').map String.ofList := by
  rw [String.splitOn, if_neg (by decide), splitOnAux_comma, List.splitOn_eq_splitOnP,
    ← String.splitToList_of_valid]
  rfl

/-! ## Items -/

theorem items_eq (s : String) :
    items s = ((s.toList.splitOn ',').map fun cs => Text.strip (String.ofList cs)).filter
      fun x => !x.isEmpty := by
  rw [items, splitOn_comma, List.map_map]
  rfl

/-- Items joined with commas are split back into themselves when none is empty, none holds a
comma and each is its own strip. -/
theorem items_intercalate {L : List String} (hL : L ≠ [])
    (hItems : ∀ x ∈ L, x ≠ "" ∧ ',' ∉ x.toList ∧ Text.strip x = x) :
    items (",".intercalate L) = L := by
  have hSplit : (",".intercalate L).toList.splitOn ',' = L.map String.toList := by
    rw [String.toList_intercalate]
    exact List.splitOn_intercalate ',' (by simpa using fun x hx => (hItems x hx).2.1)
      (by simpa using hL)
  rw [items_eq, hSplit, List.map_map]
  have hMap : L.map ((fun cs => Text.strip (String.ofList cs)) ∘ String.toList) = L := by
    conv => rhs; rw [← List.map_id L]
    apply List.map_congr_left
    intro x hx
    simp [(hItems x hx).2.2]
  rw [hMap, List.filter_eq_self]
  intro x hx
  simpa [String.isEmpty_iff] using (hItems x hx).1

/-- Neither end of a stripped text is blank. -/
theorem stripChars_ends (cs : List Char) :
    (∀ c ∈ (Text.stripChars cs).head?, Text.isBlank c = false) ∧
      ∀ c ∈ (Text.stripChars cs).getLast?, Text.isBlank c = false := by
  -- the stripped text is a prefix of the text without its leading blanks
  have hStrip : Text.stripChars cs = (cs.dropWhile Text.isBlank).rdropWhile Text.isBlank := rfl
  rw [hStrip]
  constructor
  · intro c hc
    obtain ⟨t, ht⟩ := List.rdropWhile_prefix (p := Text.isBlank) (l := cs.dropWhile Text.isBlank)
    have hFront : (cs.dropWhile Text.isBlank).head? = some c := by
      rw [← ht, List.head?_append, Option.mem_def.mp hc]
      rfl
    have hNot := List.head?_dropWhile_not Text.isBlank cs
    rw [hFront] at hNot
    exact hNot
  · intro c hc
    obtain ⟨hNe, rfl⟩ := List.mem_getLast?_eq_getLast hc
    simpa using List.rdropWhile_last_not Text.isBlank _ hNe

/-- Text with no blank character is its own strip. -/
theorem strip_eq_self {x : String} (h : ∀ c ∈ x.toList, Text.isBlank c = false) :
    Text.strip x = x := by
  have hKeep : ∀ l : List Char, (∀ c ∈ l, Text.isBlank c = false) →
      l.dropWhile Text.isBlank = l := by
    intro l hl
    cases l with
    | nil => rfl
    | cons c l => exact List.dropWhile_cons_of_neg (by simp [hl c (by simp)])
  unfold Text.strip Text.stripChars
  rw [hKeep _ h, hKeep _ (by simpa using h), List.reverse_reverse, String.ofList_toList]

theorem mem_items {s x : String} (h : x ∈ items s) : x ≠ "" ∧ ∃ y, x = Text.strip y := by
  unfold items at h
  rw [List.mem_filter, List.mem_map] at h
  obtain ⟨⟨y, -, rfl⟩, hNe⟩ := h
  exact ⟨by simpa [String.isEmpty_iff] using hNe, y, rfl⟩

/-- An item is a literal exactly when it is a padded one: stripping took its blanks off. -/
theorem padded_iff_literal_of_mem_items {s x : String} {n : Int} (h : x ∈ items s) :
    Padded x.toList n ↔ Literal x.toList n := by
  obtain ⟨-, y, rfl⟩ := mem_items h
  have hWhite : ∀ c, Text.isBlank c = false → Text.isWhiteSpace c = false := fun c hc => by
    rw [Text.isWhiteSpace, hc, Bool.false_and]
  have hEnds := stripChars_ends y.toList
  rw [Text.strip, String.toList_ofList]
  exact padded_iff_literal (fun c hc => hWhite c (hEnds.1 c hc))
    (fun c hc => hWhite c (hEnds.2 c hc))

/-! ## The rules -/

theorem roadIds_eq_ok_iff (s : String) (L : List String) :
    roadIds s = .ok L ↔ L = items s ∧ L ≠ [] := by
  unfold roadIds
  split
  · next h => simp [h]
  · next hNe =>
    rw [Except.ok.injEq]
    constructor
    · rintro rfl
      exact ⟨rfl, hNe⟩
    · rintro ⟨rfl, -⟩
      rfl

theorem roadIds_eq_error_iff (s : String) (e : Failure) :
    roadIds s = .error e ↔ items s = [] ∧ e = refuse "At least one road ID must be provided" := by
  unfold roadIds
  split
  · next h => simp [h, eq_comm]
  · next hNe =>
    simp only [reduceCtorEq, false_iff, not_and]
    exact fun h => absurd h hNe

theorem wayId_eq_ok_iff (s : String) (n : Int) :
    wayId s = .ok n ↔ Padded s.toList n ∧ n ≠ 0 := by
  unfold wayId nonZero
  rw [← readInteger_eq_ok_iff]
  cases readInteger s with
  | error e => simp
  | ok m =>
    by_cases hm : m = 0
    · simp only [if_pos hm, reduceCtorEq, Except.ok.injEq, false_iff, not_and, not_not]
      rintro rfl
      exact hm
    · simp only [if_neg hm, Except.ok.injEq]
      constructor
      · rintro rfl
        exact ⟨rfl, hm⟩
      · rintro ⟨rfl, -⟩
        rfl

example : wayId " -٣ " = .ok (-3) := by decide

/-- A way id is refused only with the one refusal. -/
theorem eq_badWayId_of_wayId {s : String} {e : Failure} (h : wayId s = .error e) :
    e = badWayId := by
  unfold wayId nonZero at h
  split at h
  · split at h
    · exact (Except.error.inj h).symm
    · contradiction
  · exact (Except.error.inj h).symm

theorem wayId_eq_error_iff (s : String) (e : Failure) :
    wayId s = .error e ↔ e = badWayId ∧ ∀ n, Padded s.toList n → n = 0 := by
  constructor
  · intro h
    refine ⟨eq_badWayId_of_wayId h, fun n hn => ?_⟩
    by_contra hNe
    have hOk := (wayId_eq_ok_iff s n).mpr ⟨hn, hNe⟩
    rw [h] at hOk
    cases hOk
  · rintro ⟨rfl, hZero⟩
    cases h : wayId s with
    | error e' => rw [eq_badWayId_of_wayId h]
    | ok n =>
      obtain ⟨hn, hNe⟩ := (wayId_eq_ok_iff s n).mp h
      exact absurd (hZero n hn) hNe

private theorem forall₂_congr_of_mem {α β : Type} {R S : α → β → Prop} {l : List α}
    {l' : List β} (h : ∀ a ∈ l, ∀ b, R a b ↔ S a b) :
    List.Forall₂ R l l' ↔ List.Forall₂ S l l' := by
  induction l generalizing l' with
  | nil => simp
  | cons a l ih =>
    cases l' with
    | nil => simp
    | cons b l' =>
      rw [List.forall₂_cons, List.forall₂_cons, h a (by simp) b,
        ih fun x hx => h x (by simp [hx])]

/-- On an item, `wayId` accepts exactly the literals of non-zero integers. -/
theorem wayId_eq_ok_iff_of_mem_items {s x : String} (hx : x ∈ items s) (n : Int) :
    wayId x = .ok n ↔ Literal x.toList n ∧ n ≠ 0 := by
  rw [wayId_eq_ok_iff, padded_iff_literal_of_mem_items hx]

theorem wayIds_eq_ok_iff (s : String) (ns : List Int) :
    wayIds s = .ok ns ↔
      items s ≠ [] ∧ List.Forall₂ (fun x n => Literal x.toList n ∧ n ≠ 0) (items s) ns := by
  have hItems : List.Forall₂ (fun x n => wayId x = .ok n) (items s) ns ↔
      List.Forall₂ (fun x n => Literal x.toList n ∧ n ≠ 0) (items s) ns :=
    forall₂_congr_of_mem fun x hx n => wayId_eq_ok_iff_of_mem_items hx n
  unfold wayIds
  rw [bind_eq_ok_iff]
  constructor
  · rintro ⟨ms, hMap, hMatch⟩
    rw [mapM_eq_ok_iff] at hMap
    split at hMatch
    · contradiction
    · next hNe =>
      cases hMatch
      refine ⟨fun hNil => ?_, hItems.mp hMap⟩
      rw [hNil, List.forall₂_nil_left_iff] at hMap
      exact hNe hMap
  · rintro ⟨hNe, hAll⟩
    refine ⟨ns, (mapM_eq_ok_iff _ _ _).mpr (hItems.mpr hAll), ?_⟩
    split
    · rw [List.forall₂_nil_right_iff] at hAll
      exact absurd hAll hNe
    · rfl

theorem wayIds_eq_error_iff (s : String) (e : Failure) :
    wayIds s = .error e ↔
      (e = badWayId ∧ ∃ x ∈ items s, ∀ n, Literal x.toList n → n = 0) ∨
        (items s = [] ∧ e = refuse "At least one way ID must be provided") := by
  unfold wayIds
  cases hMap : (items s).mapM wayId with
  | error e' =>
    -- an item failed: the refusal is that of a bad way id, and there are items
    obtain ⟨x, hx, hFail⟩ := exists_mem_of_mapM_eq_error hMap
    have hBad : ∀ n, Literal x.toList n → n = 0 := fun n hn => by
      by_contra hNe
      rw [(wayId_eq_ok_iff_of_mem_items hx n).mpr ⟨hn, hNe⟩] at hFail
      cases hFail
    have hNe : items s ≠ [] := List.ne_nil_of_mem hx
    rw [eq_badWayId_of_wayId hFail]
    simp only [bind, Except.bind, Except.error.injEq, hNe, false_and, or_false]
    exact ⟨fun h => ⟨h.symm, x, hx, hBad⟩, fun h => h.1.symm⟩
  | ok ms =>
    -- every item is good: only an empty list is refused
    have hGood : ∀ x ∈ items s, ¬∀ n, Literal x.toList n → n = 0 := by
      intro x hx hBad
      obtain ⟨n, hn⟩ := (exists_mapM_eq_ok_iff wayId (items s)).mp ⟨ms, hMap⟩ x hx
      obtain ⟨hLit, hNe⟩ := (wayId_eq_ok_iff_of_mem_items hx n).mp hn
      exact hNe (hBad n hLit)
    have hLength := ((mapM_eq_ok_iff _ _ _).mp hMap).length_eq
    simp only [bind, Except.bind]
    cases ms with
    | nil =>
      have hNil : items s = [] := List.length_eq_zero_iff.mp hLength
      simp [hNil, eq_comm]
    | cons m ms =>
      have hNe : items s ≠ [] := fun h => by simp [h] at hLength
      simp only [reduceCtorEq, false_iff, hNe, false_and, or_false, not_and, not_exists]
      exact fun _ x hx => hGood x hx

/-! ## Lists written back -/

theorem roadIds_intercalate {L : List String} (hL : L ≠ [])
    (hItems : ∀ x ∈ L, x ≠ "" ∧ ',' ∉ x.toList ∧ Text.strip x = x) :
    roadIds (",".intercalate L) = .ok L :=
  (roadIds_eq_ok_iff _ _).mpr ⟨(items_intercalate hL hItems).symm, hL⟩

theorem mem_toString_int {n : Int} {c : Char} (h : c ∈ (toString n).toList) :
    c = '-' ∨ c.isDigit := by
  rw [Int.toString_eq_repr, Int.repr_eq_if] at h
  split at h
  · rw [Nat.toList_repr] at h
    exact .inr (Nat.isDigit_of_mem_toDigits (by decide) (by decide) h)
  · rw [String.toList_append, Nat.toList_repr] at h
    rcases List.mem_append.mp h with h | h
    · exact .inl (by simpa using h)
    · exact .inr (Nat.isDigit_of_mem_toDigits (by decide) (by decide) h)

theorem wayIds_intercalate {L : List Int} (hL : L ≠ [])
    (hBound : ∀ n ∈ L, n ≠ 0 ∧ n.natAbs < Nat.pow 10 maxDigits) :
    wayIds (",".intercalate (L.map toString)) = .ok L := by
  -- a written integer has no blank and no comma, and is never empty
  have hText : ∀ n : Int, ∀ c ∈ (toString n).toList, Text.isBlank c = false ∧ c ≠ ',' := by
    intro n c hc
    rcases mem_toString_int hc with rfl | hDigit
    · decide
    · refine ⟨isBlank_of_digitValue (digitValue_of_isDigit hDigit), ?_⟩
      rintro rfl
      exact absurd hDigit (by decide)
  have hItems : items (",".intercalate (L.map toString)) = L.map toString := by
    refine items_intercalate (by simpa using hL) fun x hx => ?_
    obtain ⟨n, hn, rfl⟩ := List.mem_map.mp hx
    refine ⟨fun hEmpty => ?_, fun h => (hText n ',' h).2 rfl,
      strip_eq_self fun c hc => (hText n c hc).1⟩
    obtain ⟨c, rest, hcs, -⟩ := (literal_toString (hBound n hn).2).exists_cons
    rw [hEmpty] at hcs
    cases hcs
  rw [wayIds_eq_ok_iff, hItems]
  refine ⟨by simpa using hL, ?_⟩
  rw [List.forall₂_map_left_iff, List.forall₂_same]
  intro n hn
  exact ⟨literal_toString (hBound n hn).2, (hBound n hn).1⟩

/-- **Lists of ids.** The items of a text are its pieces between commas, stripped, the empty ones
dropped. Road ids are the items, refused when there are none. Way ids are the values of the
items when each is a literal of a non-zero integer, refused as bad when one is not and as missing
when there are none; a single way id is a literal with `White_Space` around it. Lists joined with
commas read back as themselves. -/
theorem id_parameters_read_back :
    (∀ s, items s = ((s.toList.splitOn ',').map fun cs => Text.strip (String.ofList cs)).filter
      fun x => !x.isEmpty) ∧
    (∀ s L, roadIds s = .ok L ↔ L = items s ∧ L ≠ []) ∧
    (∀ s e, roadIds s = .error e ↔
      items s = [] ∧ e = ⟨.rejected 400, "At least one road ID must be provided"⟩) ∧
    (∀ s ns, wayIds s = .ok ns ↔
      items s ≠ [] ∧ List.Forall₂ (fun x n => Literal x.toList n ∧ n ≠ 0) (items s) ns) ∧
    (∀ s e, wayIds s = .error e ↔
      (e = ⟨.rejected 400, "Way ID must be a non-zero number"⟩ ∧
          ∃ x ∈ items s, ∀ n, Literal x.toList n → n = 0) ∨
        (items s = [] ∧ e = ⟨.rejected 400, "At least one way ID must be provided"⟩)) ∧
    (∀ s n, wayId s = .ok n ↔ Padded s.toList n ∧ n ≠ 0) ∧
    (∀ s e, wayId s = .error e ↔
      e = ⟨.rejected 400, "Way ID must be a non-zero number"⟩ ∧
        ∀ n, Padded s.toList n → n = 0) ∧
    (∀ L : List String, L ≠ [] → (∀ x ∈ L, x ≠ "" ∧ ',' ∉ x.toList ∧ Text.strip x = x) →
      roadIds (",".intercalate L) = .ok L) ∧
    (∀ L : List Int, L ≠ [] → (∀ n ∈ L, n ≠ 0 ∧ n.natAbs < Nat.pow 10 maxDigits) →
      wayIds (",".intercalate (L.map toString)) = .ok L) :=
  ⟨items_eq, roadIds_eq_ok_iff, roadIds_eq_error_iff, wayIds_eq_ok_iff, wayIds_eq_error_iff,
    wayId_eq_ok_iff, wayId_eq_error_iff, fun _ => roadIds_intercalate, fun _ => wayIds_intercalate⟩

end PathParam

end RoadAtlas
