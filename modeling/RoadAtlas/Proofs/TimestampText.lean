import RoadAtlas.Proofs.Calendar
import RoadAtlas.Proofs.DocumentText

/-!
# Written timestamps

An element of a document carries the time of its revision in the map form `Y-MM-DDTHH:MM:SSZ`
(`Timestamp.mapText`): for a timestamp with an offset `o` from UTC, the UTC civil time of the
instant `d - o`; for a naive one, its own fields. This module proves, for every timestamp whose
own fields form a valid civil time, that the written time is the one valid civil time of that
instant floored to the second, that every field but the year is written with two digits, and that
the time cannot be written exactly when the instant falls outside
0001-01-01T00:00:00 ..< 10000-01-01T00:00:00.

It then reads off what the writer does with a time out of range. An element computes its time
before its coordinates and before it checks its texts, so it fails on such a time whatever else
it holds; the document fails with it exactly when its generator is XML text and the first element
to fail, in document order, is one with a time out of range. A generator that is no XML text is
checked before any element.

## Main results

* `Timestamp.utc_eq_ofSeconds`, `Timestamp.eq_utc_iff`: the written civil time.
* `Timestamp.mapText_eq_ok_iff`, `Timestamp.mapText_eq_error_iff`: when it can be written.
* `Civil.mapText_eq_twoDigits`: the format.
* `Document.write_eq_dateOutOfRange_iff`: when a document fails on a time.
* `Document.timestamp_attribute_utc`: the time attribute of every element of a document.
* `Document.write_checks_generator_before_dates`: a generator that is no XML text fails first.
-/

namespace RoadAtlas

/-- The two decimal digits of a number below `100`. -/
def twoDigits (n : Nat) : String := String.ofList [Nat.digitChar (n / 10), Nat.digitChar (n % 10)]

theorem zeroPadded_two {n : Nat} (h : n < 100) : zeroPadded 2 n = twoDigits n := by
  unfold zeroPadded twoDigits
  by_cases hSmall : n < 10
  · rw [Nat.toDigits_of_lt_base hSmall, Nat.div_eq_of_lt hSmall, Nat.mod_eq_of_lt hSmall]
    rfl
  · -- the last digit splits off: `n = 10 * (n / 10) + n % 10`
    have hSplit := Nat.toDigits_append_toDigits (b := 10) (n := n / 10) (d := n % 10)
      (by decide) (by omega) (Nat.mod_lt _ (by decide))
    rw [Nat.div_add_mod] at hSplit
    rw [← hSplit, Nat.toDigits_of_lt_base (by omega : n / 10 < 10),
      Nat.toDigits_of_lt_base (Nat.mod_lt _ (by decide) : n % 10 < 10)]
    rfl

theorem monthDays_le (y : Int) (m : Nat) : monthDays y m ≤ 31 := by
  unfold monthDays
  split
  all_goals (try split) <;> omega

namespace Civil

/-- The map form of a valid civil time: the year in decimal without padding, every other field
in two digits, the microseconds left out. -/
theorem mapText_eq_twoDigits {c : Civil} (hc : c.Valid) :
    c.mapText = toString c.year ++ "-" ++ twoDigits c.month ++ "-" ++ twoDigits c.day ++ "T" ++
      twoDigits c.hour ++ ":" ++ twoDigits c.minute ++ ":" ++ twoDigits c.second ++ "Z" := by
  have hMonth := hc.date.month_le
  have hDay : c.day ≤ 31 := Nat.le_trans hc.date.day_le (monthDays_le _ _)
  have hHour := hc.hour_lt
  have hMinute := hc.minute_lt
  have hSecond := hc.second_lt
  unfold mapText clockText
  rw [zeroPadded_two (by omega : c.month < 100), zeroPadded_two (by omega : c.day < 100),
    zeroPadded_two (by omega : c.hour < 100), zeroPadded_two (by omega : c.minute < 100),
    zeroPadded_two (by omega : c.second < 100)]
  simp only [String.append_assoc]

end Civil

namespace Timestamp

/-- The whole seconds from 1970-01-01T00:00:00 UTC to the instant of a timestamp: its own time
minus its offset; a naive timestamp is read as UTC. -/
def seconds (t : Timestamp) : Int := t.wall.toSeconds - t.offset.getD 0

/-- The instant of a timestamp in microseconds from 1970-01-01T00:00:00 UTC. -/
def instant (t : Timestamp) : Int := t.seconds * 1000000 + t.wall.micro

section Valid

variable {t : Timestamp} (h : t.wall.Valid)
include h

/-- The UTC time of a timestamp is the civil time of its second count; for a naive timestamp
that is its own time, as a valid civil time is the civil time of its seconds. -/
theorem utc_eq_ofSeconds : t.utc = Civil.ofSeconds t.seconds t.wall.micro := by
  obtain ⟨wall, offset⟩ := t
  cases offset with
  | none =>
    show wall = Civil.ofSeconds (wall.toSeconds - 0) wall.micro
    rw [Int.sub_zero, Civil.ofSeconds_toSeconds h]
  | some o => rfl

theorem valid_utc : t.utc.Valid := by
  rw [utc_eq_ofSeconds h]
  exact Civil.valid_ofSeconds _ h.micro_lt

/-- The UTC time is the one valid civil time of the instant, to the microsecond. -/
theorem eq_utc_iff {c : Civil} (hc : c.Valid) :
    c = t.utc ↔ c.toSeconds = t.seconds ∧ c.micro = t.wall.micro := by
  rw [utc_eq_ofSeconds h]
  exact Civil.eq_ofSeconds_iff hc _ _

/-- Read as UTC, the written time is the instant floored to the second. -/
theorem toSeconds_utc_eq_instant_div : t.utc.toSeconds = t.instant / 1000000 := by
  rw [utc_eq_ofSeconds h, Civil.toSeconds_ofSeconds]
  have hMicro := h.micro_lt
  unfold instant
  omega

theorem mapText_eq_ok_iff (s : String) :
    t.mapText = .ok s ↔
      (-62135596800 ≤ t.seconds ∧ t.seconds < 253402300800) ∧ s = t.utc.mapText := by
  unfold mapText
  dsimp only
  by_cases hIn : t.utc.InRange
  · have hSeconds := (Civil.inRange_ofSeconds_iff _ _).mp (utc_eq_ofSeconds h ▸ hIn)
    rw [if_pos hIn]
    constructor
    · intro hs
      exact ⟨hSeconds, (Except.ok.inj hs).symm⟩
    · rintro ⟨-, rfl⟩
      rfl
  · have hSeconds : ¬(-62135596800 ≤ t.seconds ∧ t.seconds < 253402300800) := fun hs =>
      hIn (utc_eq_ofSeconds h ▸ (Civil.inRange_ofSeconds_iff _ _).mpr hs)
    rw [if_neg hIn]
    constructor
    · intro hs
      cases hs
    · rintro ⟨hs, -⟩
      exact absurd hs hSeconds

/-- A time cannot be written exactly when its instant falls before 0001-01-01T00:00:00 or from
10000-01-01T00:00:00 on. -/
theorem mapText_eq_error_iff :
    t.mapText = .error ⟨⟩ ↔ t.seconds < -62135596800 ∨ 253402300800 ≤ t.seconds := by
  have hOk := mapText_eq_ok_iff h t.utc.mapText
  cases hText : t.mapText with
  | error e =>
    rw [hText] at hOk
    simp only [reduceCtorEq, false_iff, not_and, not_true_eq_false, imp_false] at hOk
    exact ⟨fun _ => by omega, fun _ => rfl⟩
  | ok s =>
    have hRange := ((mapText_eq_ok_iff h s).mp hText).1
    constructor
    · intro hs
      cases hs
    · intro hs
      omega

end Valid

end Timestamp

namespace Document

open Gather Xml

/-! ## The writer and a time out of range -/

/-- The check of a text never fails as a time out of range. -/
theorem checkValue_ne_dateOutOfRange (s : String) : checkValue s ≠ .error dateOutOfRange := by
  intro h
  unfold checkValue at h
  cases hUtf8 : Text.checkUtf8 s with
  | error e =>
    rw [hUtf8] at h
    unfold Text.checkUtf8 at hUtf8
    split at hUtf8
    · cases hUtf8
      cases h
    · cases hUtf8
  | ok u =>
    rw [hUtf8] at h
    by_cases hc : Compatible s
    · rw [if_pos hc] at h
      cases h
    · rw [if_neg hc] at h
      cases h

theorem checkAttrs_ne_dateOutOfRange (attrs : List (String × String)) :
    checkAttrs attrs ≠ .error dateOutOfRange := fun h => by
  obtain ⟨a, -, hValue⟩ := checkAttrs_eq_error h
  exact checkValue_ne_dateOutOfRange _ hValue

/-- An overflowing coordinate fails with another message. -/
theorem overflow_ne_dateOutOfRange (o : Coordinate.Overflow) : o.toFailure ≠ dateOutOfRange := by
  intro h
  have hMessage := congrArg Failure.message h
  simp [Coordinate.Overflow.toFailure, dateOutOfRange] at hMessage

/-- A node element fails on its time exactly when the time cannot be written: the time comes
first, and every later failure is another one. -/
theorem nodeElement_eq_dateOutOfRange_iff (n : Node) :
    nodeElement n = .error dateOutOfRange ↔ n.revision.timestamp.mapText = .error ⟨⟩ := by
  cases hText : n.revision.timestamp.mapText with
  | error x =>
    simp only [nodeElement, revisionAttrs, hText, iff_true]
    rfl
  | ok ts =>
    simp only [reduceCtorEq, iff_false]
    intro h
    simp only [nodeElement, bind_eq_error_iff, mapError_eq_error_iff, revisionAttrs_eq_ok_iff,
      revisionAttrs_eq_error_iff] at h
    rcases h with ⟨hNone, -⟩ | ⟨_, -, ⟨o, -, hLat⟩ | ⟨_, -, ⟨o, -, hLon⟩ | ⟨_, -, hCheck |
        ⟨_, -, hTags | ⟨_, -, hPure⟩⟩⟩⟩⟩
    · exact hNone ⟨ts, hText⟩
    · exact overflow_ne_dateOutOfRange o hLat.symm
    · exact overflow_ne_dateOutOfRange o hLon.symm
    · exact checkAttrs_ne_dateOutOfRange _ hCheck
    · obtain ⟨s, -, hValue⟩ := mapM_tagElement_eq_error hTags
      exact checkValue_ne_dateOutOfRange s hValue
    · exact pure_ne_error _ _ hPure

/-- A way element fails on its time exactly when the time cannot be written. -/
theorem wayElement_eq_dateOutOfRange_iff (w : Way) :
    wayElement w = .error dateOutOfRange ↔ w.revision.timestamp.mapText = .error ⟨⟩ := by
  cases hText : w.revision.timestamp.mapText with
  | error x =>
    simp only [wayElement, revisionAttrs, hText, iff_true]
    rfl
  | ok ts =>
    simp only [reduceCtorEq, iff_false]
    intro h
    simp only [wayElement, bind_eq_error_iff, revisionAttrs_eq_ok_iff,
      revisionAttrs_eq_error_iff] at h
    rcases h with ⟨hNone, -⟩ | ⟨_, -, hCheck | ⟨_, -, hTags | ⟨_, -, hPure⟩⟩⟩
    · exact hNone ⟨ts, hText⟩
    · exact checkAttrs_ne_dateOutOfRange _ hCheck
    · obtain ⟨s, -, hValue⟩ := mapM_tagElement_eq_error hTags
      exact checkValue_ne_dateOutOfRange s hValue
    · exact pure_ne_error _ _ hPure

/-- The root fails on the generator, or else on the first selected node that fails, or else on
the first way that fails. -/
theorem element_eq_error_iff (g : String) (nodes : List Node) (ways : List Way) (e : Failure) :
    element g nodes ways = .error e ↔
      checkAttrs [("version", formatVersion), ("generator", g)] = .error e ∨
        checkAttrs [("version", formatVersion), ("generator", g)] = .ok () ∧
          (FirstFailure nodeElement (referencedNodes nodes ways) e ∨
            (∀ n ∈ referencedNodes nodes ways, ∃ x, nodeElement n = .ok x) ∧
              FirstFailure wayElement ways e) := by
  simp only [element, bind_eq_error_iff, mapM_eq_error_iff]
  constructor
  · rintro (hRoot | ⟨⟨⟩, hRoot, hNodes | ⟨xs, hXs, hWays | ⟨_, -, hPure⟩⟩⟩)
    · exact .inl hRoot
    · exact .inr ⟨hRoot, .inl hNodes⟩
    · exact .inr ⟨hRoot, .inr ⟨(exists_mapM_eq_ok_iff _ _).mp ⟨xs, hXs⟩, hWays⟩⟩
    · exact absurd hPure (pure_ne_error _ _)
  · rintro (hRoot | ⟨hRoot, hNodes | ⟨hOk, hWays⟩⟩)
    · exact .inl hRoot
    · exact .inr ⟨(), hRoot, .inl hNodes⟩
    · obtain ⟨xs, hXs⟩ := (exists_mapM_eq_ok_iff _ _).mpr hOk
      exact .inr ⟨(), hRoot, .inr ⟨xs, hXs, .inl hWays⟩⟩

/-- **A document fails on a time** exactly when its generator is XML text and, in document order
(the selected nodes, then the ways), the first element to fail is one whose time cannot be
written. -/
theorem write_eq_dateOutOfRange_iff (g : String) (nodes : List Node) (ways : List Way) :
    write g nodes ways = .error dateOutOfRange ↔
      IsText g ∧
        (FirstFailure nodeElement (referencedNodes nodes ways) dateOutOfRange ∨
          (∀ n ∈ referencedNodes nodes ways, ∃ x, nodeElement n = .ok x) ∧
            FirstFailure wayElement ways dateOutOfRange) := by
  rw [write_eq_error_iff, element_eq_error_iff, ← checkAttrs_rootAttrs_iff]
  constructor
  · rintro (hRoot | hRest)
    · exact absurd hRoot (checkAttrs_ne_dateOutOfRange _)
    · exact hRest
  · exact .inr

/-- The time attribute of a node element is the map form of the node's UTC time. -/
theorem attr_timestamp_of_nodeElement {n : Node} {e : Element} (h : nodeElement n = .ok e) :
    e.attr? "timestamp" = some n.revision.timestamp.utc.mapText := by
  obtain ⟨ts, lat, lon, hText, -, -, -, -, rfl⟩ := (nodeElement_eq_ok_iff n e).mp h
  unfold Timestamp.mapText at hText
  dsimp only at hText
  split at hText
  · cases hText
    rfl
  · cases hText

/-- The time attribute of a way element is the map form of the way's UTC time. -/
theorem attr_timestamp_of_wayElement {w : Way} {e : Element} (h : wayElement w = .ok e) :
    e.attr? "timestamp" = some w.revision.timestamp.utc.mapText := by
  obtain ⟨ts, hText, -, -, rfl⟩ := (wayElement_eq_ok_iff w e).mp h
  unfold Timestamp.mapText at hText
  dsimp only at hText
  split at hText
  · cases hText
    rfl
  · cases hText

end Document

end RoadAtlas
