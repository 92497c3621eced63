import RoadAtlas.Schema.Field

/-!
# Existing road ids

For some requested road ids and the road ids of the stored rows, the service answers which of the
requested ids exist: a map that pairs every requested id with its answer, and a filter that keeps
the existing ones. A requested id exists when some stored road id is the same text, code point
by code point, so there is no case folding and no normalisation (`contains_iff_codes`): the
lookup among the stored ids is a plain scan for an equal sequence of code points. Both answers
keep the requested order and its repeats, and the filter is the ids of the map whose answer is
true.

## Main definitions

* `Existence.map`, `Existence.filter`.
* `Existence.readRow`: an existing id from a row `{road_id}`.

## Main results

* `filter_eq_map`: the filter keeps exactly the ids that the map marks as existing.
* `map_eq_codes`, `filter_eq_codes`: both answers through the code points of the ids.
* `existence_by_code_points`: both answers, and how the filter is read off the map.
-/

namespace RoadAtlas

namespace Existence

/-- Every requested id with whether it exists. -/
def map (existing : List String) (ids : List String) : List (String × Bool) :=
  ids.map fun i => (i, existing.contains i)

/-- The requested ids that exist, in order. -/
def filter (existing : List String) (ids : List String) : List String :=
  ids.filter fun i => existing.contains i

/-- The road id of a row. -/
def readRow : Json → Checked String :=
  Field.record .modelType fun fs => Field.required fs "road_id" Field.text

theorem filter_eq_map (existing ids : List String) :
    filter existing ids = ((map existing ids).filter (·.2)).map (·.1) := by
  induction ids with
  | nil => rfl
  | cons i rest ih =>
    by_cases h : existing.contains i = true <;> simp_all [filter, map]

/-! ## The answers through code points -/

/-- A stored id matches a request exactly when they are the same code points. -/
theorem contains_iff_codes (existing : List String) (i : String) :
    existing.contains i = true ↔ ∃ e ∈ existing, e.toList = i.toList := by
  simp [String.toList_inj]

theorem contains_eq_decide_codes (existing : List String) (i : String) :
    existing.contains i = decide (∃ e ∈ existing, e.toList = i.toList) :=
  Bool.eq_iff_iff.mpr ((contains_iff_codes existing i).trans decide_eq_true_iff.symm)

/-- The map answers every requested id, in order, with whether a stored id has its code
points. -/
theorem map_eq_codes (existing ids : List String) :
    map existing ids = ids.map fun i => (i, decide (∃ e ∈ existing, e.toList = i.toList)) := by
  refine List.map_congr_left fun i _ => ?_
  rw [contains_eq_decide_codes]

/-- The filter keeps the requested ids, in order and with their repeats, that a stored id has
the code points of. -/
theorem filter_eq_codes (existing ids : List String) :
    filter existing ids = ids.filter fun i => decide (∃ e ∈ existing, e.toList = i.toList) :=
  List.filter_congr fun i _ => contains_eq_decide_codes existing i

/-- **Which requested ids exist.** For every list of stored road ids and every list of requested
ids, repeats allowed, the map pairs each requested id, in order, with whether some stored id is
the same sequence of code points, and the filter keeps exactly the requested ids for which that
holds, in order and with their repeats; so the filter is the ids of the map's entries that are
true. -/
theorem existence_by_code_points (existing ids : List String) :
    map existing ids = ids.map (fun i => (i, decide (∃ e ∈ existing, e.toList = i.toList))) ∧
    filter existing ids = ids.filter (fun i => decide (∃ e ∈ existing, e.toList = i.toList)) ∧
    filter existing ids = ((map existing ids).filter (·.2)).map (·.1) :=
  ⟨map_eq_codes existing ids, filter_eq_codes existing ids, filter_eq_map existing ids⟩

-- case and composition matter: `a` is not `A`, and `e` with a combining accent is not `é`
example : map ["A", "\u00e9"] ["a", "e\u0301", "A", "A"] =
    [("a", false), ("e\u0301", false), ("A", true), ("A", true)] := by decide

end Existence

end RoadAtlas
