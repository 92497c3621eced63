import RoadAtlas.Service.App
import RoadAtlas.Proofs.Grouping
import RoadAtlas.Proofs.XmlText

/-!
# What the survey geometry endpoints answer

`GET /field/{ids}/geometries` and its flat variant ask the backend for the rows of the road ids
and gather them (`Survey.groupedCollections`, `Survey.flatCollection`). The gathering decides
the answer, and `Proofs.Grouping` says what it gives: the collections of every row's geometry
when every row parses, or else the failure of the first failing row in the order it reads them.

The answer keeps the gathered result with one change: a double that is not finite is sent as
`null` (`Json.finiteOnly`), since JSON has no number for it. So the body is the result itself
exactly when the result holds no such double (`finiteOnly_eq_self_iff`). Replacing doubles
touches no text, so the body can be sent as UTF-8 exactly when the result could
(`encodable_finiteOnly`). A failure is answered with 400 and its message when the geometry was
malformed, and as an internal error for every other failure of the reader: an integer literal
too long to convert, values nested too deep, an integer too large for a double, an index past
the end of a coordinate list. The first of these is reached by a geometry that is one integer
numeral of more than 4300 digits (`Json.parse_of_long_numeral`).

So the endpoint gives the documented answer, the result itself with 200 or the message of a
malformed geometry with 400, exactly when the result holds no non-finite double and can be sent,
or the first failure is a malformed geometry whose message can be sent
(`geometries_documented_iff`).

## Main definitions

* `Json.hasNonFinite`: whether a value holds a non-finite double.

## Main results

* `finiteOnly_eq_self_iff`, `encodable_finiteOnly`: what writing non-finite doubles as `null`
  changes.
* `Json.parse_of_long_numeral`, `GeometryRow.parse_of_long_numeral`: a numeral too long to
  convert is refused for its length, which is no malformed geometry.
* `geometries_run_of_ok`, `geometries_run_of_error`: the answer of the endpoint for each outcome
  of the gathering.
* `geometries_answer`: the answer for every outcome.
* `geometries_documented_iff`: exactly when the answer is the documented one, 200 with the
  gathered result itself or 400 with the message of a malformed geometry.
* `geometries_long_numeral_internal_error`: a geometry that is a numeral too long to convert is
  answered as an internal error.
-/

namespace RoadAtlas

namespace Json

mutual

/-- Whether a value holds a double that is not finite. -/
def hasNonFinite : Json → Bool
  | .float x => !x.isFinite
  | .arr items => anyNonFinite items
  | .obj fields => anyNonFiniteField fields
  | _ => false

/-- Whether some item holds a double that is not finite. -/
def anyNonFinite : List Json → Bool
  | [] => false
  | v :: rest => v.hasNonFinite || anyNonFinite rest

/-- Whether some member value holds a double that is not finite. -/
def anyNonFiniteField : List (String × Json) → Bool
  | [] => false
  | (_, v) :: rest => v.hasNonFinite || anyNonFiniteField rest

end

mutual

/-- Writing non-finite doubles as `null` changes a value exactly when it holds one. -/
theorem finiteOnly_eq_self_iff : (j : Json) → (j.finiteOnly = j ↔ j.hasNonFinite = false)
  | .null => by simp [finiteOnly, hasNonFinite]
  | .bool _ => by simp [finiteOnly, hasNonFinite]
  | .int _ => by simp [finiteOnly, hasNonFinite]
  | .str _ => by simp [finiteOnly, hasNonFinite]
  | .float x => by
    by_cases hFinite : x.isFinite = true
    · simp [finiteOnly, hasNonFinite, hFinite]
    · simp [finiteOnly, hasNonFinite, hFinite]
  | .arr items => by
    simp [finiteOnly, hasNonFinite, finiteItems_eq_self_iff items]
  | .obj fields => by
    simp [finiteOnly, hasNonFinite, finiteFields_eq_self_iff fields]

theorem finiteItems_eq_self_iff :
    (items : List Json) → (finiteItems items = items ↔ anyNonFinite items = false)
  | [] => by simp [finiteItems, anyNonFinite]
  | v :: rest => by
    simp [finiteItems, anyNonFinite, finiteOnly_eq_self_iff v, finiteItems_eq_self_iff rest]

theorem finiteFields_eq_self_iff :
    (fields : List (String × Json)) →
      (finiteFields fields = fields ↔ anyNonFiniteField fields = false)
  | [] => by simp [finiteFields, anyNonFiniteField]
  | (_, v) :: rest => by
    simp [finiteFields, anyNonFiniteField, finiteOnly_eq_self_iff v,
      finiteFields_eq_self_iff rest]

end

mutual

/-- Writing non-finite doubles as `null` leaves every text alone, so it keeps whether a value
can be sent as UTF-8. -/
theorem encodable_finiteOnly : (j : Json) → j.finiteOnly.encodable = j.encodable
  | .null => rfl
  | .bool _ => rfl
  | .int _ => rfl
  | .str _ => rfl
  | .float x => by
    by_cases hFinite : x.isFinite = true
    · simp [finiteOnly, hFinite]
    · simp [finiteOnly, hFinite, encodable]
  | .arr items => by
    simp [finiteOnly, encodable, encodableItems_finiteItems items]
  | .obj fields => by
    simp [finiteOnly, encodable, encodableFields_finiteFields fields]

theorem encodableItems_finiteItems :
    (items : List Json) → encodableItems (finiteItems items) = encodableItems items
  | [] => rfl
  | v :: rest => by
    simp [finiteItems, encodableItems, encodable_finiteOnly v, encodableItems_finiteItems rest]

theorem encodableFields_finiteFields :
    (fields : List (String × Json)) →
      encodableFields (finiteFields fields) = encodableFields fields
  | [] => rfl
  | (_, v) :: rest => by
    simp [finiteFields, encodableFields, encodable_finiteOnly v,
      encodableFields_finiteFields rest]

end

/-! ## Numerals too long to convert -/

section LongNumerals

theorem charAt?_ofChars (cs : List Char) (i : Nat) :
    charAt? (cs.map Text.Symbol.char).toArray i = cs[i]? := by
  unfold charAt?
  cases h : cs[i]? <;> simp [h]

/-- Over digits up to the end of the text, the scan of digits stops at the end. -/
theorem skipDigits_of_digits (s : Source) (i : Nat) (hi : i ≤ s.size)
    (h : ∀ j, i ≤ j → j < s.size → (charAt? s j).any isDigit) : skipDigits s i = s.size := by
  fun_induction skipDigits s i with
  | case1 i hLt hDigit ih => exact ih (by omega) fun j hj => h j (by omega)
  | case2 i hLt hDigit => exact absurd (h i (Nat.le_refl i) hLt) hDigit
  | case3 i hGe => omega

variable {d : Char} {ds : List Char}

theorem charAt?_head : charAt? ((d :: ds).map Text.Symbol.char).toArray 0 = some d := by
  rw [charAt?_ofChars]
  rfl

theorem isDigit_of_nonzero (hd : '1' ≤ d ∧ d ≤ '9') : isDigit d = true := by
  simp only [isDigit, Bool.and_eq_true, decide_eq_true_eq]
  exact ⟨Char.le_trans (by decide) hd.1, hd.2⟩

/-- A digit from 1 to 9 starts no other value than a number. -/
private theorem nonzero_ne (hd : '1' ≤ d ∧ d ≤ '9') :
    d ≠ '"' ∧ d ≠ '{' ∧ d ≠ '[' ∧ d ≠ 'n' ∧ d ≠ 't' ∧ d ≠ 'f' ∧ d ≠ 'N' ∧ d ≠ 'I' ∧ d ≠ '-' := by
  refine ⟨?_, ?_, ?_, ?_, ?_, ?_, ?_, ?_, ?_⟩ <;> (rintro rfl; revert hd; decide)

/-- A text of digits without a leading zero is one integer numeral, up to its end. -/
theorem numeralEnd_of_digits (hd : '1' ≤ d ∧ d ≤ '9') (hds : ∀ c ∈ ds, isDigit c = true) :
    numeralEnd ((d :: ds).map Text.Symbol.char).toArray 0 = some (ds.length + 1, false) := by
  have hEnd : skipDigits ((d :: ds).map Text.Symbol.char).toArray 1 = ds.length + 1 := by
    rw [skipDigits_of_digits _ 1 (by simp) fun j hj hLt => ?_]
    · simp
    obtain ⟨k, rfl⟩ : ∃ k, j = k + 1 := ⟨j - 1, by omega⟩
    have hk : k < ds.length := by simpa using hLt
    rw [charAt?_ofChars, List.getElem?_cons_succ, List.getElem?_eq_getElem hk]
    exact hds _ (List.getElem_mem hk)
  have hAt : charAtD ((d :: ds).map Text.Symbol.char).toArray 0 = d := by
    rw [charAtD, charAt?_head]
    rfl
  unfold numeralEnd
  simp only [hAt, if_neg (nonzero_ne hd).2.2.2.2.2.2.2.2, hd, decide_true, Bool.and_self, if_true,
    hEnd]
  simp

theorem scanNumber_of_digits (hd : '1' ≤ d ∧ d ≤ '9') (hds : ∀ c ∈ ds, isDigit c = true)
    (hLong : IntegerText.maxDigits < ds.length + 1) :
    scanNumber ((d :: ds).map Text.Symbol.char).toArray 0 =
      some (.error (.tooManyDigits (ds.length + 1))) := by
  have hChars : charsBetween ((d :: ds).map Text.Symbol.char).toArray 0 (ds.length + 1) =
      d :: ds := by
    rw [charsBetween, slice, List.toList_toArray, List.drop_zero,
      List.take_of_length_le (by simp), List.filterMap_map]
    exact List.filterMap_some
  have hDigits : (d :: ds).filter isDigit = d :: ds :=
    List.filter_eq_self.mpr fun c hc => by
      rcases List.mem_cons.mp hc with rfl | hc
      · exact isDigit_of_nonzero hd
      · exact hds c hc
  rw [scanNumber, numeralEnd_of_digits hd hds, Option.map_some]
  simp only [hChars, hDigits, if_pos hLong, List.length_cons, Bool.false_eq_true, if_false]

theorem scanValue_of_digits (hd : '1' ≤ d ∧ d ≤ '9') (hds : ∀ c ∈ ds, isDigit c = true)
    (hLong : IntegerText.maxDigits < ds.length + 1) (room fuel : Nat) :
    scanValue ((d :: ds).map Text.Symbol.char).toArray room (fuel + 1) 0 =
      .error (.tooManyDigits (ds.length + 1)) := by
  obtain ⟨hQuote, hBrace, hBracket, hn, ht, hf, hN, hI, hMinus⟩ := nonzero_ne hd
  rw [scanValue, charAt?_head]
  simp (disch := simp [hQuote, hBrace, hBracket]) only [hn, ht, hf, hN, hI, hMinus, decide_false,
    Bool.false_and, Bool.false_eq_true, if_false, scanNumber_of_digits hd hds hLong]

/-- **A numeral too long to convert.** A text that is an integer numeral of more digits than a
conversion takes is refused for its length, not as text that is no JSON. -/
theorem parse_of_long_numeral (hd : '1' ≤ d ∧ d ≤ '9') (hds : ∀ c ∈ ds, isDigit c = true)
    (hLong : IntegerText.maxDigits < ds.length + 1) :
    parse (String.ofList (d :: ds)) = .error (.tooManyDigits (ds.length + 1)) := by
  -- the text is plain, so its symbols are its characters
  have hPlain : ∀ c ∈ d :: ds, c ≠ Text.marker := by
    rintro c hc rfl
    rcases List.mem_cons.mp hc with hc | hc
    · exact absurd (hc ▸ hd) (by decide)
    · exact absurd (hds _ hc) (by decide)
  have hSymbols : Text.symbols (String.ofList (d :: ds)) = (d :: ds).map Text.Symbol.char := by
    rw [Text.symbols, String.toList_ofList, Text.decode_of_forall_ne_marker hPlain]
  have hMark : d ≠ '\uFEFF' := by
    rintro rfl
    exact absurd hd (by decide)
  have hBlanks : skipBlanks ((d :: ds).map Text.Symbol.char).toArray 0 = 0 := by
    have hNotBlank : isBlank d = false := by
      rw [Bool.eq_false_iff]
      intro h
      simp only [isBlank, Bool.or_eq_true, decide_eq_true_eq] at h
      rcases h with ((rfl | rfl) | rfl) | rfl <;> exact absurd hd (by decide)
    rw [skipBlanks, if_pos (by simp), charAt?_head]
    simp [hNotBlank]
  unfold parse
  simp only [hSymbols]
  rw [if_neg (by rw [charAt?_head]; simpa using hMark), hBlanks,
    show ∀ n, 4 * n + 8 = (4 * n + 7) + 1 from fun _ => rfl, scanValue_of_digits hd hds hLong]

end LongNumerals

end Json

/-- A row whose geometry is an integer numeral too long to convert fails as a bad value, which
is no malformed geometry. -/
theorem GeometryRow.parse_of_long_numeral {row : GeometryRow} {d : Char} {ds : List Char}
    (hText : row.geometry = String.ofList (d :: ds)) (hd : '1' ≤ d ∧ d ≤ '9')
    (hds : ∀ c ∈ ds, Json.isDigit c = true) (hLong : IntegerText.maxDigits < ds.length + 1) :
    row.parse = .error ⟨.badValue, (Json.ReadError.tooManyDigits (ds.length + 1)).message ""⟩ := by
  rw [GeometryRow.parse, hText, Json.parse_of_long_numeral hd hds hLong]

namespace Service

open Http Survey Gather

section Geometries

variable (b : Backend) (flat : Bool) {ids : String} {roadIds : List String}

/-- Two runs that end with the same calls are equal exactly when their answers are. -/
theorem ok_run_eq_iff {r r' : Response} {cs : List Call} :
    @Eq (Id (Except Response Response × List Call)) (.ok r, cs) (.ok r', cs) ↔ r = r' := by
  constructor
  · intro h
    exact Except.ok.inj (Prod.mk.inj h).1
  · rintro rfl
    rfl

/-- The endpoint answers from the outcome of the gathering, after one call for the road ids. -/
theorem geometries_run (hIds : PathParam.roadIds ids = .ok roadIds)
    (hUp : "get_field_geometries" ∉ b.failing) (calls : List Call) :
    (geometries b flat ids).run.run calls =
      (.ok (match (if flat then flatCollection b.fieldGeometries
          else groupedCollections b.fieldGeometries) with
        | .ok j => Response.json 200 j.finiteOnly
        | .error f => if f.kind = .malformedGeometry then Response.detail 400 f.message
          else Response.internalError),
        calls ++ [.fieldGeometries roadIds]) := by
  have hNot : b.failing.contains "get_field_geometries" = false := by simpa using hUp
  simp only [geometries, accept, hIds, Backend.getFieldGeometries, Backend.call, Call.name, hNot]
  simp only [pure_bind, bind_assoc, Bool.false_eq_true, if_false]
  -- both sides now branch on the same outcome of the gathering
  cases (if flat then flatCollection b.fieldGeometries
      else groupedCollections b.fieldGeometries) with
  | ok j => rfl
  | error f => rfl

/-- When the gathering succeeds, the endpoint answers with its result, non-finite doubles as
`null`. -/
theorem geometries_run_of_ok (hIds : PathParam.roadIds ids = .ok roadIds)
    (hUp : "get_field_geometries" ∉ b.failing) (calls : List Call) {j : Json}
    (h : (if flat then flatCollection b.fieldGeometries
      else groupedCollections b.fieldGeometries) = .ok j) :
    (geometries b flat ids).run.run calls =
      (.ok (Response.json 200 j.finiteOnly), calls ++ [.fieldGeometries roadIds]) := by
  rw [geometries_run b flat hIds hUp calls, h]

/-- When the gathering fails, the endpoint refuses a malformed geometry with 400 and its
message, and answers any other failure as an internal error. -/
theorem geometries_run_of_error (hIds : PathParam.roadIds ids = .ok roadIds)
    (hUp : "get_field_geometries" ∉ b.failing) (calls : List Call) {e : Failure}
    (h : (if flat then flatCollection b.fieldGeometries
      else groupedCollections b.fieldGeometries) = .error e) :
    (geometries b flat ids).run.run calls =
      (.ok (if e.kind = .malformedGeometry then Response.detail 400 e.message
        else Response.internalError), calls ++ [.fieldGeometries roadIds]) := by
  rw [geometries_run b flat hIds hUp calls, h]

end Geometries

/-- **What the survey geometry endpoints answer.** For road ids the path accepts and rows the
backend returns, the endpoint makes one call with the ids. When every row parses, it answers
with the gathered result (grouped, or flat in row order) with every non-finite double written as
`null`: 200 when that can be sent as UTF-8, which holds exactly when the result itself can, and
an internal error otherwise. The body is the result itself exactly when the result holds no
non-finite double. Otherwise it answers for the first failing row, in grouped order or in row
order: 400 with the message of a malformed geometry, and an internal error for any other
failure. -/
theorem geometries_answer :
    (∀ (b : Backend) (flat : Bool) (ids : String) (roadIds : List String) (calls : List Call)
        (geom : GeometryRow → Json),
      PathParam.roadIds ids = .ok roadIds → "get_field_geometries" ∉ b.failing →
      (∀ x ∈ b.fieldGeometries, x.parse = .ok (geom x)) →
      (geometries b flat ids).run.run calls =
        (.ok (Response.json 200 (if flat then collection (b.fieldGeometries.map (flatFeature geom))
          else groupedLayout b.fieldGeometries geom).finiteOnly),
          calls ++ [.fieldGeometries roadIds])) ∧
    (∀ (b : Backend) (flat : Bool) (ids : String) (roadIds : List String) (calls : List Call)
        (e : Failure),
      PathParam.roadIds ids = .ok roadIds → "get_field_geometries" ∉ b.failing →
      FirstFailure GeometryRow.parse
        (if flat then b.fieldGeometries else groupedRows b.fieldGeometries) e →
      (geometries b flat ids).run.run calls =
        (.ok (if e.kind = .malformedGeometry then Response.detail 400 e.message
          else Response.internalError), calls ++ [.fieldGeometries roadIds])) ∧
    (∀ j : Json, j.finiteOnly = j ↔ j.hasNonFinite = false) ∧
    (∀ j : Json, j.finiteOnly.encodable = j.encodable) := by
  refine ⟨?_, ?_, Json.finiteOnly_eq_self_iff, Json.encodable_finiteOnly⟩
  · intro b flat ids roadIds calls geom hIds hUp hParse
    apply geometries_run_of_ok b flat hIds hUp calls
    cases flat
    · exact groupedCollections_of_parse _ geom hParse
    · exact flatCollection_of_parse _ geom hParse
  · intro b flat ids roadIds calls e hIds hUp hFirst
    apply geometries_run_of_error b flat hIds hUp calls
    cases flat
    · exact (groupedCollections_eq_error_iff _ e).mpr hFirst
    · exact (flatCollection_eq_error_iff _ e).mpr hFirst

/-- The path `A` names the one road `A`. -/
private theorem roadIds_A : PathParam.roadIds "A" = .ok ["A"] := by
  have hSplit : "A".splitOn "," = ["A"] := by
    unfold String.splitOn
    rw [if_neg (by decide), String.splitOnAux.eq_1, if_neg (by decide +kernel),
      if_neg (by decide +kernel), String.splitOnAux.eq_1, if_pos (by decide +kernel)]
    decide +kernel
  have hStrip : Text.strip "A" = "A" := by decide +kernel
  simp [PathParam.roadIds, PathParam.items, hSplit, hStrip]

/-- **When the endpoint answers as documented.** For road ids the path accepts and rows the
backend returns, the endpoint answers 200 with the gathered result itself, or 400 with the
message of the first failing row when that row's geometry was malformed, exactly when the result
holds no non-finite double and can be sent as UTF-8, or the first failure is a malformed geometry
whose message can be sent. A non-finite double is sent as `null`, a text that cannot be sent and
every other failure of the reader are answered as an internal error. -/
theorem geometries_documented_iff (b : Backend) (flat : Bool) {ids : String}
    {roadIds : List String} (hIds : PathParam.roadIds ids = .ok roadIds)
    (hUp : "get_field_geometries" ∉ b.failing) (calls : List Call) :
    ((∃ j, (if flat then flatCollection b.fieldGeometries
          else groupedCollections b.fieldGeometries) = .ok j ∧
        (geometries b flat ids).run.run calls =
          (.ok ⟨200, "application/json", [], .json j⟩, calls ++ [.fieldGeometries roadIds])) ∨
      (∃ e, (if flat then flatCollection b.fieldGeometries
          else groupedCollections b.fieldGeometries) = .error e ∧
        e.kind = .malformedGeometry ∧
        (geometries b flat ids).run.run calls =
          (.ok ⟨400, "application/json", [], .json (.obj [("detail", .str e.message)])⟩,
            calls ++ [.fieldGeometries roadIds]))) ↔
    ((∃ j, (if flat then flatCollection b.fieldGeometries
          else groupedCollections b.fieldGeometries) = .ok j ∧
        j.hasNonFinite = false ∧ j.encodable = true) ∨
      (∃ e, (if flat then flatCollection b.fieldGeometries
          else groupedCollections b.fieldGeometries) = .error e ∧
        e.kind = .malformedGeometry ∧ (Json.obj [("detail", .str e.message)]).encodable = true)) := by
  rw [geometries_run b flat hIds hUp calls]
  cases hG : (if flat then flatCollection b.fieldGeometries
      else groupedCollections b.fieldGeometries) with
  | ok j =>
    -- the result is sent with its non-finite doubles as `null`
    simp only [Except.ok.injEq, reduceCtorEq, false_and, exists_false, or_false, exists_eq_left',
      ok_run_eq_iff]
    rw [← Json.finiteOnly_eq_self_iff, ← Json.encodable_finiteOnly, Response.json]
    by_cases hEnc : j.finiteOnly.encodable = true
    · simp [hEnc]
    · simp [hEnc, Response.internalError]
  | error e =>
    simp only [reduceCtorEq, false_and, exists_false, false_or, Except.error.injEq,
      exists_eq_left', ok_run_eq_iff]
    by_cases hKind : e.kind = .malformedGeometry
    · -- a malformed geometry is answered with its message, when that can be sent
      rw [if_pos hKind, Response.detail, Response.json]
      by_cases hEnc : (Json.obj [("detail", .str e.message)]).encodable = true
      · simp [hKind, hEnc]
      · simp [hKind, hEnc, Response.internalError]
    · simp [hKind]

/-- The point `[1, 0]` of road `A` is answered as documented: 200 with the grouped result. -/
theorem geometries_point_as_documented :
    let row : GeometryRow := ⟨"A", .roadLabPro, "\x7b\"type\":\"Point\",\"coordinates\":[1,0]\x7d"⟩
    let b : Backend := ⟨[row], [], ⟨[], [], []⟩, none, none, []⟩
    PathParam.roadIds "A" = .ok ["A"] ∧ "get_field_geometries" ∉ b.failing ∧
      ∃ j, groupedCollections [row] = .ok j ∧
        (geometries b false "A").run.run [] =
          (.ok ⟨200, "application/json", [], .json j⟩, [.fieldGeometries ["A"]]) := by
  intro row b
  -- the row parses, and its result holds whole numbers only
  have hSome : (groupedCollections [row]).toOption.isSome = true := by decide +kernel
  obtain ⟨J, hJ⟩ : ∃ J, groupedCollections [row] = .ok J := by
    cases hGrouped : groupedCollections [row] with
    | ok J => exact ⟨J, rfl⟩
    | error e => rw [hGrouped] at hSome; cases hSome
  have hFinite : (groupedCollections [row]).toOption.map Json.hasNonFinite = some false := by
    decide +kernel
  have hText : (groupedCollections [row]).toOption.map Json.encodable = some true := by
    decide +kernel
  simp only [hJ, Except.toOption, Option.map_some, Option.some.injEq] at hFinite hText
  refine ⟨roadIds_A, by decide, ?_⟩
  rcases (geometries_documented_iff b false roadIds_A (by decide) []).mpr
      (Or.inl ⟨J, hJ, hFinite, hText⟩) with ⟨j, hj, hRun⟩ | ⟨e, he, -, -⟩
  · exact ⟨j, hj, hRun⟩
  · -- the gathering succeeded, so it did not fail
    exact absurd (hJ.symm.trans he) (by simp)

/-- **A numeral too long to convert is answered as an internal error.** The geometry of the one
row of road `A` is `1` followed by 4300 zeros, one digit more than a conversion takes. The reader
refuses it for its length, which is no malformed geometry, so the endpoint answers an internal
error where a malformed geometry is answered 400. -/
theorem geometries_long_numeral_internal_error :
    let row : GeometryRow := ⟨"A", .roadLabPro, String.ofList ('1' :: List.replicate 4300 '0')⟩
    let b : Backend := ⟨[row], [], ⟨[], [], []⟩, none, none, []⟩
    (geometries b false "A").run.run [] = (.ok Response.internalError, [.fieldGeometries ["A"]]) := by
  intro row b
  have hParse := @GeometryRow.parse_of_long_numeral row '1' (List.replicate 4300 '0') rfl
    (by decide) (fun c hc => by rw [List.eq_of_mem_replicate hc]; rfl)
    (by rw [List.length_replicate]; decide)
  have hFirst : FirstFailure GeometryRow.parse (groupedRows [row]) _ :=
    ⟨[], row, [], rfl, by simp, hParse⟩
  rw [geometries_run_of_error b false roadIds_A (by decide) []
    ((groupedCollections_eq_error_iff _ _).mpr hFirst)]
  rfl

end Service

end RoadAtlas
