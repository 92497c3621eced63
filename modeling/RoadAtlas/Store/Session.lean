import RoadAtlas.Store.Client

/-!
# Sessions with the store

The service calls the store one operation after another. The four queries read the store and
leave it as it was. Opening a changeset runs in one transaction: when it succeeds the store is
the one the call leaves, and when it fails the transaction is rolled back and the store is the
one before the call.

## Main definitions

* `Store.Operation`, `Store.Answer`: the calls of the client and what they answer.
* `Database.perform`: one call, its answer and the store after it.
* `Database.run`: calls one after another, their answers and the last store.
-/

namespace RoadAtlas

namespace Store

/-- A call of the client. -/
inductive Operation where
  | fieldGeometries (roadIds : List Cell)
  | existingRoadIds (roadIds : List Cell)
  | ways (wayIds : List Cell)
  | wayIdByTagValue (value : Cell)
  | createChangeset (request : ChangesetRequest) (now : String)

/-- What a call answers. -/
inductive Answer where
  | geometries (rows : List GeometryRow)
  | roadIds (ids : List String)
  | ways (set : WaySet)
  | wayId (id : Cell)
  | changeset (id : Int)

/-- The id of the changeset an answer opened, if it opened one. -/
def Answer.changesetId? : Except Failure Answer → Option Int
  | .ok (.changeset id) => some id
  | _ => none

namespace Database

/-- One call, its answer and the store after it: a query leaves the store as it was, and a
failed transaction is rolled back. -/
def perform (db : Database) : Operation → Except Failure Answer × Database
  | .fieldGeometries ids => ((db.fieldGeometries ids).map .geometries, db)
  | .existingRoadIds ids => ((db.existingRoadIds ids).map .roadIds, db)
  | .ways ids => ((db.ways ids).map .ways, db)
  | .wayIdByTagValue v => (.ok (.wayId (db.wayIdByTagValue v)), db)
  | .createChangeset r now =>
    match db.createChangeset r now with
    | .ok (id, next) => (.ok (.changeset id), next)
    | .error f => (.error f, db)

/-- Calls one after another, each on the store the one before left. -/
def run (db : Database) : List Operation → List (Except Failure Answer) × Database
  | [] => ([], db)
  | op :: rest =>
    let step := db.perform op
    let after := step.2.run rest
    (step.1 :: after.1, after.2)

@[simp] theorem run_nil (db : Database) : db.run [] = ([], db) := rfl

@[simp] theorem run_cons (db : Database) (op : Operation) (rest : List Operation) :
    db.run (op :: rest) =
      ((db.perform op).1 :: ((db.perform op).2.run rest).1, ((db.perform op).2.run rest).2) :=
  rfl

/-- A call leaves the store as it was, unless it opened a changeset: then the answer is the
changeset's id and the store the one the transaction left. -/
theorem perform_cases (db : Database) (op : Operation) :
    (db.perform op).2 = db ∧ Answer.changesetId? (db.perform op).1 = none ∨
      ∃ r now c, op = .createChangeset r now ∧
        db.createChangeset r now = .ok (c, (db.perform op).2) ∧
        Answer.changesetId? (db.perform op).1 = some c := by
  cases op with
  | fieldGeometries ids =>
    refine .inl ⟨rfl, ?_⟩
    show Answer.changesetId? ((db.fieldGeometries ids).map .geometries) = none
    cases db.fieldGeometries ids <;> rfl
  | existingRoadIds ids =>
    refine .inl ⟨rfl, ?_⟩
    show Answer.changesetId? ((db.existingRoadIds ids).map .roadIds) = none
    cases db.existingRoadIds ids <;> rfl
  | ways ids =>
    refine .inl ⟨rfl, ?_⟩
    show Answer.changesetId? ((db.ways ids).map .ways) = none
    cases db.ways ids <;> rfl
  | wayIdByTagValue v => exact .inl ⟨rfl, rfl⟩
  | createChangeset r now =>
    cases h : db.createChangeset r now with
    | error f =>
      refine .inl ⟨?_, ?_⟩
      · simp [perform, h]
      · simp [perform, h, Answer.changesetId?]
    | ok result =>
      obtain ⟨c, next⟩ := result
      refine .inr ⟨r, now, c, rfl, ?_, ?_⟩
      · simp [perform, h]
      · simp [perform, h, Answer.changesetId?]

/-- A call that fails leaves the store as it was. -/
theorem perform_snd_of_error {db : Database} {op : Operation} {f : Failure}
    (h : (db.perform op).1 = .error f) : (db.perform op).2 = db := by
  rcases perform_cases db op with ⟨hSame, -⟩ | ⟨r, now, c, -, -, hSome⟩
  · exact hSame
  · rw [h] at hSome
    cases hSome

end Database

end Store

end RoadAtlas
