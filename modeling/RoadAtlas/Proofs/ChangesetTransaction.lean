import RoadAtlas.Store.Session
import RoadAtlas.Proofs.StoreInsert
import RoadAtlas.Proofs.XmlText

/-!
# Opening a changeset is one transaction

Opening a changeset for a request (a user id, a user name and tags) makes three kinds of rows:
a row for the user when no user has the id, a changeset row under the next key, and one tag row
per tag of the request, in order. We cut the call in two stages, the user (`addUser`) and the
changeset with its tags (`addChangeset`), give each stage its exact result, and from those
read off what the call does:

* it succeeds exactly when the request `Opens` on the store: the id fits a cell, the texts to
  store have UTF-8 forms, and no trigger stands in the way of a row it inserts;
* on success the store is the old store with exactly those rows added, and nothing else;
* on failure the session keeps the store as it was.

Over a whole session of calls, user ids stay unique and every changeset keeps naming a user of
the store (`Consistent`), every tag row written names a changeset of the store, and the
changeset ids answered are strictly increasing.

## Main definitions

* `Store.userRow`, `Store.changesetRow`, `Store.tagRow`: the rows a changeset adds.
* `Database.withUser`, `Database.withChangeset`: the store with them added.
* `Database.Opens`: when a request can be opened.
* `Database.Consistent`: what a session keeps.

## Main results

* `createChangeset_eq_ok_iff`: the exact result of opening a changeset.
* `run_consistent`, `run_changesetTags`, `run_changesetIds_increasing`: what a session keeps.
* `createChangeset_transaction`: all of it.
-/

namespace RoadAtlas.Store

open Gather

/-- The row of the user that a changeset adds for its request: the id, the name, an address
at `openroads.org`, a password hash of 32 zeros, public data, created `now`. -/
def userRow (r : ChangesetRequest) (now : String) : Row :=
  [.int r.uid, .text r.user, .text (toString r.uid ++ "@openroads.org"),
    .text (String.ofList (List.replicate 32 '0')), .int 1, .text now]

/-- The row of changeset `c` of user `uid`, opened and closed at `now`, with no changes. -/
def changesetRow (c uid : Int) (now : String) : Row :=
  [.int c, .int uid, .text now, .text now, .int 0]

/-- The row of a tag of changeset `c`. -/
def tagRow (c : Int) (tag : String × String) : Row :=
  [.int c, .text tag.1, .text tag.2]

namespace Database

variable {db db' : Database} {r : ChangesetRequest} {now : String} {c : Int}

/-! ## The two stages -/

/-- The first stage of opening a changeset: its user added when no user has the id. -/
def addUser (db : Database) (r : ChangesetRequest) (now : String) : Except Failure Database :=
  if (db.byKey .users (.int r.uid)).isSome then .ok db
  else do
    Text.checkUtf8 r.user
    let added ← db.insert .users (userRow r now)
    pure (added.getD db)

/-- The second stage: the changeset under the next key, then its tags. -/
def addChangeset (db : Database) (r : ChangesetRequest) (now : String) :
    Except Failure (Int × Database) := do
  match ← db.insert .changesets [.null, .int r.uid, .text now, .text now, .int 0] with
  | none => throw (notCreated r.uid)
  | some withChangeset =>
    let done ← insertTags withChangeset (db.nextKey .changesets) r.tags
    pure (db.nextKey .changesets, done)

theorem createChangeset_eq (db : Database) (r : ChangesetRequest) (now : String) :
    db.createChangeset r now =
      if r.uid < Cell.minInt ∨ Cell.maxInt < r.uid then .error Cell.tooLarge
      else db.addUser r now >>= fun w => w.addChangeset r now := by
  unfold createChangeset addUser
  by_cases hRange : r.uid < Cell.minInt ∨ Cell.maxInt < r.uid
  · rw [if_pos hRange, if_pos hRange]
    rfl
  · rw [if_neg hRange, if_neg hRange]
    by_cases hPresent : (db.byKey .users (.int r.uid)).isSome = true
    · rw [if_pos hPresent, if_pos hPresent]
      rfl
    · rw [if_neg hPresent, if_neg hPresent]
      simp only [bind_assoc, pure_bind]
      rfl

/-! ## Storing the rows -/

theorem conform_userRow : Row.conform .users (userRow r now) = userRow r now := by
  simp [Row.conform, userRow, Table.columns, Table.affinity, Cell.withAffinity]

theorem conform_changesetRequestRow (uid : Int) :
    Row.conform .changesets [.null, .int uid, .text now, .text now, .int 0] =
      [.null, .int uid, .text now, .text now, .int 0] := by
  simp [Row.conform, Table.columns, Table.affinity, Cell.withAffinity]

theorem conform_tagRow (tag : String × String) :
    Row.conform .changesetTags (tagRow c tag) = tagRow c tag := by
  simp [Row.conform, tagRow, Table.columns, Table.affinity, Cell.withAffinity]

/-- The user row of a request whose id no user has is placed by that id. -/
theorem put_userRow (hAbsent : db.byKey .users (.int r.uid) = none) :
    db.put .users (userRow r now) =
      .ok (db.update .users (placeByKey r.uid (userRow r now) (db.rows .users))) := by
  have hHead : (Row.conform .users (userRow r now)).head? = some (.int r.uid) := by
    rw [conform_userRow]
    rfl
  rw [put_of_fresh_key rfl hHead ((byKey_int_eq_none_iff r.uid).mp hAbsent), conform_userRow]
  rfl

/-- A changeset row gets the next key. -/
theorem put_changesetRow (uid : Int) :
    db.put .changesets [.null, .int uid, .text now, .text now, .int 0] =
      .ok (db.update .changesets (placeByKey (db.nextKey .changesets)
        (changesetRow (db.nextKey .changesets) uid now) (db.rows .changesets))) := by
  have hHead : (Row.conform .changesets [.null, .int uid, .text now, .text now, .int 0]).head? =
      some .null := by
    rw [conform_changesetRequestRow]
    rfl
  rw [put_of_null_key rfl hHead, conform_changesetRequestRow]
  rfl

theorem put_tagRow (tag : String × String) :
    db.put .changesetTags (tagRow c tag) =
      .ok (db.update .changesetTags (db.rows .changesetTags ++ [tagRow c tag])) := by
  rw [put_of_unkeyed _ rfl, conform_tagRow]

/-! ## The user -/

/-- The store with the user of a request, added unless a user has its id. -/
def withUser (db : Database) (r : ChangesetRequest) (now : String) : Database :=
  if (db.byKey .users (.int r.uid)).isSome then db
  else db.update .users (placeByKey r.uid (userRow r now) (db.rows .users))

@[simp] theorem withUser_triggers : (db.withUser r now).triggers = db.triggers := by
  unfold withUser
  split <;> rfl

theorem withUser_rows_of_ne {t : Table} (h : t ≠ .users) :
    (db.withUser r now).rows t = db.rows t := by
  unfold withUser
  split
  · rfl
  · exact rows_update_other db .users t _ h

/-- The user stage succeeds, with the user added when it is missing, exactly when a missing
user can be stored: its name has a UTF-8 form and no trigger refuses users. -/
theorem addUser_eq_ok_iff (w : Database) :
    db.addUser r now = .ok w ↔
      (db.byKey .users (.int r.uid) = none →
        Text.hasSurrogate r.user = false ∧ Trigger.abortUsers ∉ db.triggers) ∧
      w = db.withUser r now := by
  unfold addUser withUser
  by_cases hPresent : (db.byKey .users (.int r.uid)).isSome = true
  · have hSome : db.byKey .users (.int r.uid) ≠ none := Option.isSome_iff_ne_none.mp hPresent
    rw [if_pos hPresent, if_pos hPresent]
    constructor
    · intro h
      cases h
      exact ⟨fun hNone => absurd hNone hSome, rfl⟩
    · rintro ⟨-, rfl⟩
      rfl
  · have hNone : db.byKey .users (.int r.uid) = none := Option.not_isSome_iff_eq_none.mp hPresent
    rw [if_neg hPresent, if_neg hPresent]
    simp only [bind_eq_ok_iff, insert_users, hNone, forall_const]
    constructor
    · rintro ⟨⟨⟩, hCheck, added, hInsert, hPure⟩
      by_cases hAbort : Trigger.abortUsers ∈ db.triggers
      · rw [if_pos hAbort] at hInsert
        cases hInsert
      · rw [if_neg hAbort, put_userRow hNone] at hInsert
        cases hInsert
        cases hPure
        exact ⟨⟨(Text.checkUtf8_eq_ok_iff_hasSurrogate _).mp hCheck, hAbort⟩, rfl⟩
    · rintro ⟨⟨hUtf, hAbort⟩, rfl⟩
      refine ⟨(), (Text.checkUtf8_eq_ok_iff_hasSurrogate _).mpr hUtf, some _, ?_, rfl⟩
      rw [if_neg hAbort, put_userRow hNone]
      rfl

/-! ## The changeset and its tags -/

/-- The tags of a request can be stored: each text has a UTF-8 form and, when there is a tag,
no trigger refuses tags. -/
def TagsFit (triggers : List Trigger) (tags : List (String × String)) : Prop :=
  (∀ tag ∈ tags, Text.hasSurrogate tag.1 = false ∧ Text.hasSurrogate tag.2 = false) ∧
    (tags ≠ [] → Trigger.abortChangesetTags ∉ triggers)

/-- Tags are stored, in order, exactly when they fit. -/
theorem insertTags_eq_ok_iff (tags : List (String × String)) (db' : Database) :
    insertTags db c tags = .ok db' ↔
      TagsFit db.triggers tags ∧
        db' = db.update .changesetTags (db.rows .changesetTags ++ tags.map (tagRow c)) := by
  -- Each tag is checked and stored on the store the tags before it left, whose triggers are
  -- those of `db`.
  induction tags generalizing db with
  | nil =>
    have hFit : TagsFit db.triggers [] :=
      ⟨fun _ hTag => absurd hTag List.not_mem_nil, fun hNil => absurd rfl hNil⟩
    show Except.ok db = .ok db' ↔ _
    rw [List.map_nil, List.append_nil, update_self]
    constructor
    · intro h
      cases h
      exact ⟨hFit, rfl⟩
    · rintro ⟨-, rfl⟩
      rfl
  | cons tag rest ih =>
    obtain ⟨k, v⟩ := tag
    have hTagRow : ([.int c, .text k, .text v] : Row) = tagRow c (k, v) := rfl
    simp only [insertTags, bind_eq_ok_iff, hTagRow, insert_changesetTags]
    constructor
    · rintro ⟨⟨⟩, hK, ⟨⟩, hV, next, hInsert, hRest⟩
      by_cases hAbort : Trigger.abortChangesetTags ∈ db.triggers
      · rw [if_pos hAbort] at hInsert
        cases hInsert
      · rw [if_neg hAbort, put_tagRow] at hInsert
        cases hInsert
        obtain ⟨⟨hTexts, -⟩, rfl⟩ := ih.mp hRest
        refine ⟨⟨?_, fun _ => hAbort⟩, ?_⟩
        · intro tag hTag
          rcases List.mem_cons.mp hTag with rfl | hLater
          · exact ⟨(Text.checkUtf8_eq_ok_iff_hasSurrogate _).mp hK,
              (Text.checkUtf8_eq_ok_iff_hasSurrogate _).mp hV⟩
          · exact hTexts tag hLater
        · simp [rows_update_self]
    · rintro ⟨⟨hTexts, hAbort⟩, rfl⟩
      have hHere := hTexts (k, v) List.mem_cons_self
      have hNotAbort := hAbort (List.cons_ne_nil _ _)
      refine ⟨(), (Text.checkUtf8_eq_ok_iff_hasSurrogate _).mpr hHere.1,
        (), (Text.checkUtf8_eq_ok_iff_hasSurrogate _).mpr hHere.2,
        some (db.update .changesetTags (db.rows .changesetTags ++ [tagRow c (k, v)])), ?_, ?_⟩
      · rw [if_neg hNotAbort, put_tagRow]
        rfl
      · refine ih.mpr ⟨⟨fun tag hTag => hTexts tag (List.mem_cons_of_mem _ hTag), ?_⟩, ?_⟩
        · intro _
          exact hNotAbort
        · simp [rows_update_self]

/-- The store with changeset `c` of a request and its tags added. -/
def withChangeset (db : Database) (r : ChangesetRequest) (now : String) (c : Int) : Database :=
  (db.update .changesets (placeByKey c (changesetRow c r.uid now) (db.rows .changesets))).update
    .changesetTags (db.rows .changesetTags ++ r.tags.map (tagRow c))

/-- The changeset stage succeeds exactly when no trigger makes changesets do nothing and the
tags fit; the changeset then has the next key. -/
theorem addChangeset_eq_ok_iff (c : Int) (db' : Database) :
    db.addChangeset r now = .ok (c, db') ↔
      Trigger.rejectChangesets ∉ db.triggers ∧ TagsFit db.triggers r.tags ∧
        c = db.nextKey .changesets ∧ db' = db.withChangeset r now c := by
  unfold addChangeset
  rw [insert_changesets]
  by_cases hReject : Trigger.rejectChangesets ∈ db.triggers
  · rw [if_pos hReject]
    constructor
    · intro h
      cases h
    · rintro ⟨hNot, -⟩
      exact absurd hReject hNot
  · rw [if_neg hReject, put_changesetRow, bind_eq_ok_iff]
    constructor
    · rintro ⟨_, ⟨⟩, hRest⟩
      dsimp only at hRest
      obtain ⟨done, hTags, hPure⟩ := (bind_eq_ok_iff _ _ _).mp hRest
      cases hPure
      obtain ⟨hFit, rfl⟩ := (insertTags_eq_ok_iff _ _).mp hTags
      exact ⟨hReject, hFit, rfl, by simp [withChangeset, rows_update_other]⟩
    · rintro ⟨-, hFit, rfl, rfl⟩
      refine ⟨_, rfl, (bind_eq_ok_iff _ _ _).mpr ⟨db.withChangeset r now (db.nextKey .changesets), ?_, rfl⟩⟩
      exact (insertTags_eq_ok_iff _ _).mpr ⟨hFit, by simp [withChangeset, rows_update_other]⟩

/-! ## Opening a changeset -/

/-- When a changeset can be opened for a request: the user id fits a cell; a missing user has
a name with a UTF-8 form and no trigger refuses users; no trigger makes changesets do nothing;
and the tags fit. -/
structure Opens (db : Database) (r : ChangesetRequest) : Prop where
  uid_ge : Cell.minInt ≤ r.uid
  uid_le : r.uid ≤ Cell.maxInt
  user : db.byKey .users (.int r.uid) = none →
    Text.hasSurrogate r.user = false ∧ Trigger.abortUsers ∉ db.triggers
  changeset : Trigger.rejectChangesets ∉ db.triggers
  tags : TagsFit db.triggers r.tags

/-- **Opening a changeset**, exactly: it succeeds when the request opens on the store, with the
next key as the changeset's id, and the store is then the old one with the user added when it
was missing, the changeset and its tags. -/
theorem createChangeset_eq_ok_iff (c : Int) (db' : Database) :
    db.createChangeset r now = .ok (c, db') ↔
      Opens db r ∧ c = db.nextKey .changesets ∧ db' = (db.withUser r now).withChangeset r now c := by
  have hKey : (db.withUser r now).nextKey .changesets = db.nextKey .changesets :=
    nextKey_congr (withUser_rows_of_ne (by decide))
  rw [createChangeset_eq]
  by_cases hRange : r.uid < Cell.minInt ∨ Cell.maxInt < r.uid
  · rw [if_pos hRange]
    constructor
    · intro h
      cases h
    · rintro ⟨hOpens, -⟩
      have := hOpens.uid_ge
      have := hOpens.uid_le
      omega
  · rw [if_neg hRange, bind_eq_ok_iff]
    have hBounds : Cell.minInt ≤ r.uid ∧ r.uid ≤ Cell.maxInt := by omega
    constructor
    · rintro ⟨w, hUser, hChangeset⟩
      obtain ⟨hUserFits, rfl⟩ := (addUser_eq_ok_iff w).mp hUser
      obtain ⟨hReject, hFit, rfl, rfl⟩ := (addChangeset_eq_ok_iff c db').mp hChangeset
      rw [withUser_triggers] at hReject hFit
      exact ⟨⟨hBounds.1, hBounds.2, hUserFits, hReject, hFit⟩, hKey, rfl⟩
    · rintro ⟨hOpens, rfl, rfl⟩
      refine ⟨db.withUser r now, (addUser_eq_ok_iff _).mpr ⟨hOpens.user, rfl⟩, ?_⟩
      rw [addChangeset_eq_ok_iff, withUser_triggers, hKey]
      exact ⟨hOpens.changeset, hOpens.tags, rfl, rfl⟩

/-! ## What opening a changeset adds -/

/-- What opening changeset `c` for a request did to the store: the user row is added when no
user had the id, the changeset row and the tag rows are added, and nothing else changed. -/
structure Opened (db : Database) (r : ChangesetRequest) (now : String) (c : Int)
    (db' : Database) : Prop where
  key_eq : c = db.nextKey .changesets
  users : if (db.byKey .users (.int r.uid)).isSome then db'.rows .users = db.rows .users
    else Gains (db.rows .users) (db'.rows .users) (userRow r now)
  changesets : Gains (db.rows .changesets) (db'.rows .changesets) (changesetRow c r.uid now)
  changesetTags : db'.rows .changesetTags = db.rows .changesetTags ++ r.tags.map (tagRow c)
  others : ∀ t, t ≠ .users → t ≠ .changesets → t ≠ .changesetTags → db'.rows t = db.rows t
  triggers : db'.triggers = db.triggers

theorem withChangeset_rows_of_ne {t : Table} (hC : t ≠ .changesets) (hT : t ≠ .changesetTags) :
    (db.withChangeset r now c).rows t = db.rows t := by
  unfold withChangeset
  rw [rows_update_other _ _ _ _ hT, rows_update_other _ _ _ _ hC]

theorem opened_of_createChangeset {c : Int} {db' : Database}
    (h : db.createChangeset r now = .ok (c, db')) : Opened db r now c db' := by
  obtain ⟨-, rfl, rfl⟩ := (createChangeset_eq_ok_iff c db').mp h
  have hUsers : ((db.withUser r now).withChangeset r now (db.nextKey .changesets)).rows .users =
      (db.withUser r now).rows .users :=
    withChangeset_rows_of_ne (by decide) (by decide)
  refine ⟨rfl, ?_, ?_, ?_, ?_, ?_⟩
  · rw [hUsers]
    unfold withUser
    split
    · rfl
    · rw [rows_update_self]
      exact placeByKey_gains _ _ _
  · unfold withChangeset
    rw [rows_update_other _ _ _ _ (by decide), rows_update_self,
      withUser_rows_of_ne (by decide)]
    exact placeByKey_gains _ _ _
  · unfold withChangeset
    rw [rows_update_self, withUser_rows_of_ne (by decide)]
  · intro t hU hC hT
    rw [withChangeset_rows_of_ne hC hT, withUser_rows_of_ne hU]
  · simp [withChangeset]

namespace Opened

variable {c : Int} {db' : Database} (h : Opened db r now c db')
include h

/-- Opening a changeset only adds rows. -/
theorem rows_subset (t : Table) : ∀ x ∈ db.rows t, x ∈ db'.rows t := by
  intro x hx
  by_cases hU : t = .users
  · subst hU
    have hUsers := h.users
    split at hUsers
    · rw [hUsers]
      exact hx
    · exact hUsers.mem_of_mem hx
  by_cases hC : t = .changesets
  · subst hC
    exact h.changesets.mem_of_mem hx
  by_cases hT : t = .changesetTags
  · subst hT
    rw [h.changesetTags]
    exact List.mem_append_left _ hx
  · rw [h.others t hU hC hT]
    exact hx

/-- After a changeset is opened its user is a user of the store. -/
theorem user_isSome : (db'.byKey .users (.int r.uid)).isSome := by
  have hUsers := h.users
  split at hUsers
  · rwa [byKey_congr hUsers]
  · refine (byKey_isSome_iff _).mpr ⟨r.uid, rfl, userRow r now, ?_, rfl⟩
    exact (hUsers.mem_iff _).mpr (.inl rfl)

/-- The changeset took the next key, so the next key is one above it. -/
theorem nextKey_eq : db'.nextKey .changesets = c + 1 := by
  have hKey : (changesetRow c r.uid now).key = some (db.nextKey .changesets) := by
    rw [← h.key_eq]
    rfl
  rw [nextKey_of_gains h.changesets hKey, h.key_eq]

/-- The tag rows name the changeset, which is in the store. -/
theorem tags_name_changeset :
    ∀ row ∈ r.tags.map (tagRow c),
      (db'.byKey .changesets (row.cell .changesetTags "changeset_id")).isSome := by
  intro row hRow
  obtain ⟨tag, -, rfl⟩ := List.mem_map.mp hRow
  refine (byKey_isSome_iff _).mpr ⟨c, rfl, changesetRow c r.uid now, ?_, rfl⟩
  exact (h.changesets.mem_iff _).mpr (.inl rfl)

end Opened

/-! ## Sessions -/

/-- What every session keeps: user ids are unique, and every changeset names a user of the
store. -/
structure Consistent (db : Database) : Prop where
  users_nodup : ((db.rows .users).filterMap Row.key).Nodup
  changesets_name_users : ∀ row ∈ db.rows .changesets,
    (db.byKey .users (row.cell .changesets "user_id")).isSome

theorem Opened.consistent {c : Int} {db' : Database} (h : Opened db r now c db')
    (hc : Consistent db) : Consistent db' := by
  constructor
  · have hUsers := h.users
    split at hUsers
    · rw [hUsers]
      exact hc.users_nodup
    · rename_i hAbsent
      have hFresh : r.uid ∉ (db.rows .users).filterMap Row.key := by
        intro hMem
        obtain ⟨row, hRow, hKey⟩ := List.mem_filterMap.mp hMem
        exact hAbsent ((byKey_isSome_iff _).mpr ⟨r.uid, rfl, row, hRow, hKey⟩)
      rw [hUsers.keys_perm.nodup_iff]
      exact List.nodup_cons.mpr ⟨hFresh, hc.users_nodup⟩
  · intro row hRow
    rcases (h.changesets.mem_iff row).mp hRow with rfl | hOld
    · exact h.user_isSome
    · exact byKey_isSome_of_subset (h.rows_subset .users) (hc.changesets_name_users row hOld)

theorem perform_consistent (hc : Consistent db) (op : Operation) :
    Consistent (db.perform op).2 := by
  rcases perform_cases db op with ⟨hSame, -⟩ | ⟨r, now, c, -, hOk, -⟩
  · rw [hSame]
    exact hc
  · exact (opened_of_createChangeset hOk).consistent hc

theorem perform_rows_subset (op : Operation) (t : Table) :
    ∀ x ∈ db.rows t, x ∈ (db.perform op).2.rows t := by
  rcases perform_cases db op with ⟨hSame, -⟩ | ⟨r, now, c, -, hOk, -⟩
  · rw [hSame]
    exact fun _ hx => hx
  · exact (opened_of_createChangeset hOk).rows_subset t

/-- A session that starts consistent stays consistent. -/
theorem run_consistent (hc : Consistent db) (ops : List Operation) :
    Consistent (db.run ops).2 := by
  induction ops generalizing db with
  | nil => exact hc
  | cons op rest ih => exact ih (perform_consistent hc op)

/-- A session only adds rows. -/
theorem run_rows_subset (ops : List Operation) (t : Table) :
    ∀ x ∈ db.rows t, x ∈ (db.run ops).2.rows t := by
  induction ops generalizing db with
  | nil => exact fun _ hx => hx
  | cons op rest ih => exact fun x hx => ih x (perform_rows_subset op t x hx)

/-- The tag rows a session writes come after the old ones, and each names a changeset of the
store it leaves. -/
theorem run_changesetTags (db : Database) (ops : List Operation) :
    ∃ written, (db.run ops).2.rows .changesetTags = db.rows .changesetTags ++ written ∧
      ∀ row ∈ written,
        ((db.run ops).2.byKey .changesets (row.cell .changesetTags "changeset_id")).isSome := by
  induction ops generalizing db with
  | nil => exact ⟨[], by simp, fun _ hRow => absurd hRow List.not_mem_nil⟩
  | cons op rest ih =>
    obtain ⟨later, hLater, hNamed⟩ := ih (db.perform op).2
    simp only [run_cons]
    rcases perform_cases db op with ⟨hSame, -⟩ | ⟨r, now, c, -, hOk, -⟩
    · rw [hSame] at hLater hNamed ⊢
      exact ⟨later, hLater, hNamed⟩
    · have hOpened := opened_of_createChangeset hOk
      refine ⟨r.tags.map (tagRow c) ++ later, ?_, ?_⟩
      · rw [hLater, hOpened.changesetTags, List.append_assoc]
      · intro row hRow
        rcases List.mem_append.mp hRow with hNew | hOld
        · exact byKey_isSome_of_subset (run_rows_subset rest .changesets)
            (hOpened.tags_name_changeset row hNew)
        · exact hNamed row hOld

/-- The changesets a session opens take the keys from the next key on, one after another. -/
theorem run_changesetIds (db : Database) (ops : List Operation) :
    ∃ n : Nat, (db.run ops).1.filterMap Answer.changesetId? =
        (List.range n).map (fun i : Nat => db.nextKey .changesets + (i : Int)) ∧
      (db.run ops).2.nextKey .changesets = db.nextKey .changesets + n := by
  induction ops generalizing db with
  | nil => exact ⟨0, rfl, by simp⟩
  | cons op rest ih =>
    obtain ⟨n, hIds, hNext⟩ := ih (db.perform op).2
    simp only [run_cons]
    rcases perform_cases db op with ⟨hSame, hNone⟩ | ⟨r, now, c, -, hOk, hSome⟩
    · rw [List.filterMap_cons_none hNone]
      rw [hSame] at hIds hNext ⊢
      exact ⟨n, hIds, hNext⟩
    · have hOpened := opened_of_createChangeset hOk
      rw [hOpened.nextKey_eq] at hIds hNext
      rw [List.filterMap_cons_some hSome, hIds, hNext, ← hOpened.key_eq]
      refine ⟨n + 1, ?_, by omega⟩
      rw [List.range_succ_eq_map, List.map_cons, List.map_map]
      congr 1
      · simp
      · congr 1
        funext i
        simp only [Function.comp_apply]
        omega

/-- The changeset ids a session answers are strictly increasing. -/
theorem run_changesetIds_increasing (db : Database) (ops : List Operation) :
    ((db.run ops).1.filterMap Answer.changesetId?).Pairwise (· < ·) := by
  obtain ⟨n, hIds, -⟩ := run_changesetIds db ops
  rw [hIds, List.pairwise_map]
  refine List.Pairwise.imp ?_ List.pairwise_lt_range
  intro i j hij
  omega

/-- **Opening a changeset is one transaction.** It succeeds exactly when the request opens on
the store. On success it adds the user row when no user had the id, the changeset row under the
next key and one tag row per tag in order, and nothing else; a call that fails leaves the store
as it was. Over any session from a consistent store the store stays consistent, every tag row
written names a changeset of the store, and the changeset ids answered strictly increase. -/
theorem createChangeset_transaction :
    (∀ (db : Database) (r : ChangesetRequest) (now : String),
      (∃ c db', db.createChangeset r now = .ok (c, db')) ↔ Opens db r) ∧
    (∀ (db : Database) (r : ChangesetRequest) (now : String) (c : Int) (db' : Database),
      db.createChangeset r now = .ok (c, db') → Opened db r now c db') ∧
    (∀ (db : Database) (op : Operation) (f : Failure),
      (db.perform op).1 = .error f → (db.perform op).2 = db) ∧
    (∀ (db : Database) (ops : List Operation), Consistent db → Consistent (db.run ops).2) ∧
    (∀ (db : Database) (ops : List Operation), ∃ written,
      (db.run ops).2.rows .changesetTags = db.rows .changesetTags ++ written ∧
      ∀ row ∈ written,
        ((db.run ops).2.byKey .changesets (row.cell .changesetTags "changeset_id")).isSome) ∧
    (∀ (db : Database) (ops : List Operation),
      ((db.run ops).1.filterMap Answer.changesetId?).Pairwise (· < ·)) := by
  refine ⟨?_, fun _ _ _ _ _ h => opened_of_createChangeset h,
    fun _ _ _ h => perform_snd_of_error h, fun _ ops hc => run_consistent hc ops,
    run_changesetTags, run_changesetIds_increasing⟩
  intro db r now
  constructor
  · rintro ⟨c, db', h⟩
    exact ((createChangeset_eq_ok_iff c db').mp h).1
  · intro hOpens
    exact ⟨_, _, (createChangeset_eq_ok_iff _ _).mpr ⟨hOpens, rfl, rfl⟩⟩

end Database

end RoadAtlas.Store
