import RoadAtlas.Osm.Entity

/-!
# What attaching tags gives every owner

Ways and nodes are tagged the same way (`Tag.attach`): the tags are gathered in a dictionary
keyed by the ids of the owners, each tag appended to the list of the id it names when that id is
a key, and each owner is copied with the list of its id. Everything here is proved once for an
owner type with an id, a tag list and a way to replace the tags, and then read off for ways and
for nodes.

The gathering loop changes one key per tag, so its lemmas are one step lemma each for the keys
and the values (`contains_gather`, `getD_gather`) and the loop lemma they give
(`getD_foldl_gather`): the list of every id is the tags that name it, in order (`getD_byOwner`).
Attaching is therefore the map that gives every owner the tags naming its id
(`attach_eq_map_ownedBy`), and what the copies satisfy is `Attached`: one copy per owner, in
order, each the owner with only its tags changed; owners with the same id get the same list; a
tag that names no owner (or whose owner field is empty) is attached nowhere; and every other tag
is attached to each owner it names exactly as often as it occurs in the list.

The owner key itself is checked before any row is looked at: only the texts `way_id` and
`node_id` are keys, and any other value fails with a message that shows it.

## Main results

* `getD_byOwner`, `attach_eq_map_ownedBy`: what the gathering loop gives each owner.
* `attach_attached`: attaching satisfies `Attached`, for any owner type.
* `ofValue_eq_ok_iff`, `ofValue_eq_error`: which values are owner keys.
* `attachTags_replaces_tags`: all of it for ways, nodes and owner keys.
-/

namespace RoadAtlas.Tagging

section Owners

variable {α : Type} (key : OwnerKey) (tags : List Tag) (id : α → Int) (tagsOf : α → List Tag)
  (withTags : α → List Tag → α)

/-- The tags that name `i` as their owner under `key`, in order. -/
def ownedBy (i : Int) : List Tag :=
  tags.filter fun t => t.owner key = some i

theorem mem_ownedBy (i : Int) (t : Tag) : t ∈ ownedBy key tags i ↔ t ∈ tags ∧ t.owner key = some i := by
  simp [ownedBy]

/-- What attaching `tags` to `owners` must give. -/
structure Attached (owners result : List α) : Prop where
  /-- One copy per owner. -/
  length_eq : result.length = owners.length
  /-- The copy of an owner is the owner with only its tags replaced, by the tags naming it. -/
  getElem?_eq : ∀ i : Nat, result[i]? =
    owners[i]?.map fun o => withTags o (tags.filter fun t => t.owner key = some (id o))
  /-- Owners with the same id get the same tags. -/
  same_id_same_tags : ∀ a ∈ result, ∀ b ∈ result, id a = id b → tagsOf a = tagsOf b
  /-- A tag that names none of the owners is attached nowhere. -/
  not_mem_of_unowned : ∀ t : Tag, (∀ o ∈ owners, t.owner key ≠ some (id o)) →
    ∀ r ∈ result, t ∉ tagsOf r
  /-- Every tag is attached to each owner it names as often as it occurs, and to no other. -/
  count_eq : ∀ r ∈ result, ∀ t : Tag,
    (tagsOf r).count t = if t.owner key = some (id r) then tags.count t else 0

variable {id tagsOf withTags}

/-! ## The gathering loop -/

/-- Gathering a tag adds no key. -/
theorem contains_gather (d : List (Int × List Tag)) (t : Tag) (j : Int) :
    Dict.contains (Tag.gather key d t) j = Dict.contains d j := by
  unfold Tag.gather
  cases t.owner key with
  | none => rfl
  | some i =>
    dsimp only
    split
    · rename_i hHas
      unfold Dict.push
      rw [Dict.contains_alter]
      by_cases hij : i = j
      · subst hij
        simp [hHas]
      · simp [hij]
    · rfl

/-- Gathering a tag appends it to the list of the id it names, when the dictionary has that id. -/
theorem getD_gather (d : List (Int × List Tag)) (t : Tag) (j : Int) :
    Dict.getD (Tag.gather key d t) j [] =
      if t.owner key = some j ∧ Dict.contains d j = true then Dict.getD d j [] ++ [t]
      else Dict.getD d j [] := by
  unfold Tag.gather
  cases t.owner key with
  | none => simp
  | some i =>
    dsimp only
    by_cases hij : i = j
    · subst hij
      by_cases hHas : Dict.contains d i = true
      · rw [if_pos hHas]
        unfold Dict.push
        simp [Dict.getD_alter, hHas]
      · simp [hHas]
    · have hNe : (i == j) = false := by simpa using hij
      split
      · unfold Dict.push
        simp [Dict.getD_alter, hNe, hij]
      · simp [hij]

/-- **The gathering loop.** Gathering the tags in order appends to the list of every id of the
dictionary the tags that name it. -/
theorem getD_foldl_gather (d : List (Int × List Tag)) (j : Int) (hj : Dict.contains d j = true) :
    Dict.getD (tags.foldl (Tag.gather key) d) j [] = Dict.getD d j [] ++ ownedBy key tags j := by
  induction tags generalizing d with
  | nil => simp [ownedBy]
  | cons t ts ih =>
    rw [List.foldl_cons, ih (Tag.gather key d t) (by rw [contains_gather]; exact hj), getD_gather]
    by_cases hOwner : t.owner key = some j
    · simp [hOwner, hj, ownedBy]
    · simp [hOwner, ownedBy]

/-- Every id of the owners ends with exactly the tags that name it, in order. -/
theorem getD_byOwner {ids : List Int} {i : Int} (hi : i ∈ ids) :
    Dict.getD (Tag.byOwner key ids tags) i [] = ownedBy key tags i := by
  unfold Tag.byOwner
  have hHas : Dict.contains (ids.foldl (fun d i => Dict.insert i ([] : List Tag) d) []) i = true := by
    unfold Dict.insert
    rw [Dict.contains_foldl_alter]
    simp [hi]
  -- every id starts with no tags, however often it occurs among the owners
  have hEmpty : Dict.getD (ids.foldl (fun d i => Dict.insert i ([] : List Tag) d) []) i [] = [] := by
    unfold Dict.insert
    rw [Dict.getD_foldl_alter]
    generalize (ids.filter fun x => x == i) = l
    induction l with
    | nil => rfl
    | cons x l ih => exact ih
  rw [getD_foldl_gather key tags _ i hHas, hEmpty, List.nil_append]

/-- Attaching gives every owner the tags that name its id. -/
theorem attach_eq_map_ownedBy (owners : List α) :
    Tag.attach id withTags key owners tags =
      owners.map fun o => withTags o (ownedBy key tags (id o)) := by
  unfold Tag.attach
  refine List.map_congr_left fun o ho => ?_
  rw [getD_byOwner key tags (List.mem_map_of_mem ho)]

theorem count_ownedBy (i : Int) (t : Tag) :
    (ownedBy key tags i).count t = if t.owner key = some i then tags.count t else 0 := by
  by_cases hOwner : t.owner key = some i
  · rw [if_pos hOwner]
    exact List.count_filter (by simp [hOwner])
  · rw [if_neg hOwner, List.count_eq_zero]
    intro hMem
    exact hOwner ((mem_ownedBy key tags i t).mp hMem).2

/-- Every copy is the copy of an owner: its id is the owner's and its tags name that id. -/
theorem mem_attach {owners : List α} {r : α}
    (hId : ∀ o ts, id (withTags o ts) = id o) (hTags : ∀ o ts, tagsOf (withTags o ts) = ts)
    (hr : r ∈ Tag.attach id withTags key owners tags) :
    ∃ o ∈ owners, id r = id o ∧ tagsOf r = ownedBy key tags (id o) := by
  rw [attach_eq_map_ownedBy] at hr
  obtain ⟨o, ho, rfl⟩ := List.mem_map.mp hr
  exact ⟨o, ho, hId o _, hTags o _⟩

/-- **Attaching is correct** for any owner type whose tag replacement keeps the id. -/
theorem attach_attached (owners : List α)
    (hId : ∀ o ts, id (withTags o ts) = id o) (hTags : ∀ o ts, tagsOf (withTags o ts) = ts) :
    Attached key tags id tagsOf withTags owners (Tag.attach id withTags key owners tags) where
  length_eq := by
    rw [attach_eq_map_ownedBy, List.length_map]
  getElem?_eq := by
    intro i
    rw [attach_eq_map_ownedBy, List.getElem?_map]
    rfl
  same_id_same_tags := by
    intro a ha b hb hSame
    obtain ⟨oa, -, hIdA, hTagsA⟩ := mem_attach key tags hId hTags ha
    obtain ⟨ob, -, hIdB, hTagsB⟩ := mem_attach key tags hId hTags hb
    rw [hTagsA, hTagsB, ← hIdA, ← hIdB, hSame]
  not_mem_of_unowned := by
    intro t hUnowned r hr hMem
    obtain ⟨o, ho, -, hTagsR⟩ := mem_attach key tags hId hTags hr
    rw [hTagsR, mem_ownedBy] at hMem
    exact hUnowned o ho hMem.2
  count_eq := by
    intro r hr t
    obtain ⟨o, -, hIdR, hTagsR⟩ := mem_attach key tags hId hTags hr
    rw [hTagsR, hIdR, count_ownedBy]

end Owners

/-! ## Owner keys -/

theorem ofName?_eq_some_iff (s : String) (key : OwnerKey) :
    OwnerKey.ofName? s = some key ↔ s = key.name := by
  unfold OwnerKey.ofName?
  cases key with
  | way => by_cases h : s = "way_id" <;> simp [h, OwnerKey.name]
  | node =>
    by_cases hWay : s = "way_id"
    · simp [hWay, OwnerKey.name]
    · by_cases hNode : s = "node_id" <;> simp [hWay, hNode, OwnerKey.name]

theorem name_injective : Function.Injective OwnerKey.name := by
  intro a b h
  cases a <;> cases b <;> simp_all [OwnerKey.name]

theorem ofValue_str (s : String) :
    OwnerKey.ofValue (.str s) = match OwnerKey.ofName? s with
      | some k => .ok k
      | none => .error (OwnerKey.ofValue.invalid (.str s)) :=
  rfl

/-- Exactly the two key names are owner keys. -/
theorem ofValue_eq_ok_iff (j : Json) (key : OwnerKey) :
    OwnerKey.ofValue j = .ok key ↔ j = .str key.name := by
  cases j with
  | str s =>
    rw [ofValue_str]
    cases hName : OwnerKey.ofName? s with
    | some k =>
      dsimp only
      rw [(ofName?_eq_some_iff s k).mp hName]
      constructor
      · intro h
        cases h
        rfl
      · intro h
        rw [name_injective (Json.str.inj h)]
    | none =>
      constructor
      · intro h
        cases h
      · intro h
        rw [Json.str.inj h, OwnerKey.ofName?_name] at hName
        cases hName
  | _ => simp [OwnerKey.ofValue]

/-- Any other value fails, showing the value in the message. -/
theorem ofValue_eq_error (j : Json) (hNotKey : ∀ key : OwnerKey, j ≠ .str key.name) :
    OwnerKey.ofValue j = .error ⟨.badValue,
      "Invalid owner key: '" ++ j.display ++ "', expected one of ('way_id', 'node_id')"⟩ := by
  cases j with
  | str s =>
    rw [ofValue_str]
    cases hName : OwnerKey.ofName? s with
    | some k =>
      exact absurd (congrArg Json.str ((ofName?_eq_some_iff s k).mp hName)) (hNotKey k)
    | none => rfl
  | _ => rfl

/-- **Attaching tags to ways or to nodes.** Each owner is copied with only its tags replaced, by
the tags that name its id in list order; owners with the same id get the same tags, a tag
naming no owner is attached nowhere, and every other tag is attached to each owner it names as
often as it occurs. An owner key is `way_id` or `node_id`; any other value fails with a message
that shows it, whatever the rows. -/
theorem attachTags_replaces_tags :
    (∀ (key : OwnerKey) (ways : List Way) (tags : List Tag),
      Attached key tags Way.id Way.tags (fun w ts => { w with tags := ts }) ways
        (Way.attachTags key ways tags)) ∧
    (∀ (key : OwnerKey) (nodes : List Node) (tags : List Tag),
      Attached key tags Node.id Node.tags (fun n ts => { n with tags := ts }) nodes
        (Node.attachTags key nodes tags)) ∧
    (∀ (j : Json) (key : OwnerKey), OwnerKey.ofValue j = .ok key ↔ j = .str key.name) ∧
    (∀ j : Json, (∀ key : OwnerKey, j ≠ .str key.name) →
      OwnerKey.ofValue j = .error ⟨.badValue,
        "Invalid owner key: '" ++ j.display ++ "', expected one of ('way_id', 'node_id')"⟩) := by
  refine ⟨?_, ?_, ofValue_eq_ok_iff, ofValue_eq_error⟩
  · intro key ways tags
    exact attach_attached key tags ways (fun _ _ => rfl) (fun _ _ => rfl)
  · intro key nodes tags
    exact attach_attached key tags nodes (fun _ _ => rfl) (fun _ _ => rfl)

end RoadAtlas.Tagging
