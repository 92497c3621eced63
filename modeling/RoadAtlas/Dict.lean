/-!
# Dictionaries in insertion order

The service gathers rows into dictionaries in four places: the nodes a document references, the
survey rows of each road and source, the tags of each owner and the path of each way. Such a
dictionary keeps its keys in the order in which they were first added, and changing the value of
a key it already has keeps the key where it stands. Here a dictionary is the list of its
entries. Keys are compared with `==`, and the lemmas ask only that `==` be an equivalence
(`EquivBEq`), so two keys may be equal without being the same value, as the integer `1` and the
real `1.0` are.

Every loop of the service changes one key per item (`alter`), so one lemma per question says what
a whole loop leaves: the value of a key is the loop's changes for the items of that key, in
order (`getD_foldl_alter`), and the keys are those of the items in order of first appearance
(`keys_foldl_alter`).

## Main definitions

* `Dict.get?`, `Dict.getD`, `Dict.contains`, `Dict.keys`: reading a dictionary.
* `Dict.alter`: the value of a key changed in place, or the key added last with the change
  applied to a starting value.
* `Dict.insert`, `Dict.push`: a key set to a value; an item appended to the list of a key.

## Main results

* `get?_alter`, `contains_alter`, `keys_alter`: what one change does.
* `getD_foldl_alter`, `getD_foldl_push`, `contains_foldl_alter`: what a loop of changes leaves.
* `keys_foldl_alter`, `nodup_keys_foldl_alter`: its keys, in order of first appearance.
* `foldl_alter_eq`, `foldl_push_eq`: a whole loop from the empty dictionary.
* `eq_map_keys`: a dictionary without repeated keys is its keys, each with its value.
-/

namespace RoadAtlas.Dict

variable {κ β α ι : Type} [BEq κ]

/-- The keys of a dictionary, in order. -/
def keys (d : List (κ × β)) : List κ :=
  d.map Prod.fst

/-- The value of a key. -/
def get? (d : List (κ × β)) (k : κ) : Option β :=
  (d.find? fun e => e.1 == k).map Prod.snd

/-- The value of a key, or `default` when the dictionary does not have the key. -/
def getD (d : List (κ × β)) (k : κ) (default : β) : β :=
  (get? d k).getD default

/-- Whether a dictionary has a key. -/
def contains (d : List (κ × β)) (k : κ) : Bool :=
  d.any fun e => e.1 == k

/-- The value of `k` changed by `f` where it stands; without `k`, the key goes last with
`f init`. -/
def alter (k : κ) (init : β) (f : β → β) : List (κ × β) → List (κ × β)
  | [] => [(k, f init)]
  | e :: rest => if e.1 == k then (e.1, f e.2) :: rest else e :: alter k init f rest

/-- A key set to a value. -/
def insert (k : κ) (v : β) (d : List (κ × β)) : List (κ × β) :=
  alter k v (fun _ => v) d

/-- An item appended to the list of a key; a new key starts with no items. -/
def push (k : κ) (x : α) (d : List (κ × List α)) : List (κ × List α) :=
  alter k [] (· ++ [x]) d

/-! ## One change -/

@[simp] theorem get?_nil (k : κ) : get? ([] : List (κ × β)) k = none :=
  rfl

theorem get?_cons (e : κ × β) (d : List (κ × β)) (k : κ) :
    get? (e :: d) k = if e.1 == k then some e.2 else get? d k := by
  unfold get?
  cases h : e.1 == k <;> simp [h]

theorem contains_cons (e : κ × β) (d : List (κ × β)) (k : κ) :
    contains (e :: d) k = (e.1 == k || contains d k) :=
  rfl

theorem contains_eq_isSome (d : List (κ × β)) (k : κ) : contains d k = (get? d k).isSome := by
  induction d with
  | nil => rfl
  | cons e d ih =>
    rw [contains_cons, get?_cons]
    cases e.1 == k <;> simp [ih]

/-- A change keeps the keys, adding its key last when it is new. -/
theorem keys_alter (d : List (κ × β)) (k : κ) (init : β) (f : β → β) :
    keys (alter k init f d) = if contains d k then keys d else keys d ++ [k] := by
  induction d with
  | nil => rfl
  | cons e d ih =>
    by_cases hk : e.1 == k
    · simp [alter, keys, contains_cons, hk]
    · have hNe : (e.1 == k) = false := by simpa using hk
      simp only [alter, hNe, contains_cons, Bool.false_or, Bool.false_eq_true, if_false]
      simp only [keys, List.map_cons] at ih ⊢
      rw [ih]
      split <;> simp

/-- A change on a key the dictionary does not have adds an entry at the end. -/
theorem alter_of_contains_eq_false {d : List (κ × β)} {k : κ} (h : contains d k = false)
    (init : β) (f : β → β) : alter k init f d = d ++ [(k, f init)] := by
  induction d with
  | nil => rfl
  | cons e d ih =>
    rw [contains_cons, Bool.or_eq_false_iff] at h
    simp [alter, h.1, ih h.2]

section Equiv

variable [EquivBEq κ]

/-- Equal keys have the same value. -/
theorem get?_congr (d : List (κ × β)) {k k' : κ} (h : k == k') : get? d k = get? d k' := by
  induction d with
  | nil => rfl
  | cons e d ih => rw [get?_cons, get?_cons, BEq.congr_right h, ih]

/-- After a change of `k`, a key equal to `k` has the changed value and any other key its old
one. -/
theorem get?_alter (d : List (κ × β)) (k k' : κ) (init : β) (f : β → β) :
    get? (alter k init f d) k' =
      if k == k' then some (f ((get? d k).getD init)) else get? d k' := by
  induction d with
  | nil => simp [alter, get?_cons]
  | cons e d ih =>
    by_cases hk : e.1 == k
    · -- the entry of `k` is changed where it stands
      simp only [alter, hk, if_true, get?_cons, BEq.congr_left hk]
      cases k == k' <;> simp
    · simp only [alter, hk, get?_cons, ih, Bool.false_eq_true, if_false]
      by_cases hk' : k == k'
      · -- `e.1` differs from `k`, hence from `k'`
        have hek' : (e.1 == k') = false := BEq.neq_of_neq_of_beq (by simpa using hk) hk'
        simp [hk', hek']
      · simp [hk']

theorem getD_alter (d : List (κ × β)) (k k' : κ) (init : β) (f : β → β) :
    getD (alter k init f d) k' init =
      if k == k' then f (getD d k' init) else getD d k' init := by
  unfold getD
  rw [get?_alter]
  by_cases hk : k == k'
  · simp [hk, get?_congr d hk]
  · simp [hk]

theorem contains_alter (d : List (κ × β)) (k k' : κ) (init : β) (f : β → β) :
    contains (alter k init f d) k' = (k == k' || contains d k') := by
  rw [contains_eq_isSome, contains_eq_isSome, get?_alter]
  cases k == k' <;> simp

/-! ## A loop of changes -/

/-- **The value after a loop.** Changing the key of each item in turn leaves every key with the
changes of the items of that key, in order, applied to its value before the loop. -/
theorem getD_foldl_alter (key : ι → κ) (init : β) (g : ι → β → β) (xs : List ι)
    (d : List (κ × β)) (k : κ) :
    getD (xs.foldl (fun d x => alter (key x) init (g x) d) d) k init =
      (xs.filter fun x => key x == k).foldl (fun v x => g x v) (getD d k init) := by
  induction xs generalizing d with
  | nil => rfl
  | cons x xs ih =>
    rw [List.foldl_cons, ih, getD_alter, List.filter_cons]
    by_cases hx : key x == k <;> simp [hx]

/-- Appending one item at a time appends them all. -/
private theorem foldl_append_singleton (val : ι → α) (ys : List ι) (start : List α) :
    ys.foldl (fun v x => v ++ [val x]) start = start ++ ys.map val := by
  induction ys generalizing start with
  | nil => simp
  | cons x ys ih => simp [ih]

/-- Appending each item to the list of its key leaves every key with the items of that key, in
order. -/
theorem getD_foldl_push (key : ι → κ) (val : ι → α) (xs : List ι) (d : List (κ × List α))
    (k : κ) :
    getD (xs.foldl (fun d x => push (key x) (val x) d) d) k [] =
      getD d k [] ++ (xs.filter fun x => key x == k).map val := by
  unfold push
  rw [getD_foldl_alter, foldl_append_singleton]

/-- A loop of changes has the keys it started with and those of its items. -/
theorem contains_foldl_alter (key : ι → κ) (init : β) (g : ι → β → β) (xs : List ι)
    (d : List (κ × β)) (k : κ) :
    contains (xs.foldl (fun d x => alter (key x) init (g x) d) d) k =
      (contains d k || xs.any fun x => key x == k) := by
  induction xs generalizing d with
  | nil => simp
  | cons x xs ih =>
    rw [List.foldl_cons, ih, contains_alter, List.any_cons]
    cases key x == k <;> cases contains d k <;> simp

end Equiv

/-! ## Keys in order of first appearance -/

section Lawful

variable [LawfulBEq κ]

theorem contains_iff_mem_keys (d : List (κ × β)) (k : κ) : contains d k = true ↔ k ∈ keys d := by
  simp [contains, keys]

/-- The keys after a loop: the keys it started with, then the keys of the items that are new,
each once, in order of first appearance. -/
theorem keys_foldl_alter_of (key : ι → κ) (init : β) (g : ι → β → β) (xs : List ι)
    (d : List (κ × β)) :
    keys (xs.foldl (fun d x => alter (key x) init (g x) d) d) =
      keys d ++ ((xs.map key).filter fun k => !contains d k).eraseDups := by
  induction xs generalizing d with
  | nil => simp
  | cons x xs ih =>
    rw [List.foldl_cons, ih, keys_alter]
    by_cases hHas : contains d (key x)
    · -- a key equal to an old one is old too: nothing new
      have hOld : ∀ k, contains (alter (key x) init (g x) d) k = contains d k := by
        intro k
        rw [contains_alter]
        by_cases hk : key x = k
        · subst hk
          simp [hHas]
        · simp [hk]
      simp [hHas, hOld]
    · have hHasNot : contains d (key x) = false := by simpa using hHas
      simp only [hHasNot, Bool.false_eq_true, if_false, List.map_cons, List.filter_cons,
        Bool.not_false, if_true, List.eraseDups_cons, List.append_assoc, List.singleton_append,
        contains_alter, List.filter_filter]
      congr 3
      refine List.filter_congr fun k _ => ?_
      rw [Bool.not_or, BEq.comm]

/-- **The keys after a loop** from the empty dictionary: the keys of the items, each once, in
order of first appearance. -/
theorem keys_foldl_alter (key : ι → κ) (init : β) (g : ι → β → β) (xs : List ι) :
    keys (xs.foldl (fun d x => alter (key x) init (g x) d) []) = (xs.map key).eraseDups := by
  rw [keys_foldl_alter_of]
  -- the empty dictionary has no key, so every key of the items is new
  have hAll : ((xs.map key).filter fun k => !contains ([] : List (κ × β)) k) = xs.map key :=
    List.filter_eq_self.mpr fun _ _ => rfl
  rw [hAll]
  rfl

theorem nodup_keys_alter {d : List (κ × β)} (h : (keys d).Nodup) (k : κ) (init : β)
    (f : β → β) : (keys (alter k init f d)).Nodup := by
  rw [keys_alter]
  split
  · exact h
  · rename_i hNew
    have hNotMem : k ∉ keys d := fun hMem => hNew ((contains_iff_mem_keys d k).mpr hMem)
    refine List.nodup_append.mpr ⟨h, by simp, fun a ha b hb => ?_⟩
    rw [List.mem_singleton.mp hb]
    rintro rfl
    exact hNotMem ha

/-- A loop of changes from a dictionary without repeated keys repeats no key. -/
theorem nodup_keys_foldl_alter (key : ι → κ) (init : β) (g : ι → β → β) (xs : List ι)
    {d : List (κ × β)} (h : (keys d).Nodup) :
    (keys (xs.foldl (fun d x => alter (key x) init (g x) d) d)).Nodup := by
  induction xs generalizing d with
  | nil => exact h
  | cons x xs ih => exact ih (nodup_keys_alter h _ _ _)

/-- A dictionary without repeated keys is its keys in order, each with its value. -/
theorem eq_map_keys (d : List (κ × β)) (hNodup : (keys d).Nodup) (default : β) :
    d = (keys d).map fun k => (k, getD d k default) := by
  induction d with
  | nil => rfl
  | cons e d ih =>
    obtain ⟨hHead, hTail⟩ := List.nodup_cons.mp hNodup
    have hFirst : getD (e :: d) e.1 default = e.2 := by simp [getD, get?_cons]
    -- the later keys differ from the first, so their values come from the rest
    have hRest : (keys d).map (fun k => (k, getD (e :: d) k default)) =
        (keys d).map (fun k => (k, getD d k default)) := by
      refine List.map_congr_left fun k hk => ?_
      have hNe : (e.1 == k) = false := by
        simpa using fun hEq : e.1 = k => hHead (hEq ▸ hk)
      simp [getD, get?_cons, hNe]
    rw [show keys (e :: d) = e.1 :: keys d from rfl, List.map_cons, hFirst, hRest, ← ih hTail]

/-- **A loop of changes from the empty dictionary**, whole: the keys of the items in order of
first appearance, each with the changes of its items applied to `init`. -/
theorem foldl_alter_eq (key : ι → κ) (init : β) (g : ι → β → β) (xs : List ι) :
    xs.foldl (fun d x => alter (key x) init (g x) d) [] =
      (xs.map key).eraseDups.map fun k =>
        (k, (xs.filter fun x => key x == k).foldl (fun v x => g x v) init) := by
  have hNodup : (keys ([] : List (κ × β))).Nodup := List.nodup_nil
  rw [eq_map_keys _ (nodup_keys_foldl_alter key init g xs hNodup) init, keys_foldl_alter]
  refine List.map_congr_left fun k _ => ?_
  rw [getD_foldl_alter]
  rfl

/-- Gathering items by key from the empty dictionary: the keys in order of first appearance,
each with its items in order. -/
theorem foldl_push_eq (key : ι → κ) (val : ι → α) (xs : List ι) :
    xs.foldl (fun d x => push (key x) (val x) d) [] =
      (xs.map key).eraseDups.map fun k => (k, (xs.filter fun x => key x == k).map val) := by
  unfold push
  rw [foldl_alter_eq]
  refine List.map_congr_left fun k _ => ?_
  rw [foldl_append_singleton, List.nil_append]

end Lawful

end RoadAtlas.Dict
