import Mathlib

/-!
# Keys in order of first appearance

Two parts of the library keep things "in the order in which they were first seen": the OSM
writer emits each referenced node once, in order of first reference, and the survey grouping
lists road ids, and the sources of one road, in order of first appearance. Both are
`List.eraseDups`, which keeps the first occurrence of every element. This module proves the
facts about that order that both need.

The proofs recurse the way `List.eraseDups_cons` does: the head is kept, and the rest is
deduplicated after the copies of the head are filtered out. The recursive call is therefore on
a filtered list, not on the tail, and the recursion is on the length of the list.

## Main results

* `nodup_eraseDups`: no key is kept twice.
* `eraseDups_map_cons`: the keys of `a :: l` are the key of `a` followed by the keys of the
  items of `l` whose key differs from it.
* `eraseDups_append_singleton`: an element appended is kept exactly when it is new.
* `perm_flatMap_filter`: gathering the items of each key in turn rearranges the list, losing
  and repeating nothing.
* `filter_flatMap_of_mem`: after gathering, the items of one key are still in list order.
* `pairwise_idxOf_lt`: in a list without repeats, every element comes before the later ones
  in the order of `List.idxOf`.
-/

namespace RoadAtlas.FirstSeen

/-- `eraseDups` keeps no element twice. -/
theorem nodup_eraseDups {β : Type} [BEq β] [LawfulBEq β] : ∀ l : List β, l.eraseDups.Nodup
  | [] => List.nodup_nil
  | a :: l => by
      rw [List.eraseDups_cons]
      refine List.nodup_cons.mpr ⟨fun hMem => ?_, nodup_eraseDups (l.filter fun b => !b == a)⟩
      rw [List.mem_eraseDups, List.mem_filter] at hMem
      simp at hMem
termination_by l => l.length
decreasing_by
  have hShorter := List.length_filter_le (fun b => !b == a) l
  simp only [List.length_cons]
  omega

/-- The keys of `a :: l` in order of first appearance: the key of `a`, then those of the items
whose key differs from it. -/
theorem eraseDups_map_cons {α β : Type} [BEq β] [LawfulBEq β] (key : α → β) (a : α)
    (l : List α) :
    ((a :: l).map key).eraseDups =
      key a :: ((l.filter fun b => !key b == key a).map key).eraseDups := by
  rw [List.map_cons, List.eraseDups_cons, List.filter_map]
  rfl

/-- An element appended to a list is kept when it is new, and dropped when it is not. -/
theorem eraseDups_append_singleton {β : Type} [BEq β] [LawfulBEq β] (l : List β) (a : β) :
    (l ++ [a]).eraseDups = if a ∈ l then l.eraseDups else l.eraseDups ++ [a] := by
  rw [List.eraseDups_append]
  by_cases h : a ∈ l
  · simp [List.removeAll, h]
  · simp [List.removeAll, h, List.eraseDups_cons]

/-- Every key in order of first appearance has at least one item. -/
theorem filter_ne_nil_of_mem_eraseDups {α β : Type} [BEq β] [LawfulBEq β] (key : α → β)
    {l : List α} {k : β} (hk : k ∈ (l.map key).eraseDups) : l.filter (key · == k) ≠ [] := by
  rw [List.mem_eraseDups, List.mem_map] at hk
  obtain ⟨a, ha, rfl⟩ := hk
  exact List.ne_nil_of_mem (List.mem_filter.mpr ⟨ha, by simp⟩)

/-- The items of `a :: l` under a key other than `key a` are those of `l` with that key. -/
private theorem filter_cons_of_key_ne {α β : Type} [BEq β] [LawfulBEq β] (key : α → β)
    (a : α) (l : List α) {k : β} (hk : k ≠ key a) :
    (a :: l).filter (key · == k) = (l.filter fun b => !key b == key a).filter (key · == k) := by
  rw [List.filter_cons_of_neg (by simpa using Ne.symm hk), List.filter_filter]
  refine List.filter_congr fun b _ => ?_
  by_cases hb : key b = k
  · subst hb
    simp [hk]
  · simp [hb]

/-- **Gathering by key loses and repeats nothing**: the items of each key, the keys taken in order
of first appearance, are a permutation of the list. -/
theorem perm_flatMap_filter {α β : Type} [BEq β] [LawfulBEq β] (key : α → β) :
    ∀ l : List α, (((l.map key).eraseDups).flatMap fun k => l.filter (key · == k)).Perm l
  | [] => by simp
  | a :: l => by
      rw [eraseDups_map_cons, List.flatMap_cons]
      -- the later keys all differ from `key a`, so their items come from the filtered rest
      have hLater : (((l.filter fun b => !key b == key a).map key).eraseDups.flatMap
            fun k => (a :: l).filter (key · == k)) =
          ((l.filter fun b => !key b == key a).map key).eraseDups.flatMap
            fun k => (l.filter fun b => !key b == key a).filter (key · == k) := by
        refine List.flatMap_congr fun k hk => filter_cons_of_key_ne key a l ?_
        rintro rfl
        rw [List.mem_eraseDups, List.mem_map] at hk
        obtain ⟨b, hb, hbKey⟩ := hk
        simp [List.mem_filter, hbKey] at hb
      have hRest := perm_flatMap_filter key (l.filter fun b => !key b == key a)
      rw [hLater, List.filter_cons_of_pos (by simp), List.cons_append]
      exact List.Perm.cons a
        ((List.Perm.append_left _ hRest).trans (List.filter_append_perm (key · == key a) l))
termination_by l => l.length
decreasing_by
  have hShorter := List.length_filter_le (fun b => !key b == key a) l
  simp only [List.length_cons]
  omega

/-- Blocks of items, one block per key, each holding items of its own key only: taking the
items of key `k` out of the blocks of keys other than `k` gives nothing. -/
theorem filter_flatMap_of_not_mem {α β : Type} [BEq β] [LawfulBEq β] (key : α → β)
    (B : β → List α) (hB : ∀ k', ∀ x ∈ B k', key x = k') {keys : List β} {k : β}
    (hk : k ∉ keys) : (keys.flatMap B).filter (key · == k) = [] := by
  rw [List.filter_eq_nil_iff]
  intro a ha hKey
  obtain ⟨k', hk', haMem⟩ := List.mem_flatMap.mp ha
  have hEq : key a = k := by simpa using hKey
  exact hk (hEq ▸ hB k' a haMem ▸ hk')

/-- **Gathering is stable**: from blocks of distinct keys, each holding items of its own key
only, the items of key `k` are exactly the block of `k`, in its order. -/
theorem filter_flatMap_of_mem {α β : Type} [BEq β] [LawfulBEq β] (key : α → β)
    (B : β → List α) (hB : ∀ k', ∀ x ∈ B k', key x = k') {keys : List β} (hNodup : keys.Nodup)
    {k : β} (hk : k ∈ keys) : (keys.flatMap B).filter (key · == k) = B k := by
  induction keys with
  | nil => simp at hk
  | cons k' ks ih =>
      obtain ⟨hNotMem, hNodupTail⟩ := List.nodup_cons.mp hNodup
      rw [List.flatMap_cons, List.filter_append]
      by_cases hSame : k' = k
      · subst hSame
        have hOwn : (B k').filter (key · == k') = B k' :=
          List.filter_eq_self.mpr fun x hx => by simp [hB k' x hx]
        rw [hOwn, filter_flatMap_of_not_mem key B hB hNotMem, List.append_nil]
      · have hkTail : k ∈ ks := by simpa [Ne.symm hSame] using hk
        have hOther : (B k').filter (key · == k) = [] :=
          List.filter_eq_nil_iff.mpr fun x hx => by simp [hB k' x hx, hSame]
        rw [hOther, List.nil_append, ih hNodupTail hkTail]

/-- In a list without repeats, the elements appear in the order of their `idxOf`. -/
theorem pairwise_idxOf_lt {β : Type} [BEq β] [LawfulBEq β] :
    ∀ {l : List β}, l.Nodup → l.Pairwise fun a b => l.idxOf a < l.idxOf b
  | [], _ => List.Pairwise.nil
  | a :: l, hNodup => by
      obtain ⟨hNotMem, hNodupTail⟩ := List.nodup_cons.mp hNodup
      have hIdx : ∀ b ∈ l, (a :: l).idxOf b = l.idxOf b + 1 := fun b hb => by
        rw [List.idxOf_cons_ne]
        rintro rfl
        exact hNotMem hb
      refine List.Pairwise.cons (fun b hb => ?_) ?_
      · rw [List.idxOf_cons_self, hIdx b hb]
        omega
      · refine (pairwise_idxOf_lt hNodupTail).imp_of_mem fun {b c} hb hc hLt => ?_
        rw [hIdx b hb, hIdx c hc]
        omega

end RoadAtlas.FirstSeen
