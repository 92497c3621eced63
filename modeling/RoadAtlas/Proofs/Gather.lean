import Mathlib

/-!
# Fallible work over a list

Most operations of the library apply a fallible step (`α → Except ε β`) to every item of a
list with `List.mapM`, or check every item with `List.forM`, and stop at the first failure.
This module says what such a run does, once, so that later proofs never unfold `mapM`:

* it succeeds exactly when every item succeeds, and then its results are those of the items,
  in order (`mapM_eq_ok_iff`, `mapM_eq_ok_map`);
* it fails exactly with the failure of the first item that fails (`mapM_eq_error_iff`), where
  "first" is `FirstFailure`: every item before it succeeds;
* a run over groups whose step is itself a run over the items of a group fails as the run over
  all items, group after group, would (`mapM_eq_error_iff_flatMap`). This is what makes nested
  loops comparable with flat ones.

## Main definitions

* `FirstFailure f l e`: some item of `l` fails with `e` and all items before it succeed.
-/

namespace RoadAtlas.Gather

/-- `e` is the failure of the first item of `l` on which `f` fails. -/
def FirstFailure {ε α β : Type} (f : α → Except ε β) (l : List α) (e : ε) : Prop :=
  ∃ pre a post, l = pre ++ a :: post ∧ (∀ x ∈ pre, ∃ b, f x = .ok b) ∧ f a = .error e

theorem not_firstFailure_nil {ε α β : Type} (f : α → Except ε β) (e : ε) :
    ¬FirstFailure f [] e := by
  rintro ⟨pre, a, post, hSplit, -, -⟩
  simp at hSplit

/-- Past an item that succeeds, the first failure is that of the rest. -/
theorem firstFailure_cons_of_ok {ε α β : Type} {f : α → Except ε β} {a : α} {b : β}
    (ha : f a = .ok b) (l : List α) (e : ε) :
    FirstFailure f (a :: l) e ↔ FirstFailure f l e := by
  constructor
  · rintro ⟨pre, x, post, hSplit, hPre, hx⟩
    cases pre with
    | nil =>
        obtain ⟨rfl, -⟩ := List.cons.inj hSplit
        simp [ha] at hx
    | cons y pre =>
        obtain ⟨-, rfl⟩ := List.cons.inj hSplit
        exact ⟨pre, x, post, rfl, fun z hz => hPre z (List.mem_cons_of_mem y hz), hx⟩
  · rintro ⟨pre, x, post, rfl, hPre, hx⟩
    refine ⟨a :: pre, x, post, rfl, fun z hz => ?_, hx⟩
    rcases List.mem_cons.mp hz with rfl | hz
    · exact ⟨b, ha⟩
    · exact hPre z hz

/-- An item that fails is the first failure of every list it starts. -/
theorem firstFailure_cons_of_error {ε α β : Type} {f : α → Except ε β} {a : α} {e' : ε}
    (ha : f a = .error e') (l : List α) (e : ε) :
    FirstFailure f (a :: l) e ↔ e = e' := by
  constructor
  · rintro ⟨pre, x, post, hSplit, hPre, hx⟩
    cases pre with
    | nil =>
        obtain ⟨rfl, -⟩ := List.cons.inj hSplit
        rw [ha] at hx
        exact (Except.error.inj hx).symm
    | cons y pre =>
        obtain ⟨rfl, -⟩ := List.cons.inj hSplit
        obtain ⟨b, hb⟩ := hPre _ (List.mem_cons_self ..)
        simp [ha] at hb
  · rintro rfl
    exact ⟨[], a, l, rfl, by simp, ha⟩

/-- Some item fails exactly when there is a first failure. -/
theorem exists_firstFailure_iff {ε α β : Type} (f : α → Except ε β) (l : List α) :
    (∃ e, FirstFailure f l e) ↔ ∃ a ∈ l, ∃ e, f a = .error e := by
  constructor
  · rintro ⟨e, pre, a, post, rfl, -, ha⟩
    exact ⟨a, by simp, e, ha⟩
  · rintro ⟨a, ha, e, hae⟩
    induction l with
    | nil => simp at ha
    | cons x l ih =>
        cases hx : f x with
        | error e' => exact ⟨e', (firstFailure_cons_of_error hx l e').mpr rfl⟩
        | ok b =>
            have haTail : a ∈ l := by
              rcases List.mem_cons.mp ha with rfl | haTail
              · simp [hae] at hx
              · exact haTail
            obtain ⟨e', he'⟩ := ih haTail
            exact ⟨e', (firstFailure_cons_of_ok hx l e').mpr he'⟩

/-- No failure at all: every item succeeds. -/
theorem forall_ok_iff_not_firstFailure {ε α β : Type} (f : α → Except ε β) (l : List α) :
    (∀ a ∈ l, ∃ b, f a = .ok b) ↔ ∀ e, ¬FirstFailure f l e := by
  have hSplit : ∀ a, (∃ b, f a = .ok b) ↔ ¬∃ e, f a = .error e := fun a => by
    cases f a <;> simp
  simp only [hSplit]
  constructor
  · intro hOk e hFail
    obtain ⟨a, ha, hErr⟩ := (exists_firstFailure_iff f l).mp ⟨e, hFail⟩
    exact hOk a ha hErr
  · intro hNone a ha hErr
    obtain ⟨e, hFail⟩ := (exists_firstFailure_iff f l).mpr ⟨a, ha, hErr⟩
    exact hNone e hFail

/-- **A run over a list succeeds with the results of its items.** -/
theorem mapM_eq_ok_iff {ε α β : Type} (f : α → Except ε β) (l : List α) (bs : List β) :
    l.mapM f = .ok bs ↔ List.Forall₂ (fun a b => f a = .ok b) l bs := by
  induction l generalizing bs with
  | nil => cases bs <;> simp [pure, Except.pure]
  | cons a l ih =>
      rw [List.mapM_cons]
      cases bs with
      | nil =>
          cases f a <;> cases l.mapM f <;> simp [bind, Except.bind, pure, Except.pure]
      | cons b bs =>
          rw [List.forall₂_cons, ← ih]
          cases f a <;> cases l.mapM f <;> simp [bind, Except.bind, pure, Except.pure]

/-- A run of a step that, on each item, either fails or gives a fixed result succeeds exactly
when every item passes, and then gives the list of the fixed results. -/
theorem mapM_eq_ok_iff_map {ε α β : Type} (f : α → Except ε β) (P : α → Prop) (v : α → β)
    (hf : ∀ a b, f a = .ok b ↔ P a ∧ b = v a) (l : List α) (bs : List β) :
    l.mapM f = .ok bs ↔ (∀ a ∈ l, P a) ∧ bs = l.map v := by
  rw [mapM_eq_ok_iff]
  induction l generalizing bs with
  | nil => cases bs <;> simp
  | cons a l ih =>
      cases bs with
      | nil => simp
      | cons b bs =>
          rw [List.forall₂_cons, ih, hf]
          simp only [List.mem_cons, forall_eq_or_imp, List.map_cons, List.cons.injEq]
          tauto

/-- When every item succeeds with a known result, the run gives the list of those results. -/
theorem mapM_eq_ok_map {ε α β : Type} (f : α → Except ε β) (v : α → β) (l : List α)
    (hOk : ∀ a ∈ l, f a = .ok (v a)) : l.mapM f = .ok (l.map v) := by
  rw [mapM_eq_ok_iff, List.forall₂_map_right_iff]
  exact List.forall₂_same.mpr hOk

/-- **A run over a list fails with the failure of its first failing item.** -/
theorem mapM_eq_error_iff {ε α β : Type} (f : α → Except ε β) (l : List α) (e : ε) :
    l.mapM f = .error e ↔ FirstFailure f l e := by
  induction l with
  | nil => simpa [pure, Except.pure] using not_firstFailure_nil f e
  | cons a l ih =>
      rw [List.mapM_cons]
      cases ha : f a with
      | error e' =>
          rw [firstFailure_cons_of_error ha]
          simp [bind, Except.bind, eq_comm]
      | ok b =>
          rw [firstFailure_cons_of_ok ha, ← ih]
          cases l.mapM f <;> simp [bind, Except.bind, pure, Except.pure]

/-- A run over a list fails with the failure of one of its items. -/
theorem exists_mem_of_mapM_eq_error {ε α β : Type} {f : α → Except ε β} {l : List α} {e : ε}
    (h : l.mapM f = .error e) : ∃ a ∈ l, f a = .error e := by
  obtain ⟨pre, a, post, rfl, -, ha⟩ := (mapM_eq_error_iff f l e).mp h
  exact ⟨a, List.mem_append_right pre List.mem_cons_self, ha⟩

/-- A run over a list succeeds exactly when every item succeeds. -/
theorem exists_mapM_eq_ok_iff {ε α β : Type} (f : α → Except ε β) (l : List α) :
    (∃ bs, l.mapM f = .ok bs) ↔ ∀ a ∈ l, ∃ b, f a = .ok b := by
  rw [forall_ok_iff_not_firstFailure]
  constructor
  · rintro ⟨bs, h⟩ e hFail
    rw [← mapM_eq_error_iff, h] at hFail
    cases hFail
  · intro hNone
    cases h : l.mapM f with
    | ok bs => exact ⟨bs, rfl⟩
    | error e => exact absurd ((mapM_eq_error_iff f l e).mp h) (hNone e)

/-- A check of every item passes exactly when each item passes. -/
theorem forM_eq_ok_iff {ε α : Type} (f : α → Except ε Unit) (l : List α) :
    l.forM f = .ok () ↔ ∀ a ∈ l, f a = .ok () := by
  induction l with
  | nil => simp [pure, Except.pure]
  | cons a l ih =>
      rw [List.forM_eq_forM] at ih ⊢
      rw [List.forM_cons]
      cases ha : f a with
      | error e => simp [bind, Except.bind, ha]
      | ok u =>
          cases u
          simp [bind, Except.bind, ih, ha]

/-- A check of every item fails with the failure of the first item that fails. -/
theorem forM_eq_error_iff {ε α : Type} (f : α → Except ε Unit) (l : List α) (e : ε) :
    l.forM f = .error e ↔ FirstFailure f l e := by
  induction l with
  | nil => simpa [pure, Except.pure] using not_firstFailure_nil f e
  | cons a l ih =>
      rw [List.forM_eq_forM, List.forM_cons]
      cases ha : f a with
      | error e' =>
          rw [firstFailure_cons_of_error ha]
          simp [bind, Except.bind, eq_comm]
      | ok u =>
          rw [firstFailure_cons_of_ok ha, ← ih]
          rfl

theorem bind_eq_ok_iff {ε α β : Type} (x : Except ε α) (f : α → Except ε β) (b : β) :
    (x >>= f) = .ok b ↔ ∃ a, x = .ok a ∧ f a = .ok b := by
  cases x <;> simp [bind, Except.bind]

theorem mapError_eq_ok_iff {ε ε' α : Type} (x : Except ε α) (g : ε → ε') (a : α) :
    x.mapError g = .ok a ↔ x = .ok a := by
  cases x <;> simp [Except.mapError]

/-- Two steps fail when the first fails, or when it succeeds and the second fails. -/
theorem bind_eq_error_iff {ε α β : Type} (x : Except ε α) (f : α → Except ε β) (e : ε) :
    (x >>= f) = .error e ↔ x = .error e ∨ ∃ a, x = .ok a ∧ f a = .error e := by
  cases x <;> simp [bind, Except.bind]

theorem mapError_eq_error_iff {ε ε' α : Type} (x : Except ε α) (g : ε → ε') (e : ε') :
    x.mapError g = .error e ↔ ∃ e', x = .error e' ∧ e = g e' := by
  cases x <;> simp [Except.mapError, eq_comm]

theorem pure_ne_error {ε α : Type} (a : α) (e : ε) : (pure a : Except ε α) ≠ .error e := by
  simp [pure, Except.pure]

/-- A result followed by a step that cannot fail fails exactly when the result does. -/
theorem bind_pure_eq_error_iff {ε α β : Type} (x : Except ε α) (h : α → β) (e : ε) :
    (x >>= fun a => pure (h a)) = .error e ↔ x = .error e := by
  cases x <;> simp [bind, Except.bind, pure, Except.pure]

/-- Two steps that fail on the same items with the same failures have the same first
failure on every list. -/
theorem firstFailure_congr {ε α β γ : Type} {f : α → Except ε β} {g : α → Except ε γ}
    (h : ∀ a e, f a = .error e ↔ g a = .error e) (l : List α) (e : ε) :
    FirstFailure f l e ↔ FirstFailure g l e := by
  have hOk : ∀ a, (∃ b, f a = .ok b) ↔ ∃ c, g a = .ok c := fun a => by
    cases hf : f a with
    | error e' =>
        have hg := (h a e').mp hf
        simp [hg]
    | ok b =>
        cases hg : g a with
        | error e' => simp [(h a e').mpr hg] at hf
        | ok c => simp
  unfold FirstFailure
  constructor
  · rintro ⟨pre, a, post, hSplit, hPre, ha⟩
    exact ⟨pre, a, post, hSplit, fun x hx => (hOk x).mp (hPre x hx), (h a e).mp ha⟩
  · rintro ⟨pre, a, post, hSplit, hPre, ha⟩
    exact ⟨pre, a, post, hSplit, fun x hx => (hOk x).mpr (hPre x hx), (h a e).mpr ha⟩

/-- A list has at most one first failure. -/
theorem FirstFailure.unique {ε α β : Type} {f : α → Except ε β} {l : List α} {e e' : ε}
    (h : FirstFailure f l e) (h' : FirstFailure f l e') : e = e' := by
  rw [← mapM_eq_error_iff] at h h'
  exact Except.error.inj (h.symm.trans h')

/-- The first failure of `l₁ ++ l₂` is that of `l₁`, or, when all of `l₁` succeeds, that of
`l₂`. -/
theorem firstFailure_append {ε α β : Type} (f : α → Except ε β) (l₁ l₂ : List α) (e : ε) :
    FirstFailure f (l₁ ++ l₂) e ↔
      FirstFailure f l₁ e ∨ ((∀ x ∈ l₁, ∃ b, f x = .ok b) ∧ FirstFailure f l₂ e) := by
  induction l₁ with
  | nil => simp [not_firstFailure_nil]
  | cons a l₁ ih =>
      rw [List.cons_append]
      cases ha : f a with
      | error e' =>
          rw [firstFailure_cons_of_error ha, firstFailure_cons_of_error ha]
          simp [ha]
      | ok b =>
          rw [firstFailure_cons_of_ok ha, firstFailure_cons_of_ok ha, ih]
          simp [ha]

/-- **Nested runs fail as the flat run does**: if the step on a group fails exactly as the run
of `f` over its items `g c`, the run over the groups fails exactly as the run of `f` over all
items, group after group. -/
theorem mapM_eq_error_iff_flatMap {ε γ δ α β : Type} (F : γ → Except ε δ) (g : γ → List α)
    (f : α → Except ε β) (hF : ∀ c e, F c = .error e ↔ FirstFailure f (g c) e)
    (L : List γ) (e : ε) :
    L.mapM F = .error e ↔ FirstFailure f (L.flatMap g) e := by
  rw [mapM_eq_error_iff]
  induction L with
  | nil => simp [not_firstFailure_nil]
  | cons c L ih =>
      rw [List.flatMap_cons, firstFailure_append]
      cases hc : F c with
      | error e' =>
          -- the group fails, so its own first failure is the failure of the whole run
          have hGroup := (hF c e').mp hc
          have hNotAll : ¬∀ x ∈ g c, ∃ b, f x = .ok b :=
            fun hAll => (forall_ok_iff_not_firstFailure f (g c)).mp hAll e' hGroup
          rw [firstFailure_cons_of_error hc]
          simp only [hNotAll, false_and, or_false]
          exact ⟨fun hEq => hEq ▸ hGroup, fun hFirst => hFirst.unique hGroup⟩
      | ok d =>
          -- the group succeeds, so none of its items fails
          have hAll : ∀ x ∈ g c, ∃ b, f x = .ok b :=
            (forall_ok_iff_not_firstFailure f (g c)).mpr fun e' h' =>
              by simp [(hF c e').mpr h'] at hc
          have hNone : ¬FirstFailure f (g c) e :=
            (forall_ok_iff_not_firstFailure f (g c)).mp hAll e
          rw [firstFailure_cons_of_ok hc, ih]
          simp only [hNone, false_or, and_iff_right hAll]

end RoadAtlas.Gather
