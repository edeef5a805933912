import Docstore.Sorting
import Mathlib.Data.List.Forall2
import Mathlib.Data.List.Nodup
import Mathlib.Data.List.Perm.Subperm

/-!
# Outcomes and lists

What a computation that may fail did if it succeeded, step by step and item by item, and what
sorting does to two lists whose items correspond.

* `bind_eq_ok`, `map_eq_ok` — a successful sequence is two successful steps.
* `mapM_eq_ok` — a list is mapped successfully exactly if each of its items is; it is not exactly if
  one of them is not (`mapM_eq_error_iff`).
* `Sorting.sort_forall₂` — sorting by corresponding orders keeps a correspondence.
* `Sorting.sort_eq_iff_perm` — lists are sorted alike exactly if they have the same items; so are
  entries with different names (`Sorting.sort_by_name_eq_iff_perm`).
-/

namespace Docstore

variable {α β ε : Type}

theorem bind_eq_ok {x : Except ε α} {f : α → Except ε β} {b : β} :
    (x >>= f) = .ok b ↔ ∃ a, x = .ok a ∧ f a = .ok b := by
  cases x <;> simp [bind, Except.bind]

theorem map_eq_ok {x : Except ε α} {f : α → β} {b : β} :
    x.map f = .ok b ↔ ∃ a, x = .ok a ∧ f a = b := by
  cases x <;> simp [Except.map]

theorem mapError_eq_ok {ε' : Type} {x : Except ε α} {f : ε → ε'} {a : α} :
    x.mapError f = .ok a ↔ x = .ok a := by
  cases x <;> simp [Except.mapError]

/-- A list is mapped successfully exactly if each of its items is. -/
theorem mapM_eq_ok {f : α → Except ε β} :
    ∀ {xs : List α} {ys : List β}, xs.mapM f = .ok ys ↔ List.Forall₂ (fun x y => f x = .ok y) xs ys
  | [], ys => by
    rw [List.mapM_nil, List.forall₂_nil_left_iff]
    exact ⟨fun h => (Except.ok.inj h).symm, fun h => h ▸ rfl⟩
  | x :: xs, ys => by
    rw [List.mapM_cons, List.forall₂_cons_left_iff]
    constructor
    · intro h
      obtain ⟨y, hy, h⟩ := bind_eq_ok.mp h
      obtain ⟨rest, hrest, h⟩ := bind_eq_ok.mp h
      exact ⟨y, rest, hy, mapM_eq_ok.mp hrest, (Except.ok.inj h).symm⟩
    · rintro ⟨y, rest, hy, hrest, rfl⟩
      rw [hy, mapM_eq_ok.mpr hrest]
      rfl

/-- A list is not mapped exactly if one of its items is not. -/
theorem mapM_eq_error_iff {f : α → Except ε β} {xs : List α} :
    (∃ e, xs.mapM f = .error e) ↔ ∃ x ∈ xs, ∃ e, f x = .error e := by
  induction xs with
  | nil => simp [pure, Except.pure]
  | cons x rest ih =>
    simp only [List.mapM_cons, List.exists_mem_cons_iff, ← ih]
    cases f x with
    | error e => simp [bind, Except.bind]
    | ok y => cases rest.mapM f <;> simp [bind, Except.bind, pure, Except.pure]

/-- What corresponds to items has an item that it corresponds to. -/
theorem exists_of_mem_right {R : α → β → Prop} {xs : List α} {ys : List β}
    (h : List.Forall₂ R xs ys) {y : β} (hy : y ∈ ys) : ∃ x ∈ xs, R x y := by
  induction h with
  | nil => cases hy
  | cons hxy _ ih =>
    rcases List.mem_cons.mp hy with rfl | hy
    · exact ⟨_, List.mem_cons_self, hxy⟩
    · obtain ⟨x, hx, hxy⟩ := ih hy
      exact ⟨x, List.mem_cons_of_mem _ hx, hxy⟩

/-- What stands at a place has what corresponds to it at the same place. -/
theorem exists_of_getElem? {R : α → β → Prop} {xs : List α} {ys : List β}
    (h : List.Forall₂ R xs ys) {i : Nat} {x : α} (hx : xs[i]? = some x) :
    ∃ y, ys[i]? = some y ∧ R x y := by
  induction h generalizing i with
  | nil => cases hx
  | cons hxy _ ih =>
    cases i with
    | zero =>
      cases hx
      exact ⟨_, rfl, hxy⟩
    | succ i => exact ih hx

namespace Sorting

/-- Placing corresponding items keeps a correspondence that the orders respect. -/
theorem place_forall₂ {R : α → β → Prop} {le : α → α → Bool} {le' : β → β → Bool}
    (hle : ∀ x y x' y', R x x' → R y y' → le x y = le' x' y') {x : α} {x' : β} (hx : R x x')
    {ys : List α} {ys' : List β} (hys : List.Forall₂ R ys ys') :
    List.Forall₂ R (place le x ys) (place le' x' ys') := by
  induction hys with
  | nil => exact .cons hx .nil
  | cons hy hrest ih =>
    unfold place
    rw [← hle _ _ _ _ hx hy]
    split
    · exact .cons hx (.cons hy hrest)
    · exact .cons hy ih

/-- **Sorting keeps a correspondence** that the orders respect. -/
theorem sort_forall₂ {R : α → β → Prop} {le : α → α → Bool} {le' : β → β → Bool}
    (hle : ∀ x y x' y', R x x' → R y y' → le x y = le' x' y') {xs : List α} {xs' : List β}
    (hxs : List.Forall₂ R xs xs') : List.Forall₂ R (sort le xs) (sort le' xs') := by
  induction hxs with
  | nil => exact .nil
  | cons hx _ ih => exact place_forall₂ hle hx ih

theorem map_sort {f : α → β} {le : α → α → Bool} {le' : β → β → Bool}
    (hle : ∀ x y, le x y = le' (f x) (f y)) (xs : List α) :
    (sort le xs).map f = sort le' (xs.map f) := by
  have himage : List.Forall₂ (fun x y => f x = y) xs (xs.map f) :=
    List.forall₂_map_right_iff.mpr (List.forall₂_same.mpr fun _ _ => rfl)
  have hsorted : List.Forall₂ (fun x y => f x = y) (sort le xs) (sort le' (xs.map f)) := by
    refine sort_forall₂ (fun x y x' y' hx hy => ?_) himage
    rw [hle, hx, hy]
  have heq := List.forall₂_map_left_iff.mpr hsorted
  rwa [List.forall₂_eq_eq_eq] at heq

/-- Lists are sorted alike exactly if they have the same items, provided that the order tells the
items apart. -/
theorem sort_eq_iff_perm {le : α → α → Bool} (total : ∀ a b, le a b = true ∨ le b a = true)
    (trans : ∀ a b c, le a b = true → le b c = true → le a c = true) {xs ys : List α}
    (antisymm : ∀ a ∈ xs, ∀ b ∈ xs, le a b = true → le b a = true → a = b) :
    sort le xs = sort le ys ↔ xs.Perm ys := by
  constructor
  · intro h
    have hperm := sort_perm le xs
    rw [h] at hperm
    exact hperm.symm.trans (sort_perm le ys)
  · intro hperm
    refine List.Perm.eq_of_pairwise ?_ (sort_ascends total trans xs) (sort_ascends total trans ys)
      ((sort_perm le xs).trans (hperm.trans (sort_perm le ys).symm))
    intro a b ha hb
    have hb' : b ∈ xs := hperm.mem_iff.mpr ((sort_perm le ys).mem_iff.mp hb)
    exact antisymm a ((sort_perm le xs).mem_iff.mp ha) b hb'

/-- Entries with different names are sorted alike by their names exactly if they are the same. -/
theorem sort_by_name_eq_iff_perm {xs ys : List (String × α)} (hnodup : (xs.map (·.1)).Nodup) :
    sort (fun x y => decide (x.1 ≤ y.1)) xs = sort (fun x y => decide (x.1 ≤ y.1)) ys ↔
      xs.Perm ys := by
  refine sort_eq_iff_perm ?_ ?_ ?_
  · intro a b
    simpa using String.le_total a.1 b.1
  · intro a b c hab hbc
    rw [decide_eq_true_eq] at hab hbc ⊢
    exact String.le_trans hab hbc
  · intro a ha b hb hab hba
    rw [decide_eq_true_eq] at hab hba
    exact List.inj_on_of_nodup_map hnodup ha hb (String.le_antisymm hab hba)

end Sorting

end Docstore
