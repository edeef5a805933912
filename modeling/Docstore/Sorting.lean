/-!
# Sorting

Sorting by insertion: structurally recursive, so that sorted lists evaluate inside proofs, and
stable.  The order may be any function; two further properties make the result meaningful.

Main statements: sorting only rearranges (`sort_perm`); under a total, transitive order the result
ascends (`sort_ascends`).
-/

namespace Docstore.Sorting

variable {α : Type}

/-- Puts an item in front of the first item that may follow it. -/
def place (le : α → α → Bool) (x : α) : List α → List α
  | [] => [x]
  | y :: rest => if le x y then x :: y :: rest else y :: place le x rest

/-- The items in ascending order; items that may stand either way keep their order. -/
def sort (le : α → α → Bool) : List α → List α
  | [] => []
  | x :: rest => place le x (sort le rest)

theorem place_perm (le : α → α → Bool) (x : α) (xs : List α) : (place le x xs).Perm (x :: xs) := by
  induction xs with
  | nil => exact .refl _
  | cons y rest ih =>
    unfold place
    split
    · exact .refl _
    · exact (ih.cons y).trans (.swap x y rest)

theorem sort_perm (le : α → α → Bool) (xs : List α) : (sort le xs).Perm xs := by
  induction xs with
  | nil => exact .refl _
  | cons x rest ih => exact (place_perm le x _).trans (ih.cons x)

theorem place_ascends {le : α → α → Bool} (total : ∀ a b, le a b = true ∨ le b a = true)
    (trans : ∀ a b c, le a b = true → le b c = true → le a c = true) (x : α) {xs : List α}
    (h : xs.Pairwise (le · · = true)) : (place le x xs).Pairwise (le · · = true) := by
  induction xs with
  | nil => simp [place]
  | cons y rest ih =>
    unfold place
    cases h with
    | cons first later =>
      split
      · rename_i hxy
        refine .cons ?_ (.cons first later)
        intro z hz
        rcases List.mem_cons.mp hz with rfl | hz
        · exact hxy
        · exact trans x y z hxy (first z hz)
      · rename_i hxy
        refine .cons ?_ (ih later)
        intro z hz
        rcases List.mem_cons.mp ((place_perm le x rest).mem_iff.mp hz) with rfl | hz
        · exact (total z y).resolve_left hxy
        · exact first z hz

theorem sort_ascends {le : α → α → Bool} (total : ∀ a b, le a b = true ∨ le b a = true)
    (trans : ∀ a b c, le a b = true → le b c = true → le a c = true) (xs : List α) :
    (sort le xs).Pairwise (le · · = true) := by
  induction xs with
  | nil => exact .nil
  | cons x rest ih => exact place_ascends total trans x ih

end Docstore.Sorting
