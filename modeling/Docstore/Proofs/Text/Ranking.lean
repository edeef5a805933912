import Docstore.Proofs.Outcome
import Docstore.Proofs.Text.Matching
import Mathlib.Algebra.Order.Field.Basic
import Mathlib.Algebra.Order.Field.Rat
import Mathlib.Tactic.Ring
import Mathlib.Tactic.Linarith

/-!
# The closest candidates

Candidates are ranked by their likeness, and by their texts where that is the same.  Likenesses are
compared crosswise, without division; as no total is zero, this is the order of the fractions.

* `Ratio.le_iff`, `Ratio.isClose_iff` — what is compared are the fractions.
* `closest_eq_take` — what is picked are the first of the close candidates in descending order.
* `mem_take_or_preferred` — so a close candidate that is not picked comes after as many as there may
  be.
-/

namespace Docstore.Similarity

/-! ## Likeness -/

namespace Ratio

/-- A likeness as a fraction. -/
def value (r : Ratio) : ℚ :=
  2 * r.count / r.total

variable {r s : Ratio}

theorem of_total_pos (count total : Nat) : 0 < (of count total).total := by
  unfold of
  split
  · exact Nat.two_pos
  · exact Nat.pos_of_ne_zero ‹_›

theorem le_iff (hr : 0 < r.total) (hs : 0 < s.total) : r.le s = true ↔ r.value ≤ s.value := by
  have hr' : (0 : ℚ) < r.total := by exact_mod_cast hr
  have hs' : (0 : ℚ) < s.total := by exact_mod_cast hs
  rw [le, decide_eq_true_eq, value, value, div_le_div_iff₀ hr' hs', mul_assoc, mul_assoc,
    mul_le_mul_iff_right₀ two_pos]
  exact_mod_cast Iff.rfl

theorem isClose_iff (hr : 0 < r.total) : r.isClose = true ↔ 3 / 5 ≤ r.value := by
  have hr' : (0 : ℚ) < r.total := by exact_mod_cast hr
  rw [isClose, decide_eq_true_eq, value, div_le_div_iff₀ (by norm_num) hr', ← Nat.cast_le (α := ℚ)]
  push_cast
  constructor <;> intro h <;> linarith

end Ratio

variable {α : Type} [DecidableEq α]

/-- How alike two texts are: twice the number of matched characters over the number of all
characters. -/
def likeness (first second : List α) : ℚ :=
  2 * matched first second / (first.length + second.length)

theorem ratio_total_pos (first second : List α) : 0 < (ratio first second).total :=
  Ratio.of_total_pos _ _

theorem ratio_value {first second : List α} (h : first ≠ []) :
    (ratio first second).value = likeness first second := by
  have hlength : first.length + second.length ≠ 0 := by
    have hfirst := List.length_pos_of_ne_nil h
    omega
  rw [ratio, Ratio.of, if_neg hlength, Ratio.value, likeness]
  push_cast
  rfl

/-! ## Ranking -/

/-- One scored text goes before another if it is more alike, or as alike and not earlier by its
text. -/
theorem before_iff {x y : Ratio × String} (hx : 0 < x.1.total) (hy : 0 < y.1.total) :
    before x y = true ↔ y.1.value < x.1.value ∨ y.1.value = x.1.value ∧ y.2 ≤ x.2 := by
  have hxy := Ratio.le_iff hx hy
  have hyx := Ratio.le_iff hy hx
  unfold before
  split
  · rename_i hle
    have hle' := hxy.mp hle
    split
    · rename_i hge
      have heq : y.1.value = x.1.value := le_antisymm (hyx.mp hge) hle'
      simp [heq]
    · rename_i hge
      have hlt : x.1.value < y.1.value := not_le.mp (mt hyx.mpr hge)
      simp [hlt.ne', hle']
  · rename_i hle
    have hlt : y.1.value < x.1.value := not_le.mp (mt hxy.mpr hle)
    simp [hlt]

section Closest

variable {β γ : Type} (text : List Char) (textOf : β → String)

/-- The likeness of a candidate as it is scored. -/
def score (x : β) : Ratio :=
  ratio (textOf x).toList text

/-- Whether one candidate is ranked before another. -/
def ranksBefore (x y : β) : Bool :=
  before (score text textOf x, textOf x) (score text textOf y, textOf y)

/-- The candidates that are close to a text, in the order in which they are ranked. -/
def rankedClose (candidates : List β) : List β :=
  Sorting.sort (ranksBefore text textOf)
    (candidates.filter fun x => isCandidate text (textOf x).toList)

theorem ranksBefore_iff {x y : β} : ranksBefore text textOf x y = true ↔
    (score text textOf y).value < (score text textOf x).value ∨
      (score text textOf y).value = (score text textOf x).value ∧ textOf y ≤ textOf x :=
  before_iff (ratio_total_pos _ _) (ratio_total_pos _ _)

/-- The candidates are ranked by descending likeness. -/
theorem rankedClose_descends (candidates : List β) : (rankedClose text textOf candidates).Pairwise
    fun x y => (score text textOf y).value ≤ (score text textOf x).value := by
  have hsorted : (rankedClose text textOf candidates).Pairwise (ranksBefore text textOf · · = true) := by
    refine Sorting.sort_ascends ?_ ?_ _
    · intro x y
      rw [ranksBefore_iff, ranksBefore_iff]
      rcases lt_trichotomy (score text textOf x).value (score text textOf y).value with h | h | h
      · exact .inr (.inl h)
      · rcases String.le_total (textOf x) (textOf y) with htext | htext
        · exact .inr (.inr ⟨h, htext⟩)
        · exact .inl (.inr ⟨h.symm, htext⟩)
      · exact .inl (.inl h)
    · intro x y z
      rw [ranksBefore_iff, ranksBefore_iff, ranksBefore_iff]
      rintro (hxy | ⟨hxy, htext⟩) (hyz | ⟨hyz, htext'⟩)
      · exact .inl (hyz.trans hxy)
      · exact .inl (hyz ▸ hxy)
      · exact .inl (hxy ▸ hyz)
      · exact .inr ⟨hyz.trans hxy, String.le_trans htext' htext⟩
  refine hsorted.imp fun h => ?_
  rcases (ranksBefore_iff text textOf).mp h with hlt | ⟨heq, -⟩
  · exact hlt.le
  · exact heq.le

/-- Ranking asks no more of candidates than their texts. -/
theorem rankedClose_map (f : γ → β) (candidates : List γ) :
    rankedClose text textOf (candidates.map f) =
      (rankedClose text (textOf ∘ f) candidates).map f := by
  rw [rankedClose, List.filter_map, rankedClose]
  have hle : ∀ x y, ranksBefore text (textOf ∘ f) x y = ranksBefore text textOf (f x) (f y) :=
    fun _ _ => rfl
  exact (Sorting.map_sort hle _).symm

/-- **The candidates that are picked** are the first of those that are close. -/
theorem closest_eq_take (limit : Nat) (candidates : List β) :
    closest limit text textOf candidates = (rankedClose text textOf candidates).take limit := by
  have hscored : (candidates.filterMap fun x =>
        if isCandidate text (textOf x).toList then some (ratio (textOf x).toList text, x) else none) =
      (candidates.filter fun x => isCandidate text (textOf x).toList).map
        fun x => (score text textOf x, x) := by
    rw [← List.filterMap_eq_map, List.filterMap_filter]
    rfl
  have hsorted : (rankedClose text textOf candidates).map (fun x => (score text textOf x, x)) =
      Sorting.sort (fun x y => before (x.1, textOf x.2) (y.1, textOf y.2))
        ((candidates.filter fun x => isCandidate text (textOf x).toList).map
          fun x => (score text textOf x, x)) := by
    refine Sorting.map_sort ?_ _
    exact fun _ _ => rfl
  simp only [closest, ranked]
  rw [hscored, ← hsorted, ← List.map_take, List.map_map]
  exact List.map_id _

end Closest

/-- What is in a list and not among its first items comes after as many as there may be. -/
theorem mem_take_or_preferred {β : Type} {R : β → β → Prop} {xs : List β} (h : xs.Pairwise R)
    {limit : Nat} {y : β} (hy : y ∈ xs) (hnot : y ∉ xs.take limit) :
    (xs.take limit).length = limit ∧ ∀ x ∈ xs.take limit, R x y := by
  rw [← List.take_append_drop limit xs] at h hy
  have hdrop : y ∈ xs.drop limit := (List.mem_append.mp hy).resolve_left hnot
  refine ⟨?_, fun x hx => (List.pairwise_append.mp h).2.2 x hx y hdrop⟩
  have hlength := List.length_pos_of_mem hdrop
  rw [List.length_drop] at hlength
  rw [List.length_take]
  omega

end Docstore.Similarity
