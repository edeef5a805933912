import Docstore.Proofs.Text.LongestBlock
import Mathlib.Data.List.Lattice
import Mathlib.Data.List.Perm.Subperm

/-!
# Matched characters

Two texts are matched by a block of equal characters and by what is matched left and right of it.
That the blocks are the longest ones decides how many characters are matched, and that they agree
bounds the number: left of a block, within it and right of it each character is matched with one that
is equal, so that no more of a kind are matched than both texts have.

* `matchedIn_eq_iff` — the number that is computed is that of the only matching by longest blocks.
* `matched_le_common`, `common_le_min` — the number is bounded by the number of characters in common,
  and this one by the lengths.
* `isCandidate_iff` — so no candidate is lost to the cheap bounds.
-/

namespace Docstore.Similarity

variable {α : Type}

/-- How many characters of two texts are matched: those of the longest block of rare characters,
extended as far as the texts agree, and those that are matched on either side of it. -/
inductive Matching (rare : α → Bool) : List α → List α → Nat → Prop where
  | apart {first second : List α} {b e : Block} (longest : b.IsLongest rare first second)
    (extended : e.IsExtension first second b) (empty : e.size = 0) : Matching rare first second 0
  | joined {first second : List α} {b e : Block} {left right : Nat}
    (longest : b.IsLongest rare first second) (extended : e.IsExtension first second b)
    (nonempty : 0 < e.size)
    (before : Matching rare (first.take e.first) (second.take e.second) left)
    (after : Matching rare (first.drop (e.first + e.size)) (second.drop (e.second + e.size)) right) :
    Matching rare first second (left + e.size + right)

/-- Texts fall apart at a block: the part between is the same in both. -/
theorem Block.Agrees.split {test : α → Bool} {first second : List α} {b : Block}
    (h : b.Agrees test first second) :
    ∃ part : List α, part.length = b.size ∧
      first = first.take b.first ++ part ++ first.drop (b.first + b.size) ∧
      second = second.take b.second ++ part ++ second.drop (b.second + b.size) := by
  have hle := h.first_le
  have hpart : (first.drop b.first).take b.size = (second.drop b.second).take b.size := by
    refine List.ext_getElem? fun k => ?_
    rw [List.getElem?_take, List.getElem?_take]
    split
    · obtain ⟨c, hc, hd, -⟩ := h.agree k ‹_›
      rw [List.getElem?_drop, List.getElem?_drop, hc, hd]
    · rfl
  refine ⟨(first.drop b.first).take b.size, ?_, ?_, ?_⟩
  · rw [List.length_take, List.length_drop]
    omega
  · rw [List.append_assoc, ← List.drop_drop, List.take_append_drop, List.take_append_drop]
  · rw [hpart, List.append_assoc, ← List.drop_drop, List.take_append_drop, List.take_append_drop]

variable [DecidableEq α] {rare : α → Bool} {first second : List α}

/-! ## The only matching -/

/-- The number that is computed is that of a matching, if there are as many rounds as the first text
has characters. -/
theorem matchedIn_matching : ∀ (fuel : Nat) {first second : List α}, first.length ≤ fuel →
    Matching rare first second (matchedIn rare fuel first second)
  | 0, first, second, hfuel => by
    obtain ⟨b, hlongest, hextended⟩ := longestBlock_isExtension rare first second
    have hle := hextended.agrees.first_le
    exact .apart hlongest hextended (by omega)
  | fuel + 1, first, second, hfuel => by
    obtain ⟨b, hlongest, hextended⟩ := longestBlock_isExtension rare first second
    have hle := hextended.agrees.first_le
    rw [matchedIn]
    split
    · exact .apart hlongest hextended ‹_›
    · refine .joined hlongest hextended (Nat.pos_of_ne_zero ‹_›) (matchedIn_matching fuel ?_)
        (matchedIn_matching fuel ?_)
      · rw [List.length_take]
        omega
      · rw [List.length_drop]
        omega

/-- A matching has no other number than the one that is computed. -/
theorem Matching.eq_matchedIn {n : Nat} (h : Matching rare first second n) :
    ∀ fuel, first.length ≤ fuel → n = matchedIn rare fuel first second := by
  induction h with
  | apart hlongest hextended hempty =>
    intro fuel _
    cases fuel with
    | zero => rfl
    | succ fuel =>
      unfold matchedIn
      rw [longestBlock_eq hlongest hextended, if_pos hempty]
  | joined hlongest hextended hsize _ _ hbefore hafter =>
    intro fuel hfuel
    have hle := hextended.agrees.first_le
    cases fuel with
    | zero => omega
    | succ fuel =>
      unfold matchedIn
      rw [longestBlock_eq hlongest hextended, if_neg (Nat.ne_of_gt hsize),
        ← hbefore fuel (by rw [List.length_take]; omega),
        ← hafter fuel (by rw [List.length_drop]; omega)]

/-- **The number of matched characters** is that of the only matching by longest blocks. -/
theorem matchedIn_eq_iff {fuel n : Nat} (hfuel : first.length ≤ fuel) :
    matchedIn rare fuel first second = n ↔ Matching rare first second n := by
  constructor
  · rintro rfl
    exact matchedIn_matching fuel hfuel
  · exact fun h => (h.eq_matchedIn fuel hfuel).symm

/-! ## Bounds -/

theorem common_eq_length_bagInter : ∀ first second : List α,
    common first second = (first.bagInter second).length
  | [], second => by simp [common]
  | c :: rest, second => by
    rw [common, List.cons_bagInter, common_eq_length_bagInter rest, common_eq_length_bagInter rest]
    by_cases hc : c ∈ second <;> simp [hc]

theorem common_le_min (first second : List α) :
    common first second ≤ min first.length second.length := by
  rw [common_eq_length_bagInter]
  refine Nat.le_min.mpr ⟨List.bagInter_sublist_left.length_le, ?_⟩
  refine List.Subperm.length_le (List.subperm_iff_count.mpr fun c => ?_)
  rw [List.count_bagInter]
  exact Nat.min_le_right _ _

/-- Texts with a part in common have its characters in common, and those that the parts on either
side have. -/
theorem common_append_le (left left' part right right' : List α) :
    common left left' + part.length + common right right' ≤
      common (left ++ part ++ right) (left' ++ part ++ right') := by
  simp only [common_eq_length_bagInter, ← List.length_append]
  refine List.Subperm.length_le (List.subperm_iff_count.mpr fun c => ?_)
  simp only [List.count_append, List.count_bagInter]
  omega

/-- **No more characters are matched than the texts have in common.** -/
theorem Matching.le_common {n : Nat} (h : Matching rare first second n) :
    n ≤ common first second := by
  induction h with
  | apart => exact Nat.zero_le _
  | @joined first second b e left right _ hextended _ _ _ hbefore hafter =>
    obtain ⟨part, hpart, hfirst, hsecond⟩ := hextended.agrees.split
    have hparts := common_append_le (first.take e.first) (second.take e.second) part
      (first.drop (e.first + e.size)) (second.drop (e.second + e.size))
    rw [← hfirst, ← hsecond, hpart] at hparts
    omega

theorem matched_le_common (first second : List α) : matched first second ≤ common first second :=
  (matchedIn_matching first.length (Nat.le_refl _)).le_common

/-! ## Candidates -/

theorem Ratio.isClose_of_le {m n total : Nat} (hmn : m ≤ n) (h : (Ratio.of m total).isClose = true) :
    (Ratio.of n total).isClose = true := by
  unfold Ratio.of Ratio.isClose at *
  split at h <;> simp_all
  omega

/-- **The cheap bounds refuse no candidate that is close.** -/
theorem isCandidate_iff {text candidate : List α} :
    isCandidate text candidate = true ↔ (ratio candidate text).isClose = true := by
  unfold isCandidate
  rw [Bool.and_eq_true, Bool.and_eq_true]
  refine ⟨fun h => h.2, fun h => ⟨⟨?_, ?_⟩, h⟩⟩
  · exact Ratio.isClose_of_le (Nat.le_trans (matched_le_common candidate text) (common_le_min _ _)) h
  · exact Ratio.isClose_of_le (matched_le_common candidate text) h

end Docstore.Similarity
