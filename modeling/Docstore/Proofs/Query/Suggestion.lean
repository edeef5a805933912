import Docstore.Proofs.Text.Ranking
import Docstore.Query.Fragment

/-!
# Suggested operators

The refusal of a text that names no operator suggests operators that are like it.  The cheap bounds
that are looked at first save work and change nothing: what is suggested depends on the likeness of
each operator, and on the texts of those that are equally like it.

* `Suggested` — what the suggestions in place of a text are.
* `Operator.resolve_unsupported` — an operator that is not supported is refused with them.
-/

namespace Docstore

open Similarity

/-- How alike an operator is to a text. -/
def Operator.likenessTo (s operator : String) : ℚ :=
  likeness operator.toList s.toList

/-- What is suggested in place of a text. -/
structure Suggested (s : String) (suggestions : List String) : Prop where
  nodup : suggestions.Nodup
  supported : ∀ p ∈ suggestions, p ∈ Operator.texts
  few : suggestions.length ≤ 3
  /-- The operators that are most alike come first. -/
  descending : suggestions.Pairwise fun p q => Operator.likenessTo s q ≤ Operator.likenessTo s p
  close : ∀ p ∈ suggestions, 3 / 5 ≤ Operator.likenessTo s p
  /-- An operator that is close and not suggested comes after three others. -/
  complete : ∀ q ∈ Operator.texts, 3 / 5 ≤ Operator.likenessTo s q → q ∉ suggestions →
    suggestions.length = 3 ∧ ∀ p ∈ suggestions, Operator.likenessTo s q ≤ Operator.likenessTo s p
  /-- With the cheap bounds or without them, the same operators are close. -/
  unfiltered : ∀ q ∈ Operator.texts,
    isCandidate s.toList q.toList = true ↔ 3 / 5 ≤ Operator.likenessTo s q
  /-- The characters that are counted are those of the matching by longest blocks. -/
  matching : ∀ q ∈ Operator.texts, ∀ n, matched q.toList s.toList = n ↔
    Matching (fun c => !isPopular s.toList c) q.toList s.toList n

namespace Operator

theorem texts_nonempty : ∀ q ∈ texts, q.toList ≠ [] := by
  decide

theorem texts_nodup : texts.Nodup := by
  decide

/-- The operators that are close to a text, the most alike first. -/
def ranking (s : String) : List String :=
  rankedClose s.toList id texts

theorem ranking_perm (s : String) :
    (ranking s).Perm (texts.filter fun q => isCandidate s.toList q.toList) :=
  Sorting.sort_perm _ _

theorem isCandidate_iff_likenessTo {s q : String} (hq : q ∈ texts) :
    isCandidate s.toList q.toList = true ↔ 3 / 5 ≤ likenessTo s q := by
  rw [isCandidate_iff, Ratio.isClose_iff (ratio_total_pos _ _), ratio_value (texts_nonempty q hq)]
  rfl

theorem mem_ranking_iff {s q : String} :
    q ∈ ranking s ↔ q ∈ texts ∧ 3 / 5 ≤ likenessTo s q := by
  rw [(ranking_perm s).mem_iff, List.mem_filter]
  exact and_congr_right fun hq => isCandidate_iff_likenessTo hq

theorem ranking_descends (s : String) :
    (ranking s).Pairwise fun p q => likenessTo s q ≤ likenessTo s p := by
  refine (rankedClose_descends s.toList id texts).imp_of_mem fun {p q} hp hq h => ?_
  have hp' := texts_nonempty p (mem_ranking_iff.mp hp).1
  have hq' := texts_nonempty q (mem_ranking_iff.mp hq).1
  rw [score, score, id, id, ratio_value hp', ratio_value hq'] at h
  exact h

/-- **The first three of the ranking are what is suggested.** -/
theorem suggested_take_ranking (s : String) : Suggested s ((ranking s).take 3) where
  nodup := ((ranking_perm s).nodup_iff.mpr (texts_nodup.filter _)).sublist (List.take_sublist _ _)
  supported := fun _ hp => (mem_ranking_iff.mp (List.mem_of_mem_take hp)).1
  few := List.length_take_le _ _
  descending := (ranking_descends s).sublist (List.take_sublist _ _)
  close := fun _ hp => (mem_ranking_iff.mp (List.mem_of_mem_take hp)).2
  complete := fun _ hq hclose hnot =>
    mem_take_or_preferred (ranking_descends s) (mem_ranking_iff.mpr ⟨hq, hclose⟩) hnot
  unfiltered := fun _ hq => isCandidate_iff_likenessTo hq
  matching := fun _ _ _ => matchedIn_eq_iff (Nat.le_refl _)

/-- Of four operators that are close the last is not suggested, though it is as close as the third. -/
example : (ranking "glte").take 3 = ["lte", "gte", "lt"] ∧ "gt" ∈ ranking "glte" := by
  decide +kernel

theorem suggestions_eq (s : String) : Refusal.suggestions s (texts.map .str) =
    ((ranking s).take 3).map .str := by
  have htexts : Refusal.textOf ∘ Value.str = id := rfl
  rw [Refusal.suggestions, closest_eq_take, rankedClose_map, htexts, List.map_take]
  rfl

/-- **An operator that is not supported is refused** with the supported ones that are most like
it. -/
theorem resolve_unsupported (s : String) (hs : s ∉ texts) : ∃ suggestions : List String,
    resolve (.str s) = .error (.refusal
      (.unsupportedOperator (.str s) (texts.map .str) (suggestions.map .str))) ∧
    Suggested s suggestions := by
  refine ⟨(ranking s).take 3, ?_, suggested_take_ranking s⟩
  have hnone : ofText? s = none := by
    refine List.find?_eq_none.mpr fun op hop htext => hs ?_
    rw [← beq_iff_eq.mp htext]
    exact List.mem_map_of_mem hop
  rw [← suggestions_eq]
  simp only [resolve, Value.text?, Option.bind_some, hnone]
  rfl

theorem resolve_unsupported_misspelled : "glte" ∉ texts ∧ ∃ suggestions : List String,
    resolve (.str "glte") = .error (.refusal
      (.unsupportedOperator (.str "glte") (texts.map .str) (suggestions.map .str))) ∧
    Suggested "glte" suggestions :=
  ⟨by decide, resolve_unsupported "glte" (by decide)⟩

end Operator

end Docstore
