import Docstore.Proofs.Query.Numbering
import Docstore.Proofs.Text.Listed

/-!
# Outlines filled twice

An outline that is filled with other placeholders is another statement, whatever stands in its slots.
What stands before a placeholder and behind it is the same in both; a placeholder ends where no digit
follows, and none does.

* `placeholder_append_injective` — where a placeholder ends.
* `numbers_eq_of_joined_eq` — a statement shows the placeholders that its outline was filled with.
-/

namespace Docstore

open Binder (placeholder)
open Text (append_span_injective)

/-- Whether the first character of what follows is no digit. -/
def EndsNumber (r : List Char) : Prop :=
  ∃ c rest, r = c :: rest ∧ c.isDigit = false

theorem EndsNumber.append {r : List Char} (h : EndsNumber r) (s : List Char) :
    EndsNumber (r ++ s) := by
  obtain ⟨c, rest, rfl, hc⟩ := h
  exact ⟨c, rest ++ s, rfl, hc⟩

/-- **A placeholder ends where no digit follows.** -/
theorem placeholder_append_injective {m n : Nat} {r s : List Char} (hr : EndsNumber r)
    (hs : EndsNumber s) (h : (placeholder m).toList ++ r = (placeholder n).toList ++ s) :
    m = n ∧ r = s := by
  obtain ⟨a, r', rfl, ha⟩ := hr
  obtain ⟨b, s', rfl, hb⟩ := hs
  rw [Binder.placeholder_toList, Binder.placeholder_toList, List.append_assoc,
    List.append_assoc] at h
  have ha' : ¬a.isDigit = true := by simp [ha]
  have hb' : ¬b.isDigit = true := by simp [hb]
  obtain ⟨hdigits, rfl, hrest⟩ := append_span_injective ha' hb'
    (Binary64.allDigits_toDigits m) (Binary64.allDigits_toDigits n) (List.append_cancel_left h)
  exact ⟨Json.toDigits_injective hdigits, by rw [hrest]⟩

/-! ## Slots -/

variable {names : FieldNames}

/-- What stands around the placeholder of a fragment does not depend on it. -/
theorem Fragment.split (op : Operator) (field : String) : ∃ front back : List Char,
    (back = [] ∨ EndsNumber back) ∧
    ∀ p : String, (Fragment.text op field p).toList = front ++ (p.toList ++ back) := by
  unfold Fragment.text
  cases op.form with
  | symbol symbol =>
    refine ⟨(field ++ " " ++ symbol ++ " ").toList, [], .inl rfl, fun p => ?_⟩
    simp only [String.toList_append, List.append_nil, List.append_assoc]
  | function name =>
    refine ⟨(name ++ "(" ++ field ++ ", ").toList, [')'], .inr ⟨')', [], rfl, rfl⟩, fun p => ?_⟩
    simp only [String.toList_append, List.append_assoc]
    rfl
  | membership =>
    refine ⟨"ARRAY_CONTAINS(".toList, ", ".toList ++ (field ++ ")").toList,
      .inr ⟨',', _, rfl, rfl⟩, fun p => ?_⟩
    simp only [String.toList_append, List.append_assoc]

/-- The clause of a slot shows its placeholder. -/
theorem Slot.text_append_injective (s : Slot) {m n : Nat} {r u : List Char} (hr : EndsNumber r)
    (hu : EndsNumber u) (h : (s.text names (placeholder m)).toList ++ r =
      (s.text names (placeholder n)).toList ++ u) : m = n ∧ r = u := by
  obtain ⟨front, back, hback, hsplit⟩ := Fragment.split s.operator (names.ref s.field)
  have hends : ∀ {t : List Char}, EndsNumber t → EndsNumber (back ++ t) := by
    intro t ht
    rcases hback with rfl | hback
    · exact ht
    · exact hback.append t
  unfold Slot.text at h
  simp only [String.toList_append, hsplit, List.append_assoc] at h
  obtain ⟨hnumber, hrest⟩ := placeholder_append_injective (hends hr) (hends hu)
    (List.append_cancel_left (List.append_cancel_left (List.append_cancel_left h)))
  exact ⟨hnumber, List.append_cancel_left hrest⟩

namespace Statement

/-- The clauses of a filter, each behind a blank. -/
def spacedClauses (names : FieldNames) (slots : List Slot) (numbers : List Nat) : List Char :=
  (List.zipWith (Slot.text names) slots (numbers.map placeholder)).flatMap
    fun t => ' ' :: t.toList

theorem spacedClauses_cons (s : Slot) (slots : List Slot) (n : Nat) (numbers : List Nat) :
    spacedClauses names (s :: slots) (n :: numbers) =
      ' ' :: ((s.text names (placeholder n)).toList ++ spacedClauses names slots numbers) := by
  simp [spacedClauses]

theorem spacedClauses_ends (slots : List Slot) (numbers : List Nat) {r : List Char}
    (hr : EndsNumber r) : EndsNumber (spacedClauses names slots numbers ++ r) := by
  cases slots with
  | nil => exact hr
  | cons s slots =>
    cases numbers with
    | nil => exact hr
    | cons n numbers =>
      rw [spacedClauses_cons]
      exact ⟨' ', _, rfl, rfl⟩

/-- Clauses show their placeholders. -/
theorem spacedClauses_append_injective : ∀ {slots : List Slot} {ms ns : List Nat}
    {r u : List Char}, ms.length = slots.length → ns.length = slots.length → EndsNumber r →
    EndsNumber u → spacedClauses names slots ms ++ r = spacedClauses names slots ns ++ u → ms = ns
  | [], ms, ns, _, _, hm, hn, _, _, _ => by
    rw [List.eq_nil_of_length_eq_zero hm, List.eq_nil_of_length_eq_zero hn]
  | s :: slots, [], _, _, _, hm, _, _, _, _ => by cases hm
  | s :: slots, _ :: _, [], _, _, _, hn, _, _, _ => by cases hn
  | s :: slots, m :: ms, n :: ns, r, u, hm, hn, hr, hu, h => by
    rw [spacedClauses_cons, spacedClauses_cons] at h
    simp only [List.cons_append, List.append_assoc, List.cons.injEq, true_and] at h
    obtain ⟨rfl, hrest⟩ := s.text_append_injective (spacedClauses_ends slots ms hr)
      (spacedClauses_ends slots ns hu) h
    rw [spacedClauses_append_injective (Nat.succ.inj hm) (Nat.succ.inj hn) hr hu hrest]

/-! ## Statements -/

theorem filterText_toList {slots : List Slot} (hslots : slots ≠ []) (numbers : List Nat) :
    (filterText names slots (numbers.map placeholder)).toList =
      anchor.toList ++ spacedClauses names slots numbers := by
  rw [filterText, if_neg (by simpa using hslots), Filter.intercalate_cons_toList]
  rfl

/-- What stands before the filter of a statement and behind it. -/
theorem joined_toList (select : String) {filter : String} (hfilter : filter.toList ≠ [])
    (parts : List String) : ∃ tail, (tail = [] ∨ EndsNumber tail) ∧
    (joined (select :: filter :: parts)).toList =
      (if select.isEmpty then [] else select.toList ++ [' ']) ++ (filter.toList ++ tail) := by
  have hshown : filter.isEmpty = false := by
    simpa using hfilter
  let rest := parts.filter (!·.isEmpty)
  refine ⟨rest.flatMap fun u => ' ' :: u.toList, ?_, ?_⟩
  · cases rest with
    | nil => exact .inl rfl
    | cons t rest => exact .inr ⟨' ', _, rfl, rfl⟩
  · have hkept : (select :: filter :: parts).filter (!·.isEmpty) =
        if select.isEmpty then filter :: rest else select :: filter :: rest := by
      by_cases hselect : select.isEmpty = true <;> simp [hselect, hshown, rest]
    rw [joined, hkept]
    split <;> rw [Filter.intercalate_cons_toList]
    · rfl
    · rw [List.flatMap_cons]
      simp

/-- **A statement shows the placeholders** that its outline was filled with. -/
theorem numbers_eq_of_joined_eq {select : String} {slots : List Slot} {ms ns : List Nat}
    {parts parts' : List String} (hm : ms.length = slots.length) (hn : ns.length = slots.length)
    (h : joined (select :: filterText names slots (ms.map placeholder) :: parts) =
      joined (select :: filterText names slots (ns.map placeholder) :: parts')) : ms = ns := by
  by_cases hslots : slots = []
  · subst hslots
    rw [List.eq_nil_of_length_eq_zero hm, List.eq_nil_of_length_eq_zero hn]
  · have hne : ∀ numbers : List Nat, (filterText names slots (numbers.map placeholder)).toList ≠ [] := by
      intro numbers
      rw [filterText_toList hslots]
      exact List.append_ne_nil_of_left_ne_nil (by decide) _
    obtain ⟨tail, htail, hms⟩ := joined_toList select (hne ms) parts
    obtain ⟨tail', htail', hns⟩ := joined_toList select (hne ns) parts'
    have hends : ∀ {t : List Char}, t = [] ∨ EndsNumber t → EndsNumber (t ++ [' ']) := by
      rintro t (rfl | ht)
      · exact ⟨' ', [], rfl, rfl⟩
      · exact ht.append [' ']
    rw [← String.toList_inj, hms, hns, filterText_toList hslots, filterText_toList hslots] at h
    have hclauses := congrArg (· ++ [' ']) (List.append_cancel_left h)
    simp only [List.append_assoc] at hclauses
    exact spacedClauses_append_injective hm hn (hends htail) (hends htail')
      (List.append_cancel_left hclauses)

end Statement

end Docstore
