import Docstore.Proofs.Query.Outline
import Mathlib.Data.List.TakeWhile

/-!
# References of statements

A reference is a maximal token of a text that is the stem of placeholders and digits behind it, as
the store finds the placeholders of a statement.  The references of a statement are the placeholders
that its outline was filled with, in order, provided that the selection and the names in it do not
contain the mark that placeholders start with.

* `references_delimited` — a text is searched part by part, between characters that no reference
  contains.
* `references_placeholder` — a placeholder is one reference, with all of its digits.
* `references_filled` — the references of a filled outline are what it was filled with.
-/

namespace Docstore

open Binder (placeholder stem)

/-- The reference at the front of a text. -/
def referenceAt? (cs : List Char) : Option String :=
  match stem.toList.isPrefixOf? cs with
  | none => none
  | some rest =>
    let digits := rest.takeWhile Char.isDigit
    if digits.isEmpty then none else some (stem ++ String.ofList digits)

/-- The references of a text, from left to right. -/
def references (cs : List Char) : List String :=
  cs.tails.filterMap referenceAt?

/-! ## Parts of texts -/

/-- Whether a character is part of no reference. -/
def IsDelimiter (c : Char) : Prop :=
  c ∉ stem.toList ∧ c.isDigit = false

instance (c : Char) : Decidable (IsDelimiter c) :=
  inferInstanceAs (Decidable (_ ∧ _))

@[simp] theorem references_nil : references [] = [] := by rfl

theorem references_cons (c : Char) (cs : List Char) :
    references (c :: cs) = (referenceAt? (c :: cs)).toList ++ references cs := by
  rw [references, List.tails_cons, List.filterMap_cons]
  cases referenceAt? (c :: cs) <;> rfl

/-- A prefix ends before a character that it does not contain. -/
theorem isPrefixOf?_append_cons {c : Char} : ∀ {xs : List Char} (u v : List Char), c ∉ xs →
    xs.isPrefixOf? (u ++ c :: v) = (xs.isPrefixOf? u).map (· ++ c :: v)
  | [], u, v, _ => by simp [List.isPrefixOf?]
  | x :: xs, [], v, h => by
    have hne : x ≠ c := fun heq => h (by simp [heq])
    simp [List.isPrefixOf?, hne]
  | x :: xs, y :: u, v, h => by
    have hxs : c ∉ xs := fun hmem => h (List.mem_cons_of_mem x hmem)
    simp only [List.cons_append, List.isPrefixOf?, isPrefixOf?_append_cons u v hxs]
    split <;> rfl

/-- Digits end before a character that is none. -/
theorem takeWhile_append_cons {p : Char → Bool} {c : Char} (hc : p c = false) :
    ∀ u v : List Char, (u ++ c :: v).takeWhile p = u.takeWhile p
  | [], v => by simp [hc]
  | d :: u, v => by
    rw [List.cons_append, List.takeWhile_cons, List.takeWhile_cons, takeWhile_append_cons hc u v]

/-- What stands behind a delimiter does not matter for a reference before it. -/
theorem referenceAt?_append {c : Char} (hc : IsDelimiter c) (u v : List Char) :
    referenceAt? (u ++ c :: v) = referenceAt? u := by
  unfold referenceAt?
  rw [isPrefixOf?_append_cons u v hc.1]
  cases stem.toList.isPrefixOf? u with
  | none => rfl
  | some rest =>
    simp only [Option.map_some, takeWhile_append_cons hc.2]

theorem referenceAt?_of_ne {c : Char} (hc : c ≠ '@') (cs : List Char) :
    referenceAt? (c :: cs) = none := by
  have hprefix : stem.toList.isPrefixOf? (c :: cs) = none := by
    have hstem : stem.toList = '@' :: ['p', 'a', 'r', 'a', 'm'] := by decide
    rw [hstem, List.isPrefixOf?]
    simp [hc.symm]
  rw [referenceAt?, hprefix]

/-- **A text is searched part by part**, between delimiters. -/
theorem references_delimited {c : Char} (hc : IsDelimiter c) : ∀ u v : List Char,
    references (u ++ c :: v) = references u ++ references v
  | [], v => by
    have hne : c ≠ '@' := by
      rintro rfl
      exact hc.1 (by decide)
    rw [List.nil_append, references_cons, referenceAt?_of_ne hne]
    rfl
  | d :: u, v => by
    have hhead := referenceAt?_append hc (d :: u) v
    rw [List.cons_append] at hhead
    rw [List.cons_append, references_cons, references_cons, hhead, references_delimited hc u v,
      List.append_assoc]

/-- A text without the mark of placeholders has no references. -/
theorem references_of_not_mem : ∀ {cs : List Char}, '@' ∉ cs → references cs = []
  | [], _ => references_nil
  | c :: cs, h => by
    have hc : c ≠ '@' := fun heq => h (by simp [heq])
    rw [references_cons, referenceAt?_of_ne hc,
      references_of_not_mem fun hmem => h (List.mem_cons_of_mem c hmem)]
    rfl

/-- **A placeholder is one reference**, with all of its digits. -/
theorem references_placeholder (number : Nat) :
    references (placeholder number).toList = [placeholder number] := by
  have hstem : stem.toList = '@' :: ['p', 'a', 'r', 'a', 'm'] := by decide
  have hdigits := Binary64.allDigits_toDigits number
  have hwhile : (Nat.toDigits 10 number).takeWhile Char.isDigit = Nat.toDigits 10 number :=
    List.takeWhile_eq_self_iff.mpr hdigits
  have hempty : (Nat.toDigits 10 number).isEmpty = false := by
    simp [Nat.toDigits_ne_nil]
  have hprefix : stem.toList.isPrefixOf? (stem.toList ++ Nat.toDigits 10 number) =
      some (Nat.toDigits 10 number) := List.isPrefixOf?_eq_some_iff_append_eq.mpr rfl
  have hname : stem ++ String.ofList (Nat.toDigits 10 number) = placeholder number := by
    apply String.toList_injective
    rw [String.toList_append, String.toList_ofList, Binder.placeholder_toList]
  have hfront : referenceAt? (stem.toList ++ Nat.toDigits 10 number) =
      some (placeholder number) := by
    rw [referenceAt?, hprefix]
    simp only [hwhile, hempty, hname]
    rfl
  -- behind the mark the placeholder has no other
  have hrest : '@' ∉ ['p', 'a', 'r', 'a', 'm'] ++ Nat.toDigits 10 number := by
    intro hmem
    rcases List.mem_append.mp hmem with hmem | hmem
    · revert hmem
      decide
    · exact absurd (hdigits '@' hmem) (by decide)
  rw [Binder.placeholder_toList]
  rw [hstem, List.cons_append] at hfront ⊢
  rw [references_cons, hfront, references_of_not_mem hrest]
  rfl

/-! ## Fragments and clauses -/

section Clauses

variable {names : FieldNames} {field : String}

theorem FieldNames.mark_not_mem_ref (halias : '@' ∉ names.aliasName.toList)
    (hfield : '@' ∉ (names.physical field).toList) : '@' ∉ (names.ref field).toList := by
  have hchars : (names.ref field).toList =
      names.aliasName.toList ++ '.' :: (names.physical field).toList := by
    simp [FieldNames.ref]
  rw [hchars]
  simp [halias, hfield]

/-- The only reference of a fragment is its placeholder. -/
theorem references_fragment (op : Operator) (hfield : '@' ∉ field.toList) (number : Nat) :
    references (Fragment.text op field (placeholder number)).toList = [placeholder number] := by
  have hblank : IsDelimiter ' ' := by decide
  have hcomma : IsDelimiter ',' := by decide
  have hopening : IsDelimiter '(' := by decide
  have hclosing : IsDelimiter ')' := by decide
  have hfieldNone := references_of_not_mem hfield
  have hnumber := references_placeholder number
  unfold Fragment.text
  split
  · rename_i symbol hform
    have hsymbol : '@' ∉ symbol.toList := by
      cases op <;> cases hform <;> decide
    have hchars : (field ++ " " ++ symbol ++ " " ++ placeholder number).toList =
        field.toList ++ ' ' :: (symbol.toList ++ ' ' :: (placeholder number).toList) := by
      simp
    rw [hchars, references_delimited hblank, references_delimited hblank, hfieldNone,
      references_of_not_mem hsymbol, hnumber]
    rfl
  · rename_i name hform
    have hname : '@' ∉ name.toList := by
      cases op <;> cases hform <;> decide
    have hchars : (name ++ "(" ++ field ++ ", " ++ placeholder number ++ ")").toList =
        name.toList ++ '(' :: (field.toList ++ ',' :: ([] ++ ' ' ::
          ((placeholder number).toList ++ ')' :: []))) := by
      simp
    rw [hchars, references_delimited hopening, references_delimited hcomma,
      references_delimited hblank, references_delimited hclosing, hfieldNone,
      references_of_not_mem hname, hnumber]
    rfl
  · have hname : '@' ∉ "ARRAY_CONTAINS".toList := by decide
    have hchars : ("ARRAY_CONTAINS(" ++ placeholder number ++ ", " ++ field ++ ")").toList =
        "ARRAY_CONTAINS".toList ++ '(' :: ((placeholder number).toList ++ ',' :: ([] ++ ' ' ::
          (field.toList ++ ')' :: []))) := by
      simp
    rw [hchars, references_delimited hopening, references_delimited hcomma,
      references_delimited hblank, references_delimited hclosing, hfieldNone,
      references_of_not_mem hname, hnumber]
    rfl

/-- The only reference of a clause is its placeholder. -/
theorem Slot.references_text (s : Slot) (halias : '@' ∉ names.aliasName.toList)
    (hfield : '@' ∉ (names.physical s.field).toList) (number : Nat) :
    references (s.text names (placeholder number)).toList = [placeholder number] := by
  have hconnector : '@' ∉ s.connector.text.toList := by
    cases s.connector <;> decide
  have hchars : (s.text names (placeholder number)).toList = s.connector.text.toList ++
      ' ' :: (Fragment.text s.operator (names.ref s.field) (placeholder number)).toList := by
    simp [Slot.text]
  rw [hchars, references_delimited (by decide), references_of_not_mem hconnector,
    references_fragment s.operator (FieldNames.mark_not_mem_ref halias hfield)]
  rfl

/-- The references of clauses are their placeholders, in order. -/
theorem references_clauses (halias : '@' ∉ names.aliasName.toList) : ∀ {slots : List Slot}
    {numbers : List Nat}, (∀ s ∈ slots, '@' ∉ (names.physical s.field).toList) →
      slots.length = numbers.length →
      (List.zipWith (Slot.text names) slots (numbers.map placeholder)).flatMap
        (fun t => references t.toList) = numbers.map placeholder
  | [], [], _, _ => rfl
  | s :: slots, n :: numbers, hfields, hlength => by
    have hrest := references_clauses halias (fun t ht => hfields t (List.mem_cons_of_mem s ht))
      (Nat.succ.inj hlength)
    rw [List.map_cons, List.zipWith_cons_cons, List.flatMap_cons, hrest,
      s.references_text halias (hfields s List.mem_cons_self)]
    rfl

end Clauses

/-! ## Whole statements -/

namespace Statement

theorem references_intercalate : ∀ texts : List String,
    references (" ".intercalate texts).toList = texts.flatMap fun t => references t.toList
  | [] => rfl
  | [t] => by simp
  | t :: u :: rest => by
    have hchars : (" ".intercalate (t :: u :: rest)).toList =
        t.toList ++ ' ' :: (" ".intercalate (u :: rest)).toList := by
      rw [String.intercalate_cons_cons]
      simp
    rw [hchars, references_delimited (by decide), references_intercalate (u :: rest)]
    rfl

/-- The references of a statement are those of its parts. -/
theorem references_joined (parts : List String) :
    references (joined parts).toList = parts.flatMap fun t => references t.toList := by
  rw [joined, references_intercalate]
  exact Filter.flatMap_nonempty rfl parts

theorem references_filterText {names : FieldNames} {slots : List Slot} {numbers : List Nat}
    (halias : '@' ∉ names.aliasName.toList)
    (hfields : ∀ s ∈ slots, '@' ∉ (names.physical s.field).toList)
    (hlength : slots.length = numbers.length) :
    references (filterText names slots (numbers.map placeholder)).toList =
      numbers.map placeholder := by
  unfold filterText
  split
  · rename_i hempty
    rw [List.isEmpty_iff.mp hempty] at hlength
    rw [List.length_eq_zero_iff.mp hlength.symm]
    rfl
  · have hanchor : '@' ∉ anchor.toList := by decide
    rw [references_intercalate, List.flatMap_cons, references_of_not_mem hanchor,
      references_clauses halias hfields hlength]
    rfl

theorem references_orderBy {names : FieldNames} {sortBy : Value} {text : String}
    (halias : '@' ∉ names.aliasName.toList)
    (hsort : ∀ s, SortKey.ofValue sortBy = .ok s → '@' ∉ (names.physical s.field).toList)
    (h : orderBy names sortBy = .ok text) : references text.toList = [] := by
  refine references_of_not_mem ?_
  rcases orderBy_eq_ok.mp h with ⟨-, rfl⟩ | ⟨s, hs, -, rfl⟩
  · decide
  · have href := FieldNames.mark_not_mem_ref halias (hsort s hs)
    have hlabel : '@' ∉ s.direction.label.toList := by
      cases s.direction <;> decide
    simp [href, hlabel]

/-- The references of a page window are its placeholders, if it has both or none. -/
theorem references_pageText {window : Option Window} {numbers : List Nat}
    (hlength : numbers.length = (Window.values window).length) :
    references (pageText (numbers.map placeholder)).toList = numbers.map placeholder := by
  match window, numbers, hlength with
  | none, [], _ => rfl
  | some w, [offset, limit], _ =>
    have hblank : IsDelimiter ' ' := by decide
    have hoffset : '@' ∉ "OFFSET".toList := by decide
    have hlimit : '@' ∉ "LIMIT".toList := by decide
    have hchars : (pageText ([offset, limit].map placeholder)).toList =
        "OFFSET".toList ++ ' ' :: ((placeholder offset).toList ++ ' ' ::
          ("LIMIT".toList ++ ' ' :: (placeholder limit).toList)) := by
      simp [pageText]
    rw [hchars, references_delimited hblank, references_delimited hblank,
      references_delimited hblank, references_of_not_mem hoffset, references_of_not_mem hlimit,
      references_placeholder, references_placeholder]
    rfl

/-- **The references of a filled outline** are the placeholders that it was filled with, in
order. -/
theorem references_filled {names : FieldNames} {select sortText : String} {sortBy : Value}
    {window : Option Window} {slots : List Slot} {numbers pageNumbers : List Nat}
    (hselect : '@' ∉ select.toList) (halias : '@' ∉ names.aliasName.toList)
    (hfields : ∀ s ∈ slots, '@' ∉ (names.physical s.field).toList)
    (hsort : ∀ s, SortKey.ofValue sortBy = .ok s → '@' ∉ (names.physical s.field).toList)
    (hsortText : orderBy names sortBy = .ok sortText) (hlength : slots.length = numbers.length)
    (hpage : pageNumbers.length = (Window.values window).length) :
    references (joined [select, filterText names slots (numbers.map placeholder), sortText,
      pageText (pageNumbers.map placeholder)]).toList =
        (numbers ++ pageNumbers).map placeholder := by
  rw [references_joined]
  simp only [List.flatMap_cons, List.flatMap_nil, references_of_not_mem hselect,
    references_filterText halias hfields hlength, references_orderBy halias hsort hsortText,
    references_pageText hpage, List.nil_append, List.append_nil, List.map_append]

end Statement

end Docstore
