import Docstore.Proofs.Bulk.Application

/-!
# The document that a mutation makes

A mutation leaves the fields of a document in their order.  A field that it names keeps its value if
that equals the new one and gets the new one otherwise; fields that the document lacked come after
the others, in the order of the mutation.

* `overlay` — the fields of a document with a mutation laid over them.
* `alters` — whether a mutation names a field that is missing or holds a different value.
* `overlay_of_present`, `overlay_of_missing` — the first change of a mutation is laid over the
  document, and then the others.
* `apply_eq_overlay` — applying a mutation gives the one and tells the other.
-/

namespace Docstore.Mutation

open Value (lookup IsRecord)

/-- No text occurs twice among the keys of entries; a dictionary has no two equal keys. -/
def DistinctTexts (fields : List (Value × Value)) : Prop :=
  (fields.filterMap (·.1.text?)).Nodup

/-- A field with the value that it holds after some changes. -/
def settle (e : Value × Value) : (changes : List (Value × Value)) → Value × Value
  | [] => e
  | c :: rest => if e.1.isEqual c.1 then (e.1, settled (some e.2) c.2) else settle e rest

/-- The fields of a document with the changes of a mutation laid over them. -/
def overlay (fields changes : List (Value × Value)) : List (Value × Value) :=
  fields.map (settle · changes) ++ changes.filter fun c => (lookup c.1 fields).isNone

/-- Whether a mutation names a field that is missing or holds a different value. -/
def alters (fields changes : List (Value × Value)) : Bool :=
  changes.any fun c => match lookup c.1 fields with
    | none => true
    | some o => o.compare c.2 != .equal

variable {fields changes rest : List (Value × Value)} {c e : Value × Value} {s t : String}

/-- A mutation alters a document exactly if it names a field that does not hold what equals the new
value. -/
theorem alters_iff : alters fields changes = true ↔ ∃ c ∈ changes, ¬Holds fields c := by
  unfold alters Holds
  rw [List.any_eq_true]
  refine exists_congr fun c => and_congr_right fun _ => ?_
  cases lookup c.1 fields <;> simp

/-! ## Fields under changes -/

section Settle

theorem settle_fst (e : Value × Value) : ∀ changes, (settle e changes).1 = e.1
  | [] => rfl
  | c :: rest => by
    unfold settle
    split
    · rfl
    · exact settle_fst e rest

theorem settle_cons (hc : c.1.text? = some t) (e : Value × Value) (rest : List (Value × Value)) :
    settle e (c :: rest) =
      if e.1.text? = some t then (e.1, settled (some e.2) c.2) else settle e rest := by
  rw [settle, Value.isEqual_eq_text e.1 hc]
  simp

/-- A field keeps its value if no change has its name. -/
theorem settle_of_ne : ∀ {changes : List (Value × Value)},
    (∀ c ∈ changes, ∃ s, c.1.text? = some s ∧ e.1.text? ≠ some s) → settle e changes = e
  | [], _ => rfl
  | c :: rest, h => by
    obtain ⟨s, hs, hne⟩ := h c List.mem_cons_self
    rw [settle_cons hs, if_neg hne]
    exact settle_of_ne fun c hc => h c (List.mem_cons_of_mem _ hc)

/-- A field with the name of the first change is not named by the others. -/
theorem settle_rest (h : IsRecord (c :: rest)) (he : e.1.text? = c.1.text?) :
    settle e rest = e := by
  refine settle_of_ne fun d hd => ?_
  obtain ⟨s, hs⟩ := h.texts d (List.mem_cons_of_mem _ hd)
  refine ⟨s, hs, ?_⟩
  rw [he, ← hs]
  exact h.head_ne hd

end Settle

/-! ## One change -/

section One

theorem lookup_eq_none_iff (hc : c.1.text? = some t) :
    lookup c.1 fields = none ↔ ∀ e ∈ fields, e.1.text? ≠ some t := by
  induction fields with
  | nil => simp [lookup]
  | cons e rest ih =>
    rw [Value.lookup_cons e.1 e.2 rest hc, List.forall_mem_cons, ← ih]
    by_cases h : e.1.text? = some t <;> simp [h]

theorem DistinctTexts.tail (h : DistinctTexts (e :: fields)) : DistinctTexts fields := by
  unfold DistinctTexts at h ⊢
  rw [List.filterMap_cons] at h
  split at h
  · exact h
  · exact (List.nodup_cons.mp h).2

theorem DistinctTexts.head_ne (h : DistinctTexts (e :: fields)) (he : e.1.text? = some t) :
    ∀ d ∈ fields, d.1.text? ≠ some t := by
  intro d hd heq
  unfold DistinctTexts at h
  rw [List.filterMap_cons, he] at h
  exact (List.nodup_cons.mp h).1 (List.mem_filterMap.mpr ⟨d, hd, heq⟩)

theorem DistinctTexts.insert (h : DistinctTexts fields) (hc : c.1.text? = some t) :
    DistinctTexts (Value.insert c.1 c.2 fields) := by
  have hnames : ∀ entries : List (Value × Value),
      entries.filterMap (·.1.text?) = (Value.names entries).filterMap id := by
    intro entries
    rw [Value.names, List.filterMap_map]
    rfl
  unfold DistinctTexts at h ⊢
  rw [hnames] at h ⊢
  rw [Value.names_insert hc]
  split
  · exact h
  · rename_i hnot
    rw [List.filterMap_append]
    refine List.nodup_append.mpr ⟨h, by simp, ?_⟩
    intro x hx y hy heq
    simp only [List.filterMap_cons, List.filterMap_nil, id, List.mem_singleton] at hy
    obtain ⟨name, hname, rfl⟩ := List.mem_filterMap.mp hx
    exact hnot (by rwa [← hy, ← heq])

/-- What a dictionary holds under a text is the value of the field with this text. -/
theorem DistinctTexts.lookup_eq (h : DistinctTexts fields) (hc : c.1.text? = some t)
    (he : e ∈ fields) (het : e.1.text? = some t) : lookup c.1 fields = some e.2 := by
  induction fields with
  | nil => cases he
  | cons d rest ih =>
    rw [Value.lookup_cons d.1 d.2 rest hc]
    rcases List.mem_cons.mp he with rfl | he
    · rw [if_pos het]
    · by_cases hd : d.1.text? = some t
      · exact absurd het (h.head_ne hd e he)
      · rw [if_neg hd]
        exact ih h.tail he

/-- Setting a name that is missing puts it at the end. -/
theorem insert_of_missing (hc : c.1.text? = some t) (h : lookup c.1 fields = none) :
    Value.insert c.1 c.2 fields = fields ++ [c] := by
  rw [lookup_eq_none_iff hc] at h
  induction fields with
  | nil => rfl
  | cons e rest ih =>
    have hne : (e.1.text? == some t) = false := beq_eq_false_iff_ne.mpr (h e List.mem_cons_self)
    rw [Value.insert, Value.isEqual_eq_text e.1 hc, hne, if_neg Bool.false_ne_true,
      ih fun d hd => h d (List.mem_cons_of_mem _ hd), List.cons_append]

/-- Setting a name that holds a different value changes it in its place. -/
theorem insert_of_present (hfields : DistinctTexts fields) (hc : c.1.text? = some t)
    (h : lookup c.1 fields ≠ none) (hnot : ¬Holds fields c) :
    Value.insert c.1 c.2 fields = fields.map (settle · [c]) := by
  induction fields with
  | nil => exact absurd rfl h
  | cons e rest ih =>
    have hlookup := Value.lookup_cons e.1 e.2 rest hc
    rw [Value.insert, Value.isEqual_eq_text e.1 hc, List.map_cons, settle_cons hc]
    by_cases he : e.1.text? = some t
    · have hdifferent : e.2.compare c.2 ≠ .equal := by
        intro heq
        exact hnot ⟨e.2, by rw [hlookup, if_pos he], heq⟩
      have hrest : rest.map (settle · [c]) = rest := by
        refine List.map_congr_left (fun d hd => ?_) |>.trans (List.map_id rest)
        rw [settle_cons hc, if_neg (hfields.head_ne he d hd)]
        rfl
      rw [he, if_pos rfl, beq_self_eq_true, if_pos rfl, hrest, settled, if_neg hdifferent]
    · rw [if_neg he] at hlookup
      rw [if_neg he, beq_eq_false_iff_ne.mpr he, if_neg Bool.false_ne_true]
      refine congrArg (e :: ·) (ih hfields.tail (hlookup ▸ h) ?_)
      rintro ⟨o, ho, heq⟩
      exact hnot ⟨o, hlookup.trans ho, heq⟩

/-- A change that gives a field what equals its value changes nothing. -/
theorem map_settle_of_holds (hfields : DistinctTexts fields) (hc : c.1.text? = some t)
    (h : Holds fields c) : fields.map (settle · [c]) = fields := by
  refine (List.map_congr_left fun d hd => ?_).trans (List.map_id fields)
  rw [settle_cons hc]
  split
  · rename_i hdt
    obtain ⟨o, ho, heq⟩ := h
    rw [hfields.lookup_eq hc hd hdt] at ho
    cases ho
    rw [settled, if_pos heq]
    rfl
  · rfl

/-- Changes of other names do not see a change. -/
theorem lookup_settle_eq_none_iff {d : Value × Value} (hd : d.1.text? = some s)
    (changes : List (Value × Value)) :
    lookup d.1 (fields.map (settle · changes)) = none ↔ lookup d.1 fields = none := by
  rw [lookup_eq_none_iff hd, lookup_eq_none_iff hd, List.forall_mem_map]
  simp only [settle_fst]

end One

/-! ## One change after the other -/

section Overlay

/-- Laying the first change over a field leaves the others to be laid over it. -/
theorem settle_settle (h : IsRecord (c :: rest)) (e : Value × Value) :
    settle (settle e [c]) rest = settle e (c :: rest) := by
  obtain ⟨t, hc⟩ := h.texts c List.mem_cons_self
  rw [settle_cons hc, settle_cons hc]
  split
  · rename_i he
    exact settle_rest h (he.trans hc.symm)
  · rfl

/-- The first change is laid over a field that the document has. -/
theorem overlay_of_present (h : IsRecord (c :: rest)) (hsome : lookup c.1 fields ≠ none) :
    overlay (fields.map (settle · [c])) rest = overlay fields (c :: rest) := by
  have hfilter : (rest.filter fun d => (lookup d.1 (fields.map (settle · [c]))).isNone) =
      rest.filter fun d => (lookup d.1 fields).isNone := by
    refine List.filter_congr fun d hd => ?_
    obtain ⟨s, hs⟩ := h.texts d (List.mem_cons_of_mem _ hd)
    rw [Bool.eq_iff_iff, Option.isNone_iff_eq_none, Option.isNone_iff_eq_none]
    exact lookup_settle_eq_none_iff hs [c]
  have hnot : ¬(lookup c.1 fields).isNone = true := by
    rwa [Option.isNone_iff_eq_none]
  unfold overlay
  rw [hfilter, List.map_map, List.filter_cons, if_neg hnot]
  congr 1
  exact List.map_congr_left fun e _ => settle_settle h e

/-- The first change adds a field that the document lacks. -/
theorem overlay_of_missing (h : IsRecord (c :: rest)) (hnone : lookup c.1 fields = none) :
    overlay (fields ++ [c]) rest = overlay fields (c :: rest) := by
  obtain ⟨t, hc⟩ := h.texts c List.mem_cons_self
  have hmap : fields.map (settle · rest) = fields.map (settle · (c :: rest)) := by
    refine List.map_congr_left fun e he => ?_
    rw [settle_cons hc, if_neg ((lookup_eq_none_iff hc).mp hnone e he)]
  have hfilter : (rest.filter fun d => (lookup d.1 (fields ++ [c])).isNone) =
      rest.filter fun d => (lookup d.1 fields).isNone := by
    refine List.filter_congr fun d hd => ?_
    obtain ⟨s, hs⟩ := h.texts d (List.mem_cons_of_mem _ hd)
    have hne : c.1.text? ≠ some s := by
      rw [← hs]
      exact h.head_ne hd
    rw [Bool.eq_iff_iff, Option.isNone_iff_eq_none, Option.isNone_iff_eq_none,
      lookup_eq_none_iff hs, lookup_eq_none_iff hs, List.forall_mem_append,
      List.forall_mem_singleton]
    exact and_iff_left hne
  have hlast : settle c rest = c := settle_rest h rfl
  unfold overlay
  rw [List.map_append, hmap, hfilter, List.filter_cons, hnone]
  simp [hlast]

/-- **A run over changes** lays them over the fields, and tells whether one altered them. -/
theorem setFields_eq_overlay : ∀ {changes fields : List (Value × Value)} (changed : Bool),
    IsRecord changes → DistinctTexts fields →
    (∀ c ∈ changes, ∀ o, lookup c.1 fields = some o → o.compare c.2 ≠ .refused) →
      setFields fields changed changes = .ok (overlay fields changes, changed || alters fields changes)
  | [], fields, changed, _, _, _ => by
    simp [setFields, overlay, settle, alters]
  | c :: rest, fields, changed, hrecord, hfields, h => by
    obtain ⟨t, hc⟩ := hrecord.texts c List.mem_cons_self
    have hrest := fun d hd => h d (List.mem_cons_of_mem c hd)
    -- a change that is made leaves what the others meet
    have hinsert : setFields (Value.insert c.1 c.2 fields) true rest =
        .ok (overlay (Value.insert c.1 c.2 fields) rest, true) := by
      refine (setFields_eq_overlay true hrecord.tail (hfields.insert hc) fun d hd o ho => ?_).trans
        (by rw [Bool.true_or])
      rw [hrecord.lookup_insert_head hd] at ho
      exact hrest d hd o ho
    have halters : alters fields (c :: rest) = ((match lookup c.1 fields with
        | none => true
        | some o => o.compare c.2 != .equal) || alters fields rest) := rfl
    rw [setFields, halters]
    cases hl : lookup c.1 fields with
    | none =>
      dsimp only
      rw [hinsert, insert_of_missing hc hl, overlay_of_missing hrecord hl]
      simp
    | some o =>
      have hsome : lookup c.1 fields ≠ none := by simp [hl]
      dsimp only
      cases hcompare : o.compare c.2 with
      | equal =>
        have hover := overlay_of_present hrecord hsome
        rw [map_settle_of_holds hfields hc ⟨o, hl, hcompare⟩] at hover
        dsimp only
        rw [setFields_eq_overlay changed hrecord.tail hfields hrest, hover]
        simp
      | different =>
        have hnot : ¬Holds fields c := by
          rintro ⟨o', ho', heq⟩
          cases hl.symm.trans ho'
          cases hcompare.symm.trans heq
        dsimp only
        rw [hinsert, insert_of_present hfields hc hsome hnot, overlay_of_present hrecord hsome]
        simp
      | refused => exact absurd hcompare (h c List.mem_cons_self o hl)

/-- **Applying a mutation** lays it over the document, and tells whether it altered it. -/
theorem apply_eq_overlay (hrecord : IsRecord changes) (hfields : DistinctTexts fields)
    (h : ∀ c ∈ changes, ∀ o, lookup c.1 fields = some o → o.compare c.2 ≠ .refused) :
    apply (.dict fields) (.dict changes) = .ok (overlay fields changes, alters fields changes) := by
  have hrun := setFields_eq_overlay false hrecord hfields h
  rwa [Bool.false_or] at hrun

end Overlay

end Docstore.Mutation
