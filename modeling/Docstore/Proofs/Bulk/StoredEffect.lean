import Docstore.Proofs.Bulk.Application
import Docstore.Proofs.Bulk.Planning
import Docstore.Proofs.Json.Shape

/-!
# What a mutation does to the stored JSON

A mutation leaves a field alone if the value that it holds equals the new one.  Equality only sees
the shape of what is stored, so a field may keep a datum that is not the one asked for: a number
instead of a truth value, or an integer instead of a floating-point number, at any depth.

* `apply_stored` — a mutation of stored values is applied, field by field.
* `takesEffect_iff` — a mutation takes effect exactly if no field that it assigns holds another
  datum of the same shape.
-/

namespace Docstore.Mutation

open Value (lookup IsRecord)

variable {fields changes updated : List (Value × Value)} {changed : Bool}

/-- Under the key of an entry stands a value with the canonical key that the entry's value has. -/
def Stands (fields : List (Value × Value)) (e : Value × Value) : Prop :=
  ∃ o, lookup e.1 fields = some o ∧ ∀ key, e.2.canonicalKey = .ok key → o.canonicalKey = .ok key

/-- A mutation takes effect on a document as far as JSON is concerned. -/
structure TakesEffect (fields changes : List (Value × Value)) : Prop where
  /-- The mutation is applied, and then every field stands as asked for. -/
  applied : ∃ updated changed, apply (.dict fields) (.dict changes) = .ok (updated, changed) ∧
    ∀ e ∈ changes, Stands updated e
  /-- Where nothing is said to change, every field stood as asked for. -/
  unchanged : ∀ updated, apply (.dict fields) (.dict changes) = .ok (updated, false) →
    ∀ e ∈ changes, Stands fields e
  /-- A planner skips no document unless every field stood as asked for. -/
  skipped : ∀ p : Planner, p.replacement (.dict changes) (.dict fields) = .ok none →
    ∀ e ∈ changes, Stands fields e

/-- A field holds another datum than the one that it is to have, but of the same shape. -/
def HoldsAlike (fields : List (Value × Value)) (e : Value × Value) : Prop :=
  ∃ o, lookup e.1 fields = some o ∧ o.shape? = e.2.shape? ∧ o.datum? ≠ e.2.datum?

/-- **A mutation of stored values is applied**.  No comparison is refused. -/
theorem apply_stored (hfields : (Value.dict fields).isStored = true)
    (hchanges : (Value.dict changes).isStored = true) :
    ∃ updated changed, apply (.dict fields) (.dict changes) = .ok (updated, changed) := by
  rw [Value.isStored_dict] at hfields hchanges
  refine apply_ok hchanges.2 fun e he o ho => ?_
  obtain ⟨⟨s, hs⟩, hv⟩ := Value.entriesAreStored_iff.mp hchanges.1 e he
  exact (Value.compare_decides (Value.isStored_of_lookup hfields.1 hs ho) hv).not_refused

/-- A document that a planner skips is one that the mutation does not change. -/
theorem apply_of_replacement_eq_none {p : Planner}
    (h : p.replacement (.dict changes) (.dict fields) = .ok none) :
    ∃ updated, apply (.dict fields) (.dict changes) = .ok (updated, false) := by
  rcases Planner.replacement_eq_ok h with ⟨updated, happly, -⟩ | ⟨_, _, _, hsome, _⟩
  · exact ⟨updated, happly⟩
  · cases hsome

section Stored

variable {e : Value × Value}

/-- A field holds what equals the new value exactly if the shapes are the same. -/
theorem holds_iff_shape? (hfields : (Value.dict fields).isStored = true)
    (hchanges : (Value.dict changes).isStored = true) (he : e ∈ changes) :
    Holds fields e ↔ ∃ o, lookup e.1 fields = some o ∧ o.shape? = e.2.shape? := by
  rw [Value.isStored_dict] at hfields hchanges
  obtain ⟨⟨s, hs⟩, hv⟩ := Value.entriesAreStored_iff.mp hchanges.1 e he
  refine exists_congr fun o => and_congr_right fun ho => ?_
  exact (Value.compare_decides (Value.isStored_of_lookup hfields.1 hs ho) hv).equal_iff

/-- What a field holds after a mutation: the old value if the shapes are the same. -/
theorem lookup_updated (hchanges : (Value.dict changes).isStored = true) (he : e ∈ changes)
    (happly : apply (.dict fields) (.dict changes) = .ok (updated, changed)) :
    lookup e.1 updated = some (settled (lookup e.1 fields) e.2) := by
  rw [Value.isStored_dict] at hchanges
  exact lookup_apply hchanges.2 he happly

/-- A field that holds what equals the new value stands as asked for, unless that is another datum
of the same shape. -/
theorem stands_of_holds (hfields : (Value.dict fields).isStored = true)
    (hchanges : (Value.dict changes).isStored = true) (he : e ∈ changes)
    (halike : (∃ key, e.2.canonicalKey = .ok key) → ¬HoldsAlike fields e)
    (hholds : Holds fields e) : Stands fields e := by
  obtain ⟨o, ho, hshape⟩ := (holds_iff_shape? hfields hchanges he).mp hholds
  refine ⟨o, ho, fun key hkey => ?_⟩
  have hdatum : o.datum? = e.2.datum? := by
    by_contra hne
    exact halike ⟨key, hkey⟩ ⟨o, ho, hshape, hne⟩
  have hv := (Value.entriesAreStored_iff.mp (Value.isStored_dict.mp hchanges).1 e he).2
  exact Value.canonicalKey_of_datum? (Value.hasTextKeys_of_isStored hv) hkey hdatum

/-- A field that holds another datum of the same shape keeps it. -/
theorem not_stands_of_holdsAlike (hfields : (Value.dict fields).isStored = true)
    (hchanges : (Value.dict changes).isStored = true) (he : e ∈ changes)
    (happly : apply (.dict fields) (.dict changes) = .ok (updated, changed))
    (hkey : ∃ key, e.2.canonicalKey = .ok key) (halike : HoldsAlike fields e) :
    ¬Stands updated e := by
  obtain ⟨key, hkey⟩ := hkey
  obtain ⟨o, ho, hshape, hne⟩ := halike
  rintro ⟨o', ho', hstands⟩
  have hholds := (holds_iff_shape? hfields hchanges he).mpr ⟨o, ho, hshape⟩
  rw [lookup_updated hchanges he happly, settled_of_holds hholds, ho] at ho'
  cases ho'
  rw [Value.isStored_dict] at hfields hchanges
  obtain ⟨⟨s, hs⟩, hv⟩ := Value.entriesAreStored_iff.mp hchanges.1 e he
  have ho'' := Value.isStored_of_lookup hfields.1 hs ho
  exact hne (Value.datum?_eq_of_canonicalKey (Value.hasTextKeys_of_isStored ho'')
    (Value.hasTextKeys_of_isStored hv) (hstands key hkey) hkey)

end Stored

/-- **A mutation takes effect** exactly if no field that it assigns holds another datum of the same
shape. -/
theorem takesEffect_iff (hfields : (Value.dict fields).isStored = true)
    (hchanges : (Value.dict changes).isStored = true) : TakesEffect fields changes ↔
      ∀ e ∈ changes, (∃ key, e.2.canonicalKey = .ok key) → ¬HoldsAlike fields e := by
  constructor
  · intro heffect e he hkey halike
    obtain ⟨updated, changed, happly, hstands⟩ := heffect.applied
    exact not_stands_of_holdsAlike hfields hchanges he happly hkey halike (hstands e he)
  · intro halike
    have hrecord := (Value.isStored_dict.mp hchanges).2
    have hunchanged : ∀ updated, apply (.dict fields) (.dict changes) = .ok (updated, false) →
        ∀ e ∈ changes, Stands fields e := by
      intro updated happly e he
      have hholds := (apply_spec hrecord happly).2.mp rfl e he
      exact stands_of_holds hfields hchanges he (halike e he) hholds
    refine ⟨?_, hunchanged, ?_⟩
    · obtain ⟨updated, changed, happly⟩ := apply_stored hfields hchanges
      refine ⟨updated, changed, happly, fun e he => ?_⟩
      have hupdated := lookup_updated hchanges he happly
      -- a field keeps its value or takes the new one, and either has the key asked for
      by_cases hholds : Holds fields e
      · rw [settled_of_holds hholds] at hupdated
        obtain ⟨o, ho, hstands⟩ := stands_of_holds hfields hchanges he (halike e he) hholds
        exact ⟨o, hupdated.trans ho, hstands⟩
      · rw [settled_of_not_holds hholds] at hupdated
        exact ⟨e.2, hupdated, fun _ hkey => hkey⟩
    · intro p hskipped
      obtain ⟨updated, happly⟩ := apply_of_replacement_eq_none hskipped
      exact hunchanged updated happly

theorem takesEffect_on_number_and_list :
    TakesEffect [(.str "a", .int 1), (.str "b", .list [.bool true])]
      [(.str "a", .int 2), (.str "b", .list [.bool true])] := by
  refine (takesEffect_iff (by decide) (by decide)).mpr fun e he _ => ?_
  rintro ⟨o, ho, hshape, hdatum⟩
  rcases List.mem_cons.mp he with rfl | he
  · obtain rfl : .int 1 = o := by simpa [lookup] using ho
    simp [Value.shape?, Value.datum?, Value.store, Value.json?, Datum.shape] at hshape
  · cases List.mem_singleton.mp he
    obtain rfl : .list [.bool true] = o := by simpa [lookup] using ho
    exact hdatum rfl

/-- A field that holds the number one keeps it if it is to become the truth value. -/
theorem number_kept_for_truth_value :
    ¬TakesEffect [(.str "a", .int 1)] [(.str "a", .bool true)] := by
  intro heffect
  have happly : apply (.dict [(.str "a", .int 1)]) (.dict [(.str "a", .bool true)]) =
      .ok ([(.str "a", .int 1)], false) := by
    have hequal : (Value.int 1).compare (.bool true) = .equal := by decide +kernel
    simp [apply, Value.mapping, Value.entries, setFields, lookup, hequal, bind, Except.bind]
  obtain ⟨o, ho, hkey⟩ := heffect.unchanged _ happly (.str "a", .bool true) (by simp)
  obtain rfl : .int 1 = o := by simpa [lookup] using ho
  have hone : (Value.int 1).canonicalKey = .ok "1" := by rfl
  have htrue : (Value.bool true).canonicalKey = .ok "true" := by rfl
  have hsame := hone.symm.trans (hkey "true" htrue)
  exact absurd (Except.ok.inj hsame) (by decide)

end Docstore.Mutation
