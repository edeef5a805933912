import Docstore.Proofs.Json.StoredData

/-!
# Store forms are stored as they are

Taking the store form a second time changes nothing, so a value and its store form have the same
canonical key.

* `store_store` — a store form is its own store form.
* `canonicalKey_of_store` — a store form has the canonical key of its value.
-/

namespace Docstore.Value

/-- Items that are their own store forms are stored as they are. -/
theorem storeItems_of_forall : ∀ {items : List Value}, (∀ v ∈ items, v.store = .ok v) →
    storeItems items = .ok items
  | [], _ => rfl
  | v :: rest, h => by
    have hrest := storeItems_of_forall fun w hw => h w (List.mem_cons_of_mem v hw)
    rw [storeItems, h v List.mem_cons_self, hrest]
    rfl

theorem store_list_of_forall {items : List Value} (h : ∀ v ∈ items, v.store = .ok v) :
    (Value.list items).store = .ok (.list items) := by
  rw [store, storeItems_of_forall h]
  rfl

mutual

/-- **A store form is its own store form.** -/
theorem store_store : ∀ {v w : Value}, v.store = .ok w → w.store = .ok w
  | .list items, w, h | .tuple items, w, h => by
    rw [store] at h
    obtain ⟨stored, hs, hw⟩ := bind_eq_ok.mp h
    obtain rfl := (Except.ok.inj hw).symm
    exact store_list_of_forall (storeItems_store hs)
  | .set _ items, w, h => by
    obtain ⟨-, stored, hs, rfl⟩ := store_set_eq_ok.mp h
    exact store_list_of_forall fun v hv =>
      storeItems_store hs v ((arranged_perm hs).mem_iff.mp hv)
  | .dict entries, w, h => by
    rw [store] at h
    obtain ⟨stored, hs, hw⟩ := bind_eq_ok.mp h
    obtain rfl := (Except.ok.inj hw).symm
    rw [store, storeEntries_store hs]
    rfl
  | .decimal d _, w, h => by
    rw [store] at h
    split at h <;> cases h
    rfl
  | .null, w, h | .bool _, w, h | .int _, w, h | .float .., w, h | .str _, w, h
  | .timestamp _, w, h | .date _, w, h | .uuid _, w, h | .bytes _, w, h | .operator _, w, h
  | .connector _, w, h | .direction _, w, h | .condition .., w, h | .sortKey .., w, h => by
    simp only [store] at h
    cases h
    simp only [store]

theorem storeItems_store : ∀ {items stored : List Value}, storeItems items = .ok stored →
    ∀ v ∈ stored, v.store = .ok v
  | [], stored, h => by
    cases h
    simp
  | v :: rest, stored, h => by
    rw [storeItems] at h
    obtain ⟨w, hw, h⟩ := bind_eq_ok.mp h
    obtain ⟨others, hothers, h⟩ := bind_eq_ok.mp h
    obtain rfl := (Except.ok.inj h).symm
    intro u hu
    rcases List.mem_cons.mp hu with rfl | hu
    · exact store_store hw
    · exact storeItems_store hothers u hu

theorem storeEntries_store : ∀ {entries stored : List (Value × Value)},
    storeEntries entries = .ok stored → storeEntries stored = .ok stored
  | [], stored, h => by
    cases h
    rfl
  | (k, v) :: rest, stored, h => by
    rw [storeEntries] at h
    obtain ⟨w, hw, h⟩ := bind_eq_ok.mp h
    obtain ⟨others, hothers, h⟩ := bind_eq_ok.mp h
    obtain rfl := (Except.ok.inj h).symm
    rw [storeEntries, store_store hw, storeEntries_store hothers]
    rfl

end

theorem canonicalKey_eq_of_store_eq {v w : Value} (h : v.store = w.store) :
    v.canonicalKey = w.canonicalKey := by
  rw [canonicalKey, canonicalKey, h]

/-- **A store form has the canonical key of its value**, if there is one. -/
theorem canonicalKey_of_store {v w : Value} (h : v.store = .ok w) :
    w.canonicalKey = v.canonicalKey :=
  canonicalKey_eq_of_store_eq ((store_store h).trans h.symm)

end Docstore.Value
