import Docstore.Proofs.Json.StoredData
import Docstore.Proofs.Value.Record

/-!
# Values that a store holds

A store holds nothing, truth values, numbers, texts, and lists and dictionaries of these, where the
keys of a dictionary are texts that differ from each other.  Such values are their own store form.

* `exists_json?` — a stored value is a datum.
* `store_of_isStored` — a stored value is its own store form.
-/

namespace Docstore.Value

mutual

/-- Whether a value is one that a store holds: it consists of nothing, truth values, numbers, texts,
lists, and dictionaries with text keys, each of which occurs once. -/
def isStored : Value → Bool
  | .null | .bool _ | .int _ | .str _ | .operator _ | .connector _ | .direction _ => true
  | .float x _ => x != .nan
  | .list items => areStored items
  | .dict entries => entriesAreStored entries && decide (names entries).Nodup
  | _ => false

/-- Whether all items are stored values. -/
def areStored : List Value → Bool
  | [] => true
  | v :: rest => v.isStored && areStored rest

/-- Whether the keys of entries are texts and their values are stored values. -/
def entriesAreStored : List (Value × Value) → Bool
  | [] => true
  | (k, v) :: rest => k.text?.isSome && v.isStored && entriesAreStored rest

end

theorem areStored_cons {v : Value} {rest : List Value} :
    areStored (v :: rest) = true ↔ v.isStored = true ∧ areStored rest = true := by
  rw [areStored, Bool.and_eq_true]

theorem entriesAreStored_iff : ∀ {entries : List (Value × Value)}, entriesAreStored entries = true ↔
    ∀ e ∈ entries, (∃ s, e.1.text? = some s) ∧ e.2.isStored = true
  | [] => by simp [entriesAreStored]
  | (k, v) :: rest => by
    simp [entriesAreStored, @entriesAreStored_iff rest, Option.isSome_iff_exists]

theorem isStored_dict {entries : List (Value × Value)} : (Value.dict entries).isStored = true ↔
    entriesAreStored entries = true ∧ IsRecord entries := by
  rw [isStored, Bool.and_eq_true, decide_eq_true_eq]
  constructor
  · rintro ⟨hall, hnodup⟩
    exact ⟨hall, fun e he => (entriesAreStored_iff.mp hall e he).1, hnodup⟩
  · rintro ⟨hall, hrecord⟩
    exact ⟨hall, hrecord.nodup⟩

theorem isStored_of_lookup {key v : Value} {s : String} {entries : List (Value × Value)}
    (h : entriesAreStored entries = true) (hk : key.text? = some s)
    (hv : lookup key entries = some v) : v.isStored = true := by
  obtain ⟨k, -, hmem⟩ := mem_of_lookup hk hv
  exact (entriesAreStored_iff.mp h (k, v) hmem).2

mutual

/-- **A stored value is a datum.** -/
theorem exists_json? : ∀ {v : Value}, v.isStored = true → ∃ d, v.json? = some d
  | .null, _ | .bool _, _ | .int _, _ | .float .., _ | .str _, _ | .operator _, _
  | .connector _, _ | .direction _, _ => ⟨_, rfl⟩
  | .list items, h => by
    obtain ⟨ds, hds⟩ := exists_jsonItems? h
    exact ⟨.array ds, by rw [json?, hds]; rfl⟩
  | .dict entries, h => by
    rw [isStored, Bool.and_eq_true] at h
    obtain ⟨members, hmembers⟩ := exists_jsonMembers? h.1
    exact ⟨.object (byName members), by rw [json?, hmembers]; rfl⟩

theorem exists_jsonItems? : ∀ {items : List Value}, areStored items = true →
    ∃ ds, jsonItems? items = some ds
  | [], _ => ⟨[], rfl⟩
  | v :: rest, h => by
    rw [areStored_cons] at h
    obtain ⟨d, hd⟩ := exists_json? h.1
    obtain ⟨ds, hds⟩ := exists_jsonItems? h.2
    exact ⟨d :: ds, by rw [jsonItems?, hd, hds]⟩

theorem exists_jsonMembers? : ∀ {entries : List (Value × Value)}, entriesAreStored entries = true →
    ∃ members, jsonMembers? entries = some members
  | [], _ => ⟨[], rfl⟩
  | (k, v) :: rest, h => by
    simp only [entriesAreStored, Bool.and_eq_true] at h
    obtain ⟨⟨hk, hv⟩, hrest⟩ := h
    obtain ⟨s, hs⟩ := Option.isSome_iff_exists.mp hk
    obtain ⟨d, hd⟩ := exists_json? hv
    obtain ⟨members, hmembers⟩ := exists_jsonMembers? hrest
    exact ⟨(s, d) :: members, by rw [jsonMembers?, hs, hd, hmembers]⟩

end

mutual

/-- A stored value is its own store form. -/
theorem store_of_isStored : ∀ {v : Value}, v.isStored = true → v.store = .ok v
  | .null, _ | .bool _, _ | .int _, _ | .float .., _ | .str _, _ | .operator _, _
  | .connector _, _ | .direction _, _ => rfl
  | .list items, h => by
    rw [store, storeItems_of_areStored h]
    rfl
  | .dict entries, h => by
    rw [isStored, Bool.and_eq_true] at h
    rw [store, storeEntries_of_areStored h.1]
    rfl

theorem storeItems_of_areStored : ∀ {items : List Value}, areStored items = true →
    storeItems items = .ok items
  | [], _ => rfl
  | v :: rest, h => by
    rw [areStored_cons] at h
    rw [storeItems, store_of_isStored h.1, storeItems_of_areStored h.2]
    rfl

theorem storeEntries_of_areStored : ∀ {entries : List (Value × Value)},
    entriesAreStored entries = true → storeEntries entries = .ok entries
  | [], _ => rfl
  | (k, v) :: rest, h => by
    simp only [entriesAreStored, Bool.and_eq_true] at h
    rw [storeEntries, store_of_isStored h.1.2, storeEntries_of_areStored h.2]
    rfl

end

mutual

theorem hasTextKeys_of_isStored : ∀ {v : Value}, v.isStored = true → v.hasTextKeys = true
  | .null, _ | .bool _, _ | .int _, _ | .float .., _ | .str _, _ | .operator _, _
  | .connector _, _ | .direction _, _ => rfl
  | .list _, h => haveTextKeys_of_areStored h
  | .dict _, h => entriesHaveTextKeys_of_areStored (isStored_dict.mp h).1

theorem haveTextKeys_of_areStored : ∀ {items : List Value}, areStored items = true →
    haveTextKeys items = true
  | [], _ => rfl
  | v :: rest, h => by
    rw [areStored_cons] at h
    rw [haveTextKeys, hasTextKeys_of_isStored h.1, haveTextKeys_of_areStored h.2]
    rfl

theorem entriesHaveTextKeys_of_areStored : ∀ {entries : List (Value × Value)},
    entriesAreStored entries = true → entriesHaveTextKeys entries = true
  | [], _ => rfl
  | (k, v) :: rest, h => by
    simp only [entriesAreStored, Bool.and_eq_true] at h
    rw [entriesHaveTextKeys, h.1.1, hasTextKeys_of_isStored h.1.2,
      entriesHaveTextKeys_of_areStored h.2]
    rfl

end

theorem datum?_of_isStored {v : Value} (h : v.isStored = true) : v.datum? = v.json? := by
  rw [datum?, store_of_isStored h]

end Docstore.Value
