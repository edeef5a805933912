import Docstore.Proofs.Value.StoreForm

/-!
# Values as data

Which object a number is does not show in what is written: a value and the same value as data have
one JSON text.  So the canonical key of a value is the text of the data that it is stored as, and
values that are stored as the same data share it.

* `json?_asData`, `write_asData` — objects do not show in JSON.
* `storedData_list`, `storedData_tuple`, `storedData_dict`, `storedData_set_eq_ok` — what a container
  is stored as, part by part.
* `canonicalKey_of_storedData_eq` — what is stored as the same data has one canonical key.
-/

namespace Docstore.Value

/-! ## JSON -/

mutual

theorem json?_asData : ∀ v : Value, v.asData.json? = v.json?
  | .list items | .tuple items => by
    rw [asData, json?, json?, jsonItems?_asData items]
  | .dict entries => by
    rw [asData, json?, json?, jsonMembers?_asData entries]
  | .null | .bool _ | .int _ | .float .. | .decimal .. | .str _ | .timestamp _ | .date _ | .uuid _
  | .bytes _ | .set .. | .operator _ | .connector _ | .direction _ | .condition .. | .sortKey .. =>
    rfl

theorem jsonItems?_asData : ∀ items : List Value, jsonItems? (itemsAsData items) = jsonItems? items
  | [] => rfl
  | v :: rest => by
    rw [itemsAsData, jsonItems?, jsonItems?, json?_asData v, jsonItems?_asData rest]

theorem jsonMembers?_asData : ∀ entries : List (Value × Value),
    jsonMembers? (entriesAsData entries) = jsonMembers? entries
  | [] => rfl
  | (k, v) :: rest => by
    rw [entriesAsData, jsonMembers?, jsonMembers?, json?_asData v, jsonMembers?_asData rest]

end

mutual

/-- **Objects do not show in JSON text.** -/
theorem write_asData : ∀ v : Value, Json.write v.asData = Json.write v
  | .list items | .tuple items => by
    rw [asData, Json.write, Json.write, writeItems_asData items]
  | .dict entries => by
    rw [asData, Json.write, Json.write, writeEntries_asData entries]
  | .null | .bool _ | .int _ | .float .. | .decimal .. | .str _ | .timestamp _ | .date _ | .uuid _
  | .bytes _ | .set .. | .operator _ | .connector _ | .direction _ | .condition .. | .sortKey .. =>
    rfl

theorem writeItems_asData : ∀ items : List Value,
    Json.writeItems (itemsAsData items) = Json.writeItems items
  | [] => rfl
  | v :: rest => by
    rw [itemsAsData, Json.writeItems, Json.writeItems, write_asData v, writeItems_asData rest]

theorem writeEntries_asData : ∀ entries : List (Value × Value),
    Json.writeEntries (entriesAsData entries) = Json.writeEntries entries
  | [] => rfl
  | (k, v) :: rest => by
    rw [entriesAsData, Json.writeEntries, Json.writeEntries, write_asData v,
      writeEntries_asData rest]

end

/-! ## Stored data -/

variable {v w d : Value} {key : String}

theorem storedData_eq_ok :
    v.storedData = .ok d ↔ ∃ stored, v.store = .ok stored ∧ stored.asData = d :=
  map_eq_ok

theorem storedData_of_store {stored : Value} (h : v.store = .ok stored) :
    v.storedData = .ok stored.asData :=
  storedData_eq_ok.mpr ⟨stored, h, rfl⟩

theorem json?_of_storedData (h : v.storedData = .ok d) : d.json? = v.datum? := by
  obtain ⟨stored, hstore, rfl⟩ := storedData_eq_ok.mp h
  rw [json?_asData, datum?, hstore]

/-- The canonical key of a value is the text of the data that it is stored as. -/
theorem canonicalKey_eq_ok_iff : v.canonicalKey = .ok key ↔
    ∃ d, v.storedData = .ok d ∧ Json.write d = .ok key.toList := by
  rw [canonicalKey_eq_ok]
  constructor
  · rintro ⟨stored, text, hstore, hwrite, rfl⟩
    exact ⟨_, storedData_of_store hstore, by rw [write_asData, hwrite, String.toList_ofList]⟩
  · rintro ⟨d, hd, hwrite⟩
    obtain ⟨stored, hstore, rfl⟩ := storedData_eq_ok.mp hd
    rw [write_asData] at hwrite
    exact ⟨stored, _, hstore, hwrite, by rw [String.ofList_toList]⟩

/-- **What is stored as the same data has one canonical key.** -/
theorem canonicalKey_of_storedData_eq (h : v.storedData = w.storedData) :
    v.canonicalKey = .ok key ↔ w.canonicalKey = .ok key := by
  rw [canonicalKey_eq_ok_iff, canonicalKey_eq_ok_iff, h]

theorem storedData_decimal (d : Decimal) (object other : Nat) :
    (decimal d object).storedData = (decimal d other).storedData := by
  unfold storedData
  rw [store, store]
  cases d.toBinary64? <;> rfl

mutual

/-- What is its own store form is so as data too. -/
theorem store_asData : ∀ {v : Value}, v.store = .ok v → v.asData.store = .ok v.asData
  | .list items, h => by
    rw [store] at h
    obtain ⟨stored, hstored, h⟩ := bind_eq_ok.mp h
    cases h
    rw [asData, store, storeItems_asData hstored]
    rfl
  | .dict entries, h => by
    rw [store] at h
    obtain ⟨stored, hstored, h⟩ := bind_eq_ok.mp h
    cases h
    rw [asData, store, storeEntries_asData hstored]
    rfl
  | .tuple items, h => by
    rw [store] at h
    obtain ⟨_, -, h⟩ := bind_eq_ok.mp h
    cases h
  | .set _ items, h => by
    obtain ⟨-, _, -, h⟩ := store_set_eq_ok.mp h
    cases h
  | .decimal d _, h => by
    rw [store] at h
    split at h <;> cases h
  | .timestamp _, h | .date _, h | .uuid _, h => by
    simp [store] at h
  | .null, _ | .bool _, _ | .int _, _ | .float .., _ | .str _, _ | .bytes _, _ | .operator _, _
  | .connector _, _ | .direction _, _ | .condition .., _ | .sortKey .., _ => by
    simp only [asData, store]

theorem storeItems_asData : ∀ {items : List Value}, storeItems items = .ok items →
    storeItems (itemsAsData items) = .ok (itemsAsData items)
  | [], _ => rfl
  | v :: rest, h => by
    rw [storeItems] at h
    obtain ⟨w, hw, h⟩ := bind_eq_ok.mp h
    obtain ⟨others, hothers, h⟩ := bind_eq_ok.mp h
    cases h
    rw [itemsAsData, storeItems, store_asData hw, storeItems_asData hothers]
    rfl

theorem storeEntries_asData : ∀ {entries : List (Value × Value)},
    storeEntries entries = .ok entries →
      storeEntries (entriesAsData entries) = .ok (entriesAsData entries)
  | [], _ => rfl
  | (k, v) :: rest, h => by
    rw [storeEntries] at h
    obtain ⟨w, hw, h⟩ := bind_eq_ok.mp h
    obtain ⟨others, hothers, h⟩ := bind_eq_ok.mp h
    cases h
    rw [entriesAsData, storeEntries, store_asData hw, storeEntries_asData hothers]
    rfl

end

mutual

theorem asData_asData : ∀ v : Value, v.asData.asData = v.asData
  | .list items | .tuple items | .set _ items => by
    rw [asData, asData, itemsAsData_itemsAsData items]
  | .dict entries => by
    rw [asData, asData, entriesAsData_entriesAsData entries]
  | .condition _ operand _ _ => by
    rw [asData, asData, asData_asData operand]
  | .null | .bool _ | .int _ | .float .. | .decimal .. | .str _ | .timestamp _ | .date _ | .uuid _
  | .bytes _ | .operator _ | .connector _ | .direction _ | .sortKey .. => rfl

theorem itemsAsData_itemsAsData : ∀ items : List Value,
    itemsAsData (itemsAsData items) = itemsAsData items
  | [] => rfl
  | v :: rest => by
    rw [itemsAsData, itemsAsData, asData_asData v, itemsAsData_itemsAsData rest]

theorem entriesAsData_entriesAsData : ∀ entries : List (Value × Value),
    entriesAsData (entriesAsData entries) = entriesAsData entries
  | [] => rfl
  | (k, v) :: rest => by
    rw [entriesAsData, entriesAsData, asData_asData v, entriesAsData_entriesAsData rest]

end

/-- Stored data are stored as they are. -/
theorem storedData_storedData (h : v.storedData = .ok d) : d.storedData = .ok d := by
  obtain ⟨stored, hstore, rfl⟩ := storedData_eq_ok.mp h
  exact storedData_eq_ok.mpr ⟨_, store_asData (store_store hstore), asData_asData stored⟩

/-- **Stored data have the canonical key of the value that they come from.** -/
theorem canonicalKey_of_storedData (h : v.storedData = .ok d) :
    d.canonicalKey = .ok key ↔ v.canonicalKey = .ok key :=
  canonicalKey_of_storedData_eq ((storedData_storedData h).trans h.symm)

/-- What items are stored as, as data. -/
def storedItems (items : List Value) : Except Fault (List Value) :=
  (storeItems items).map itemsAsData

theorem storedItems_cons (v : Value) (rest : List Value) : storedItems (v :: rest) = (do
    let d ← v.storedData
    let others ← storedItems rest
    return d :: others) := by
  unfold storedItems storedData
  rw [storeItems]
  cases v.store with
  | error e => rfl
  | ok stored => cases storeItems rest <;> rfl

theorem storedData_list (items : List Value) :
    (list items).storedData = (storedItems items).map list := by
  unfold storedItems storedData
  rw [store]
  cases storeItems items <;> rfl

theorem storedData_tuple (items : List Value) :
    (tuple items).storedData = (storedItems items).map list := by
  unfold storedItems storedData
  rw [store]
  cases storeItems items <;> rfl

/-- What the values of entries are stored as, as data. -/
def storedEntries (entries : List (Value × Value)) : Except Fault (List (Value × Value)) :=
  (storeEntries entries).map entriesAsData

theorem storedEntries_cons (k v : Value) (rest : List (Value × Value)) :
    storedEntries ((k, v) :: rest) = (do
      let d ← v.storedData
      let others ← storedEntries rest
      return (k, d) :: others) := by
  unfold storedEntries storedData
  rw [storeEntries]
  cases v.store with
  | error e => rfl
  | ok stored => cases storeEntries rest <;> rfl

theorem storedData_dict (entries : List (Value × Value)) :
    (dict entries).storedData = (storedEntries entries).map dict := by
  unfold storedEntries storedData
  rw [store]
  cases storeEntries entries <;> rfl

theorem itemsAsData_eq_map : ∀ items : List Value, itemsAsData items = items.map asData
  | [] => rfl
  | v :: rest => by rw [itemsAsData, List.map_cons, itemsAsData_eq_map rest]

/-- Items are put in one order as values and as data. -/
theorem itemsAsData_arranged (texts : List String) (items : List Value) :
    itemsAsData (arranged (texts.zip items)) = arranged (texts.zip (itemsAsData items)) := by
  let entry (e : String × Value) : String × Value := (e.1, e.2.asData)
  have hentries : texts.zip (items.map asData) = (texts.zip items).map entry := List.zip_map_right
  let before (x y : String × Value) : Bool := decide (x.1 ≤ y.1)
  have hsort : (Sorting.sort before (texts.zip items)).map entry =
      Sorting.sort before ((texts.zip items).map entry) :=
    @Sorting.map_sort _ _ entry before before (fun _ _ => rfl) _
  rw [itemsAsData_eq_map, itemsAsData_eq_map, hentries]
  show ((Sorting.sort before _).map _).map _ = (Sorting.sort before _).map _
  rw [← hsort, List.map_map, List.map_map]
  rfl

/-- A set is stored as a list of data exactly if its elements can be shown and stored. -/
theorem storedData_set_eq_ok {frozen : Bool} {items : List Value} :
    (set frozen items).storedData = .ok d ↔ areWritable items = true ∧
      ∃ stored, storedItems items = .ok stored ∧
        .list (arranged ((spellings items).zip stored)) = d := by
  rw [storedData_eq_ok]
  constructor
  · rintro ⟨w, hw, rfl⟩
    obtain ⟨hwritable, stored, hstored, rfl⟩ := store_set_eq_ok.mp hw
    exact ⟨hwritable, _, map_eq_ok.mpr ⟨stored, hstored, rfl⟩,
      by rw [asData, itemsAsData_arranged]⟩
  · rintro ⟨hwritable, ds, hds, rfl⟩
    obtain ⟨stored, hstored, rfl⟩ := map_eq_ok.mp hds
    exact ⟨_, store_set_eq_ok.mpr ⟨hwritable, stored, hstored, rfl⟩,
      by rw [asData, itemsAsData_arranged]⟩

end Docstore.Value
