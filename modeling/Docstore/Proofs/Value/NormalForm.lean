import Docstore.Proofs.Value.StoreForm

/-!
# Store forms are normal forms

The plain values are built from nothing, truth values, numbers, texts, times and identifiers by
lists, tuples, sets and dictionaries with text keys.  A plain value has a store form, whatever its
sets hold: elements are put in order by the texts that show them, and texts can always be compared.
The store form consists of what JSON knows, and its integers are those of the value.  So nothing but
an integer with too many digits keeps a plain value from having a canonical key, and such an integer
in a set from having a store form.

* `store_of_isPlain` — a plain value with writable sets has a store form, which is normal.
* `hasWritableSets_of_store` — what has a store form has writable sets.
* `canonicalKey_of_isPlain` — a plain value has a canonical key exactly if it is writable.
-/

namespace Docstore.Value

mutual

/-- Whether a value is built from nothing, truth values, numbers other than signaling ones, texts,
times and identifiers by lists, tuples, sets and dictionaries with text keys. -/
def isPlain : Value → Bool
  | .null | .bool _ | .int _ | .float .. | .str _ | .timestamp _ | .date _ | .uuid _
  | .operator _ | .connector _ | .direction _ => true
  | .decimal d _ => !d.isSignaling
  | .list items | .tuple items | .set _ items => arePlain items
  | .dict entries => entriesArePlain entries
  | _ => false

def arePlain : List Value → Bool
  | [] => true
  | v :: rest => v.isPlain && arePlain rest

/-- Whether the keys of entries are texts and their values are plain. -/
def entriesArePlain : List (Value × Value) → Bool
  | [] => true
  | (k, v) :: rest => k.text?.isSome && v.isPlain && entriesArePlain rest

end

mutual

/-- Whether a value consists of what JSON knows: nothing, truth values, integers, floating-point
numbers, texts, lists, and dictionaries with text keys. -/
def isNormal : Value → Bool
  | .null | .bool _ | .int _ | .float .. | .str _ | .operator _ | .connector _ | .direction _ => true
  | .list items => areNormal items
  | .dict entries => entriesAreNormal entries
  | _ => false

def areNormal : List Value → Bool
  | [] => true
  | v :: rest => v.isNormal && areNormal rest

/-- Whether the keys of entries are texts and their values are normal. -/
def entriesAreNormal : List (Value × Value) → Bool
  | [] => true
  | (k, v) :: rest => k.text?.isSome && v.isNormal && entriesAreNormal rest

end

mutual

/-- Whether the integers in the sets of a value, at every depth, are short enough to be written. -/
def hasWritableSets : Value → Bool
  | .set _ items => areWritable items
  | .list items | .tuple items => haveWritableSets items
  | .dict entries => entriesHaveWritableSets entries
  | _ => true

def haveWritableSets : List Value → Bool
  | [] => true
  | v :: rest => v.hasWritableSets && haveWritableSets rest

/-- Whether this holds of the values of entries. -/
def entriesHaveWritableSets : List (Value × Value) → Bool
  | [] => true
  | (_, v) :: rest => v.hasWritableSets && entriesHaveWritableSets rest

end

theorem areNormal_iff : ∀ {items : List Value},
    areNormal items = true ↔ ∀ v ∈ items, v.isNormal = true
  | [] => by simp [areNormal]
  | v :: rest => by simp [areNormal, @areNormal_iff rest]

theorem areWritable_iff : ∀ {items : List Value},
    areWritable items = true ↔ ∀ v ∈ items, v.isWritable = true
  | [] => by simp [areWritable]
  | v :: rest => by simp [areWritable, @areWritable_iff rest]

theorem areNormal_of_perm {items items' : List Value} (h : items.Perm items') :
    areNormal items = areNormal items' := by
  rw [Bool.eq_iff_iff, areNormal_iff, areNormal_iff]
  exact forall_congr' fun v => imp_congr_left h.mem_iff

theorem areWritable_of_perm {items items' : List Value} (h : items.Perm items') :
    areWritable items = areWritable items' := by
  rw [Bool.eq_iff_iff, areWritable_iff, areWritable_iff]
  exact forall_congr' fun v => imp_congr_left h.mem_iff

/-- What is a text can be written. -/
theorem isWritable_of_text? {v : Value} (h : v.text?.isSome = true) : v.isWritable = true := by
  cases v <;> first | rfl | cases h

mutual

/-- What can be written has sets that can. -/
theorem hasWritableSets_of_isWritable : ∀ {v : Value}, v.isWritable = true →
    v.hasWritableSets = true
  | .set .., h => h
  | .list _, h | .tuple _, h => haveWritableSets_of_areWritable h
  | .dict _, h => entriesHaveWritableSets_of_areWritable h
  | .null, _ | .bool _, _ | .int _, _ | .float .., _ | .decimal .., _ | .str _, _ | .timestamp _, _
  | .date _, _ | .uuid _, _ | .bytes _, _ | .operator _, _ | .connector _, _ | .direction _, _
  | .condition .., _ | .sortKey .., _ => rfl

theorem haveWritableSets_of_areWritable : ∀ {items : List Value}, areWritable items = true →
    haveWritableSets items = true
  | [], _ => rfl
  | v :: rest, h => by
    rw [areWritable, Bool.and_eq_true] at h
    rw [haveWritableSets, hasWritableSets_of_isWritable h.1, haveWritableSets_of_areWritable h.2]
    rfl

theorem entriesHaveWritableSets_of_areWritable : ∀ {entries : List (Value × Value)},
    entriesAreWritable entries = true → entriesHaveWritableSets entries = true
  | [], _ => rfl
  | (k, v) :: rest, h => by
    simp only [entriesAreWritable, Bool.and_eq_true] at h
    rw [entriesHaveWritableSets, hasWritableSets_of_isWritable h.1.2,
      entriesHaveWritableSets_of_areWritable h.2]
    rfl

end

mutual

/-- What is stored has sets that can be written. -/
theorem hasWritableSets_of_store : ∀ {v w : Value}, v.store = .ok w → v.hasWritableSets = true
  | .set .., _, h => (store_set_eq_ok.mp h).1
  | .list items, _, h | .tuple items, _, h => by
    obtain ⟨stored, hstored, -⟩ := bind_eq_ok.mp h
    exact haveWritableSets_of_storeItems hstored
  | .dict entries, _, h => by
    obtain ⟨stored, hstored, -⟩ := bind_eq_ok.mp h
    exact entriesHaveWritableSets_of_storeEntries hstored
  | .null, _, _ | .bool _, _, _ | .int _, _, _ | .float .., _, _ | .decimal .., _, _ | .str _, _, _
  | .timestamp _, _, _ | .date _, _, _ | .uuid _, _, _ | .bytes _, _, _ | .operator _, _, _
  | .connector _, _, _ | .direction _, _, _ | .condition .., _, _ | .sortKey .., _, _ => rfl

theorem haveWritableSets_of_storeItems : ∀ {items stored : List Value},
    storeItems items = .ok stored → haveWritableSets items = true
  | [], _, _ => rfl
  | v :: rest, _, h => by
    obtain ⟨w, hw, h⟩ := bind_eq_ok.mp h
    obtain ⟨others, hothers, -⟩ := bind_eq_ok.mp h
    rw [haveWritableSets, hasWritableSets_of_store hw, haveWritableSets_of_storeItems hothers]
    rfl

theorem entriesHaveWritableSets_of_storeEntries : ∀ {entries stored : List (Value × Value)},
    storeEntries entries = .ok stored → entriesHaveWritableSets entries = true
  | [], _, _ => rfl
  | (k, v) :: rest, _, h => by
    obtain ⟨w, hw, h⟩ := bind_eq_ok.mp h
    obtain ⟨others, hothers, -⟩ := bind_eq_ok.mp h
    rw [entriesHaveWritableSets, hasWritableSets_of_store hw,
      entriesHaveWritableSets_of_storeEntries hothers]
    rfl

end

/-- A decimal number that is not signaling is stored as a floating-point number. -/
theorem store_decimal {d : Decimal} (h : d.isSignaling = false) (object : Nat) :
    ∃ x, (Value.decimal d object).store = .ok (.float x (.ofDecimal object)) := by
  cases d with
  | finite negative coefficient exponent => exact ⟨_, rfl⟩
  | infinity negative => exact ⟨_, rfl⟩
  | nan negative signaling payload =>
    obtain rfl : signaling = false := h
    exact ⟨.nan, rfl⟩

/-! ## Plain values are stored -/

mutual

/-- **A plain value has a store form** if the integers in its sets can be written; the store form is
normal and has the same integers. -/
theorem store_of_isPlain : ∀ {v : Value}, v.isPlain = true → v.hasWritableSets = true →
    ∃ w, v.store = .ok w ∧ w.isNormal = true ∧ w.isWritable = v.isWritable
  | .null, _, _ | .bool _, _, _ | .int _, _, _ | .float .., _, _ | .str _, _, _ | .timestamp _, _, _
  | .date _, _, _ | .uuid _, _, _ | .operator _, _, _ | .connector _, _, _
  | .direction _, _, _ => ⟨_, rfl, rfl, rfl⟩
  | .decimal d object, h, _ => by
    rw [isPlain, Bool.not_eq_true'] at h
    obtain ⟨x, hx⟩ := store_decimal h object
    exact ⟨_, hx, rfl, rfl⟩
  | .list items, h, hsets | .tuple items, h, hsets => by
    obtain ⟨stored, hstored, hnormal, hfit⟩ := storeItems_of_arePlain h hsets
    exact ⟨.list stored, bind_eq_ok.mpr ⟨stored, hstored, rfl⟩, hnormal, hfit⟩
  | .set _ items, h, hsets => by
    obtain ⟨stored, hstored, hnormal, hfit⟩ :=
      storeItems_of_arePlain h (haveWritableSets_of_areWritable hsets)
    have hperm := arranged_perm hstored
    refine ⟨_, store_set_eq_ok.mpr ⟨hsets, stored, hstored, rfl⟩, ?_, ?_⟩
    · exact (areNormal_of_perm hperm).trans hnormal
    · exact (areWritable_of_perm hperm).trans hfit
  | .dict entries, h, hsets => by
    obtain ⟨stored, hstored, hnormal, hfit⟩ := storeEntries_of_arePlain h hsets
    exact ⟨.dict stored, bind_eq_ok.mpr ⟨stored, hstored, rfl⟩, hnormal, hfit⟩

theorem storeItems_of_arePlain : ∀ {items : List Value}, arePlain items = true →
    haveWritableSets items = true → ∃ stored, storeItems items = .ok stored ∧
      areNormal stored = true ∧ areWritable stored = areWritable items
  | [], _, _ => ⟨[], rfl, rfl, rfl⟩
  | v :: rest, h, hsets => by
    rw [arePlain, Bool.and_eq_true] at h
    rw [haveWritableSets, Bool.and_eq_true] at hsets
    obtain ⟨w, hw, hnormal, hfit⟩ := store_of_isPlain h.1 hsets.1
    obtain ⟨others, hothers, hnormals, hfits⟩ := storeItems_of_arePlain h.2 hsets.2
    refine ⟨w :: others, ?_, ?_, ?_⟩
    · rw [storeItems, hw, hothers]
      rfl
    · rw [areNormal, hnormal, hnormals]
      rfl
    · rw [areWritable, areWritable, hfit, hfits]

theorem storeEntries_of_arePlain : ∀ {entries : List (Value × Value)},
    entriesArePlain entries = true → entriesHaveWritableSets entries = true →
      ∃ stored, storeEntries entries = .ok stored ∧ entriesAreNormal stored = true ∧
        entriesAreWritable stored = entriesAreWritable entries
  | [], _, _ => ⟨[], rfl, rfl, rfl⟩
  | (k, v) :: rest, h, hsets => by
    simp only [entriesArePlain, Bool.and_eq_true] at h
    obtain ⟨⟨hk, hv⟩, hrest⟩ := h
    rw [entriesHaveWritableSets, Bool.and_eq_true] at hsets
    obtain ⟨w, hw, hnormal, hfit⟩ := store_of_isPlain hv hsets.1
    obtain ⟨others, hothers, hnormals, hfits⟩ := storeEntries_of_arePlain hrest hsets.2
    refine ⟨(k, w) :: others, ?_, ?_, ?_⟩
    · rw [storeEntries, hw, hothers]
      rfl
    · rw [entriesAreNormal, hk, hnormal, hnormals]
      rfl
    · rw [entriesAreWritable, entriesAreWritable, hfit, hfits]

end

/-! ## Normal values are data -/

mutual

/-- **A normal value is a datum**, which fits exactly if the integers of the value do. -/
theorem json?_of_isNormal : ∀ {v : Value}, v.isNormal = true →
    v.hasTextKeys = true ∧ ∃ d, v.json? = some d ∧ d.fits = v.isWritable
  | .null, _ | .bool _, _ | .int _, _ | .float .., _ | .str _, _ | .operator _, _
  | .connector _, _ | .direction _, _ => ⟨rfl, _, rfl, rfl⟩
  | .list items, h => by
    obtain ⟨htext, ds, hds, hfit⟩ := jsonItems?_of_areNormal h
    exact ⟨htext, .array ds, by rw [json?, hds]; rfl, hfit⟩
  | .dict entries, h => by
    obtain ⟨htext, members, hmembers, hfit⟩ := jsonMembers?_of_areNormal h
    exact ⟨htext, .object (byName members), by rw [json?, hmembers]; rfl, byName_fit.trans hfit⟩

theorem jsonItems?_of_areNormal : ∀ {items : List Value}, areNormal items = true →
    haveTextKeys items = true ∧
      ∃ ds, jsonItems? items = some ds ∧ Datum.itemsFit ds = areWritable items
  | [], _ => ⟨rfl, [], rfl, rfl⟩
  | v :: rest, h => by
    rw [areNormal, Bool.and_eq_true] at h
    obtain ⟨htext, d, hd, hfit⟩ := json?_of_isNormal h.1
    obtain ⟨htexts, ds, hds, hfits⟩ := jsonItems?_of_areNormal h.2
    refine ⟨?_, d :: ds, jsonItems?_cons.mpr ⟨d, ds, hd, hds, rfl⟩, ?_⟩
    · rw [haveTextKeys, htext, htexts]
      rfl
    · rw [Datum.itemsFit, areWritable, hfit, hfits]

theorem jsonMembers?_of_areNormal : ∀ {entries : List (Value × Value)},
    entriesAreNormal entries = true → entriesHaveTextKeys entries = true ∧
      ∃ members, jsonMembers? entries = some members ∧
        Datum.membersFit members = entriesAreWritable entries
  | [], _ => ⟨rfl, [], rfl, rfl⟩
  | (k, v) :: rest, h => by
    simp only [entriesAreNormal, Bool.and_eq_true] at h
    obtain ⟨⟨hk, hv⟩, hrest⟩ := h
    obtain ⟨name, hname⟩ := Option.isSome_iff_exists.mp hk
    obtain ⟨htext, d, hd, hfit⟩ := json?_of_isNormal hv
    obtain ⟨htexts, members, hmembers, hfits⟩ := jsonMembers?_of_areNormal hrest
    refine ⟨?_, (name, d) :: members,
      jsonMembers?_cons.mpr ⟨name, d, members, hname, hd, hmembers, rfl⟩, ?_⟩
    · rw [entriesHaveTextKeys, hk, htext, htexts]
      rfl
    · rw [Datum.membersFit, entriesAreWritable, isWritable_of_text? hk, hfit, hfits, Bool.true_and]

end

/-- A normal value is written exactly if it is writable. -/
theorem write_of_isNormal {v : Value} (h : v.isNormal = true) :
    (∃ t, Json.write v = .ok t) ↔ v.isWritable = true := by
  obtain ⟨htext, d, hd, hfit⟩ := json?_of_isNormal h
  rw [← hfit]
  constructor
  · rintro ⟨t, ht⟩
    obtain ⟨d', hd', hfits, -⟩ := write_eq_text htext ht
    rwa [Option.some.inj (hd.symm.trans hd')]
  · intro hfits
    exact ⟨d.text, write_of_fits hd hfits⟩

/-- **A plain value has a canonical key exactly if it is writable.** -/
theorem canonicalKey_of_isPlain {v : Value} (h : v.isPlain = true) :
    (∃ key, v.canonicalKey = .ok key) ↔ v.isWritable = true := by
  constructor
  · rintro ⟨key, hkey⟩
    obtain ⟨w', t, hw', ht, -⟩ := canonicalKey_eq_ok.mp hkey
    obtain ⟨w, hw, hnormal, hfit⟩ := store_of_isPlain h (hasWritableSets_of_store hw')
    rw [← hfit, ← write_of_isNormal hnormal, Except.ok.inj (hw.symm.trans hw')]
    exact ⟨t, ht⟩
  · intro hwritable
    obtain ⟨w, hw, hnormal, hfit⟩ := store_of_isPlain h (hasWritableSets_of_isWritable hwritable)
    obtain ⟨t, ht⟩ := (write_of_isNormal hnormal).mpr (hfit.trans hwritable)
    exact ⟨_, canonicalKey_eq_ok.mpr ⟨w, t, hw, ht, rfl⟩⟩

end Docstore.Value
