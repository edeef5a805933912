import Docstore.Proofs.Json.Shape

/-!
# Canonical keys and JSON values

Values share a canonical key exactly if they are stored as the same JSON value.  Two JSON values are
the same if they are so node by node: of the same kind, where integers and floating-point numbers
are kinds of their own, with equal scalars, the same items in the same order, and the same members
in any order.

* `isSameJson_iff` — values in store form are the same JSON value exactly if they are one datum.
* `store_keysDiffer` — no dictionary in a store form holds a key twice.
* `canonicalKey_eq_iff` — values share a canonical key exactly if their store forms are the same
  JSON value.
-/

namespace Docstore.Value

/-! ## The same JSON value -/

mutual

/-- Whether no dictionary in a value, at any depth, holds two equal keys.  This is what makes a
dictionary one, and setting keys keeps it. -/
def keysDiffer : Value → Bool
  | .list items | .tuple items | .set _ items => allKeysDiffer items
  | .dict entries =>
    decide (entries.Pairwise fun e f => isEqual e.1 f.1 = false) && entryKeysDiffer entries
  | _ => true

/-- Whether this holds of all items. -/
def allKeysDiffer : List Value → Bool
  | [] => true
  | v :: rest => v.keysDiffer && allKeysDiffer rest

/-- Whether this holds of the values of all entries. -/
def entryKeysDiffer : List (Value × Value) → Bool
  | [] => true
  | (_, v) :: rest => v.keysDiffer && entryKeysDiffer rest

end

/-- The items of a value that JSON takes for an array. -/
def array? : Value → Option (List Value)
  | .list items | .tuple items => some items
  | _ => none

mutual

/-- Whether two values in store form are the same JSON value: of the same kind, with equal scalars,
the same items, or the same members in any order.  Not-a-number is the same as itself. -/
def IsSameJson : Value → Value → Prop
  | .null, w => w = .null
  | .bool b, w => w = .bool b
  | .int n, w => w = .int n
  | .float x _, w => ∃ object, w = .float x object
  | .str s, w => w.text? = some s
  | .operator op, w => w.text? = some op.text
  | .connector c, w => w.text? = some c.text
  | .direction d, w => w.text? = some d.text
  | .list items, w | .tuple items, w => ∃ others, w.array? = some others ∧
      AreSameItems items others
  | .dict entries, w => ∃ others order, w = .dict others ∧ order.Perm others ∧
      AreSameMembers entries order
  | _, _ => False

/-- Whether items are the same JSON values, one by one. -/
def AreSameItems : List Value → List Value → Prop
  | [], others => others = []
  | v :: rest, others => ∃ w others', others = w :: others' ∧ IsSameJson v w ∧
      AreSameItems rest others'

/-- Whether entries are the same members, one by one. -/
def AreSameMembers : List (Value × Value) → List (Value × Value) → Prop
  | [], others => others = []
  | (k, v) :: rest, others => ∃ l w others', others = (l, w) :: others' ∧ k.text? = l.text? ∧
      IsSameJson v w ∧ AreSameMembers rest others'

end

/-! ## Members -/

section Members

variable {entries others : List (Value × Value)} {members : List (String × Datum)}

theorem jsonMembers?_eq_some_iff : ∀ {entries : List (Value × Value)}
    {members : List (String × Datum)}, jsonMembers? entries = some members ↔
      List.Forall₂ (fun e m => e.1.text? = some m.1 ∧ e.2.json? = some m.2) entries members
  | [], members => by
    rw [jsonMembers?, List.forall₂_nil_left_iff]
    exact ⟨fun h => (Option.some.inj h).symm, fun h => h ▸ rfl⟩
  | (k, v) :: rest, members => by
    rw [jsonMembers?_cons, List.forall₂_cons_left_iff]
    constructor
    · rintro ⟨name, d, others, hname, hd, hothers, rfl⟩
      exact ⟨(name, d), others, ⟨hname, hd⟩, jsonMembers?_eq_some_iff.mp hothers, rfl⟩
    · rintro ⟨⟨name, d⟩, others, ⟨hname, hd⟩, hothers, rfl⟩
      exact ⟨name, d, others, hname, hd, jsonMembers?_eq_some_iff.mpr hothers, rfl⟩

/-- Entries in another order are the members in another order. -/
theorem exists_members_of_perm (hperm : others.Perm entries)
    (h : jsonMembers? entries = some members) :
    ∃ ms, jsonMembers? others = some ms ∧ ms.Perm members := by
  obtain ⟨ms, hms, hperm'⟩ := List.perm_comp_forall₂ hperm (jsonMembers?_eq_some_iff.mp h)
  exact ⟨ms, jsonMembers?_eq_some_iff.mpr hms, hperm'⟩

/-- Members in another order are entries in another order. -/
theorem exists_entries_of_perm {ms : List (String × Datum)} (hperm : ms.Perm members)
    (h : jsonMembers? entries = some members) :
    ∃ order, order.Perm entries ∧ jsonMembers? order = some ms := by
  have hcomp := List.perm_comp_forall₂ hperm (jsonMembers?_eq_some_iff.mp h).flip
  obtain ⟨order, horder, hperm'⟩ := hcomp
  exact ⟨order, hperm', jsonMembers?_eq_some_iff.mpr horder.flip⟩

/-- Keys that differ name different members. -/
theorem names_nodup_of_differ (h : jsonMembers? entries = some members)
    (hdiffer : entries.Pairwise fun e f => isEqual e.1 f.1 = false) :
    (members.map (·.1)).Nodup := by
  have hnames := jsonMembers?_names h
  have htexts : ∀ f ∈ entries, ∃ s, f.1.text? = some s := by
    intro f hf
    have hmem : f.1.text? ∈ names entries := List.mem_map_of_mem hf
    rw [← hnames] at hmem
    obtain ⟨s, -, hs⟩ := List.mem_map.mp hmem
    exact ⟨s, hs.symm⟩
  have hnodup : (names entries).Nodup := by
    refine List.pairwise_map.mpr (hdiffer.imp_of_mem ?_)
    intro e f _ hf hne heq
    obtain ⟨s, hs⟩ := htexts f hf
    rw [isEqual_eq_text e.1 hs, heq, hs, beq_self_eq_true] at hne
    cases hne
  rw [← hnames] at hnodup
  exact hnodup.of_map

end Members

/-! ## Sameness of data -/

theorem text?_eq_some_iff {w : Value} {e : Datum} (he : w.json? = some e) (s : String) :
    w.text? = some s ↔ Datum.string s = e := by
  cases w <;> simp_all [json?, text?] <;> grind

mutual

/-- **Values in store form are the same JSON value** exactly if they are one datum. -/
theorem isSameJson_iff : ∀ {v w : Value} {d e : Datum}, v.keysDiffer = true → v.json? = some d →
    w.json? = some e → (v.IsSameJson w ↔ d = e)
  | .null, w, d, e, _, hd, he | .bool _, w, d, e, _, hd, he | .int _, w, d, e, _, hd, he
  | .float .., w, d, e, _, hd, he => by
    cases hd
    cases w <;> simp_all [json?, IsSameJson] <;> grind
  | .str _, w, d, e, _, hd, he | .operator _, w, d, e, _, hd, he | .connector _, w, d, e, _, hd, he
  | .direction _, w, d, e, _, hd, he => by
    cases hd
    exact text?_eq_some_iff he _
  | .list items, w, d, e, hk, hd, he | .tuple items, w, d, e, hk, hd, he => by
    rw [json?] at hd
    obtain ⟨ds, hds, rfl⟩ := Option.map_eq_some_iff.mp hd
    rw [IsSameJson]
    cases w with
    | list others | tuple others =>
      rw [json?] at he
      obtain ⟨es, hes, rfl⟩ := Option.map_eq_some_iff.mp he
      simp only [array?, Option.some.injEq, exists_eq_left', Datum.array.injEq]
      exact areSameItems_iff hk hds hes
    | _ => simp_all [array?, json?] <;> grind
  | .dict entries, w, d, e, hk, hd, he => by
    rw [json?] at hd
    obtain ⟨ms, hms, rfl⟩ := Option.map_eq_some_iff.mp hd
    rw [keysDiffer, Bool.and_eq_true, decide_eq_true_eq] at hk
    rw [IsSameJson]
    cases w with
    | dict others =>
      rw [json?] at he
      obtain ⟨ns, hns, rfl⟩ := Option.map_eq_some_iff.mp he
      rw [Datum.object.injEq, byName, byName,
        Sorting.sort_by_name_eq_iff_perm (names_nodup_of_differ hms hk.1)]
      constructor
      · rintro ⟨_, order, heq, hperm, hsame⟩
        cases heq
        obtain ⟨os, hos, hperm'⟩ := exists_members_of_perm hperm hns
        rw [(areSameMembers_iff hk.2 hms hos).mp hsame]
        exact hperm'
      · intro hperm
        obtain ⟨order, horder, hos⟩ := exists_entries_of_perm hperm hns
        exact ⟨others, order, rfl, horder, (areSameMembers_iff hk.2 hms hos).mpr rfl⟩
    | _ => simp_all [json?] <;> grind

theorem areSameItems_iff : ∀ {items others : List Value} {ds es : List Datum},
    allKeysDiffer items = true → jsonItems? items = some ds → jsonItems? others = some es →
      (AreSameItems items others ↔ ds = es)
  | [], others, ds, es, _, hd, he => by
    cases hd
    rw [AreSameItems]
    cases others with
    | nil => cases he; simp
    | cons w rest =>
      obtain ⟨e, es', -, -, rfl⟩ := jsonItems?_cons.mp he
      simp
  | v :: rest, others, ds, es, hk, hd, he => by
    obtain ⟨d, ds', hv, hrest, rfl⟩ := jsonItems?_cons.mp hd
    rw [allKeysDiffer, Bool.and_eq_true] at hk
    rw [AreSameItems]
    cases others with
    | nil => cases he; simp
    | cons w others' =>
      obtain ⟨e, es', hw, hothers, rfl⟩ := jsonItems?_cons.mp he
      rw [List.cons.injEq, ← isSameJson_iff hk.1 hv hw, ← areSameItems_iff hk.2 hrest hothers]
      simp

theorem areSameMembers_iff : ∀ {entries others : List (Value × Value)}
    {ms ns : List (String × Datum)}, entryKeysDiffer entries = true →
      jsonMembers? entries = some ms → jsonMembers? others = some ns →
        (AreSameMembers entries others ↔ ms = ns)
  | [], others, ms, ns, _, hm, hn => by
    cases hm
    rw [AreSameMembers]
    cases others with
    | nil => cases hn; simp
    | cons f rest =>
      obtain ⟨name, e, ns', -, -, -, rfl⟩ := jsonMembers?_cons.mp hn
      simp
  | (k, v) :: rest, others, ms, ns, hk, hm, hn => by
    obtain ⟨name, d, ms', hname, hv, hrest, rfl⟩ := jsonMembers?_cons.mp hm
    rw [entryKeysDiffer, Bool.and_eq_true] at hk
    rw [AreSameMembers]
    cases others with
    | nil => cases hn; simp
    | cons f others' =>
      obtain ⟨l, w⟩ := f
      obtain ⟨name', e, ns', hname', hw, hothers, rfl⟩ := jsonMembers?_cons.mp hn
      rw [List.cons.injEq, Prod.mk.injEq, ← isSameJson_iff hk.1 hv hw,
        ← areSameMembers_iff hk.2 hrest hothers]
      simp [hname, hname', and_assoc]

end

/-! ## Store forms -/

theorem allKeysDiffer_iff : ∀ {items : List Value},
    allKeysDiffer items = true ↔ ∀ v ∈ items, v.keysDiffer = true
  | [] => by simp [allKeysDiffer]
  | v :: rest => by simp [allKeysDiffer, @allKeysDiffer_iff rest]

/-- Dictionaries are stored under their own keys. -/
theorem storeEntries_keys : ∀ {entries stored : List (Value × Value)},
    storeEntries entries = .ok stored → stored.map (·.1) = entries.map (·.1)
  | [], stored, h => by
    cases h
    rfl
  | (k, v) :: rest, stored, h => by
    rw [storeEntries] at h
    obtain ⟨w, -, h⟩ := bind_eq_ok.mp h
    obtain ⟨others, hothers, h⟩ := bind_eq_ok.mp h
    obtain rfl := (Except.ok.inj h).symm
    rw [List.map_cons, List.map_cons, storeEntries_keys hothers]

theorem keys_differ_congr {entries others : List (Value × Value)}
    (hkeys : others.map (·.1) = entries.map (·.1))
    (h : entries.Pairwise fun e f => isEqual e.1 f.1 = false) :
    others.Pairwise fun e f => isEqual e.1 f.1 = false := by
  have hmapped : (entries.map (·.1)).Pairwise fun k l => isEqual k l = false :=
    List.pairwise_map.mpr h
  rw [← hkeys] at hmapped
  exact List.pairwise_map.mp hmapped

mutual

/-- **The store form of a value whose keys differ** has keys that differ. -/
theorem store_keysDiffer : ∀ {v w : Value}, v.store = .ok w → v.keysDiffer = true →
    w.keysDiffer = true
  | .list items, w, h, hk | .tuple items, w, h, hk => by
    rw [store] at h
    obtain ⟨stored, hs, hw⟩ := bind_eq_ok.mp h
    obtain rfl := (Except.ok.inj hw).symm
    exact storeItems_allKeysDiffer hs hk
  | .set _ items, w, h, hk => by
    obtain ⟨-, stored, hs, rfl⟩ := store_set_eq_ok.mp h
    have hall := allKeysDiffer_iff.mp (storeItems_allKeysDiffer hs hk)
    exact allKeysDiffer_iff.mpr fun v hv => hall v ((arranged_perm hs).mem_iff.mp hv)
  | .dict entries, w, h, hk => by
    rw [store] at h
    obtain ⟨stored, hs, hw⟩ := bind_eq_ok.mp h
    obtain rfl := (Except.ok.inj hw).symm
    rw [keysDiffer, Bool.and_eq_true, decide_eq_true_eq] at hk ⊢
    exact ⟨keys_differ_congr (storeEntries_keys hs) hk.1, storeEntries_entryKeysDiffer hs hk.2⟩
  | .decimal d _, w, h, _ => by
    rw [store] at h
    split at h <;> cases h
    rfl
  | .null, w, h, _ | .bool _, w, h, _ | .int _, w, h, _ | .float .., w, h, _ | .str _, w, h, _
  | .timestamp _, w, h, _ | .date _, w, h, _ | .uuid _, w, h, _ | .bytes _, w, h, _
  | .operator _, w, h, _ | .connector _, w, h, _ | .direction _, w, h, _
  | .condition .., w, h, _ | .sortKey .., w, h, _ => by
    simp only [store] at h
    cases h
    rfl

theorem storeItems_allKeysDiffer : ∀ {items stored : List Value}, storeItems items = .ok stored →
    allKeysDiffer items = true → allKeysDiffer stored = true
  | [], stored, h, _ => by
    cases h
    rfl
  | v :: rest, stored, h, hk => by
    rw [storeItems] at h
    obtain ⟨w, hw, h⟩ := bind_eq_ok.mp h
    obtain ⟨others, hothers, h⟩ := bind_eq_ok.mp h
    obtain rfl := (Except.ok.inj h).symm
    rw [allKeysDiffer, Bool.and_eq_true] at hk ⊢
    exact ⟨store_keysDiffer hw hk.1, storeItems_allKeysDiffer hothers hk.2⟩

theorem storeEntries_entryKeysDiffer : ∀ {entries stored : List (Value × Value)},
    storeEntries entries = .ok stored → entryKeysDiffer entries = true →
      entryKeysDiffer stored = true
  | [], stored, h, _ => by
    cases h
    rfl
  | (k, v) :: rest, stored, h, hk => by
    rw [storeEntries] at h
    obtain ⟨w, hw, h⟩ := bind_eq_ok.mp h
    obtain ⟨others, hothers, h⟩ := bind_eq_ok.mp h
    obtain rfl := (Except.ok.inj h).symm
    rw [entryKeysDiffer, Bool.and_eq_true] at hk ⊢
    exact ⟨store_keysDiffer hw hk.1, storeEntries_entryKeysDiffer hothers hk.2⟩

end

/-! ## Canonical keys -/

/-- The canonical key of a value is the text of the datum that its store form is. -/
theorem canonicalKey_eq_text_of_stored {v stored : Value} {key : String}
    (hv : v.canonicalKey = .ok key) (hstored : v.store = .ok stored)
    (htext : stored.hasTextKeys = true) :
    ∃ d, stored.json? = some d ∧ key = String.ofList d.text := by
  obtain ⟨w, t, hs, hw, rfl⟩ := canonicalKey_eq_ok.mp hv
  obtain rfl := Except.ok.inj (hs.symm.trans hstored)
  obtain ⟨d, hd, -, rfl⟩ := write_eq_text htext hw
  exact ⟨d, hd, rfl⟩

/-- **Values share a canonical key** exactly if their store forms are the same JSON value, provided
that the keys of the dictionaries in the store forms are texts.  The first value is one whose
dictionaries hold no key twice, as all dictionaries do. -/
theorem canonicalKey_eq_iff {v w storedV storedW : Value} {keyV keyW : String}
    (hv : v.canonicalKey = .ok keyV) (hw : w.canonicalKey = .ok keyW)
    (hstoredV : v.store = .ok storedV) (hstoredW : w.store = .ok storedW)
    (htextV : storedV.hasTextKeys = true) (htextW : storedW.hasTextKeys = true)
    (hdiffer : v.keysDiffer = true) : keyV = keyW ↔ storedV.IsSameJson storedW := by
  obtain ⟨d, hd, rfl⟩ := canonicalKey_eq_text_of_stored hv hstoredV htextV
  obtain ⟨e, he, rfl⟩ := canonicalKey_eq_text_of_stored hw hstoredW htextW
  rw [isSameJson_iff (store_keysDiffer hstoredV hdiffer) hd he]
  constructor
  · intro h
    exact Datum.text_injective (String.ofList_injective h)
  · rintro rfl
    rfl

/-- A tuple is stored as a list, an operator as its text, and the order in which keys were set does
not count. -/
theorem isSameJson_of_permuted_members :
    let v : Value := .dict [(.str "a", .tuple [.int 1, .operator .isIn]), (.str "b", .dict [])]
    let w : Value := .dict [(.str "b", .dict []), (.str "a", .list [.int 1, .str "in"])]
    let stored : Value := .dict [(.str "a", .list [.int 1, .operator .isIn]), (.str "b", .dict [])]
    v.store = .ok stored ∧ v.canonicalKey = w.canonicalKey ∧ stored.IsSameJson w := by
  intro v w stored
  have hv : v.canonicalKey = .ok "\x7b\"a\":[1,\"in\"],\"b\":\x7b\x7d\x7d" := by rfl
  have hw : w.canonicalKey = .ok "\x7b\"a\":[1,\"in\"],\"b\":\x7b\x7d\x7d" := by rfl
  have hdiffer : v.keysDiffer = true := by decide +kernel
  exact ⟨rfl, hv.trans hw.symm, (canonicalKey_eq_iff hv hw rfl rfl rfl rfl hdiffer).mp rfl⟩

end Docstore.Value
