import Docstore.Proofs.Json.Datum
import Docstore.Proofs.Outcome

/-!
# The data that values are stored as

A value in store form is a JSON value, provided that the keys of its dictionaries are texts.  The
canonical key of a value is the text of the datum that it is stored as, so the values with one
canonical key are stored as one datum.

* `write_eq_text` — what is written of a value in store form is the text of its datum.
* `store_hasTextKeys` — the store form of a value with text keys has text keys.
* `canonicalKey_eq_text` — the canonical key of a value is the text of its datum.
* `datum?_eq_of_canonicalKey` — values with the same canonical key are stored as the same datum.
-/

namespace Docstore

namespace Datum

mutual

/-- Whether the integers of a datum, at every depth, are short enough to be written. -/
def fits : Datum → Bool
  | .int n => Text.isWritable n
  | .array items => itemsFit items
  | .object members => membersFit members
  | _ => true

/-- Whether all items fit. -/
def itemsFit : List Datum → Bool
  | [] => true
  | d :: rest => d.fits && itemsFit rest

/-- Whether the values of all members fit. -/
def membersFit : List (String × Datum) → Bool
  | [] => true
  | (_, d) :: rest => d.fits && membersFit rest

end

theorem membersFit_iff : ∀ {members : List (String × Datum)},
    membersFit members = true ↔ ∀ m ∈ members, m.2.fits = true
  | [] => by simp [membersFit]
  | (name, d) :: rest => by simp [membersFit, @membersFit_iff rest]

end Datum

namespace Value

mutual

/-- Whether the keys of all dictionaries in a value, at every depth, are texts. -/
def hasTextKeys : Value → Bool
  | .list items | .tuple items | .set _ items => haveTextKeys items
  | .dict entries => entriesHaveTextKeys entries
  | _ => true

/-- Whether all items have text keys. -/
def haveTextKeys : List Value → Bool
  | [] => true
  | v :: rest => v.hasTextKeys && haveTextKeys rest

/-- Whether the keys of entries are texts and their values have text keys. -/
def entriesHaveTextKeys : List (Value × Value) → Bool
  | [] => true
  | (k, v) :: rest => k.text?.isSome && v.hasTextKeys && entriesHaveTextKeys rest

end

/-- The members of an object in the order of their names. -/
def byName (members : List (String × Datum)) : List (String × Datum) :=
  Sorting.sort (fun x y => decide (x.1 ≤ y.1)) members

mutual

/-- The datum that a value in store form is, if its dictionaries have text keys. -/
def json? : Value → Option Datum
  | .null => some .null
  | .bool b => some (.bool b)
  | .int n => some (.int n)
  | .float x _ => some (.float x)
  | .str s => some (.string s)
  | .operator op => some (.string op.text)
  | .connector c => some (.string c.text)
  | .direction d => some (.string d.text)
  | .list items | .tuple items => (jsonItems? items).map .array
  | .dict entries => (jsonMembers? entries).map fun members => .object (byName members)
  | _ => none

/-- The data of items. -/
def jsonItems? : List Value → Option (List Datum)
  | [] => some []
  | v :: rest => match v.json?, jsonItems? rest with
    | some d, some ds => some (d :: ds)
    | _, _ => none

/-- The members that entries are, in the order of the entries. -/
def jsonMembers? : List (Value × Value) → Option (List (String × Datum))
  | [] => some []
  | (k, v) :: rest => match k.text?, v.json?, jsonMembers? rest with
    | some name, some d, some members => some ((name, d) :: members)
    | _, _, _ => none

end

/-- The datum that a value is stored as. -/
def datum? (v : Value) : Option Datum :=
  match v.store with
  | .ok stored => stored.json?
  | .error _ => none

theorem jsonItems?_cons {v : Value} {rest : List Value} {ds : List Datum} :
    jsonItems? (v :: rest) = some ds ↔
      ∃ d others, v.json? = some d ∧ jsonItems? rest = some others ∧ ds = d :: others := by
  rw [jsonItems?]
  cases v.json? <;> cases jsonItems? rest <;> simp [eq_comm]

theorem jsonMembers?_cons {k v : Value} {rest : List (Value × Value)}
    {members : List (String × Datum)} : jsonMembers? ((k, v) :: rest) = some members ↔
      ∃ name d others, k.text? = some name ∧ v.json? = some d ∧ jsonMembers? rest = some others ∧
        members = (name, d) :: others := by
  rw [jsonMembers?]
  cases k.text? <;> cases v.json? <;> cases jsonMembers? rest <;> simp [eq_comm]

/-! ## Text keys -/

theorem haveTextKeys_iff : ∀ {items : List Value},
    haveTextKeys items = true ↔ ∀ v ∈ items, v.hasTextKeys = true
  | [] => by simp [haveTextKeys]
  | v :: rest => by simp [haveTextKeys, @haveTextKeys_iff rest]

theorem spellings_length : ∀ items : List Value, (spellings items).length = items.length
  | [] => rfl
  | _ :: rest => by rw [spellings, List.length_cons, List.length_cons, spellings_length rest]

theorem storeItems_length : ∀ {items stored : List Value}, storeItems items = .ok stored →
    stored.length = items.length
  | [], stored, h => by
    cases h
    rfl
  | v :: rest, stored, h => by
    rw [storeItems] at h
    obtain ⟨w, -, h⟩ := bind_eq_ok.mp h
    obtain ⟨others, hothers, h⟩ := bind_eq_ok.mp h
    cases h
    rw [List.length_cons, List.length_cons, storeItems_length hothers]

/-- The elements of a set are only put in another order. -/
theorem arranged_perm {items stored : List Value} (h : storeItems items = .ok stored) :
    (arranged ((spellings items).zip stored)).Perm stored := by
  have hstored : ((spellings items).zip stored).map (·.2) = stored := by
    refine List.map_snd_zip ?_
    rw [spellings_length, storeItems_length h]
  have hperm := (Sorting.sort_perm (fun x y => decide (x.1 ≤ y.1))
    ((spellings items).zip stored)).map (·.2)
  rw [hstored] at hperm
  exact hperm

mutual

/-- **The store form of a value with text keys has text keys.** -/
theorem store_hasTextKeys : ∀ {v w : Value}, v.store = .ok w → v.hasTextKeys = true →
    w.hasTextKeys = true
  | .list items, w, h, ht => by
    rw [store] at h
    obtain ⟨stored, hs, hw⟩ := bind_eq_ok.mp h
    obtain rfl := (Except.ok.inj hw).symm
    exact storeItems_haveTextKeys hs ht
  | .tuple items, w, h, ht => by
    rw [store] at h
    obtain ⟨stored, hs, hw⟩ := bind_eq_ok.mp h
    obtain rfl := (Except.ok.inj hw).symm
    exact storeItems_haveTextKeys hs ht
  | .set _ items, w, h, ht => by
    obtain ⟨-, stored, hs, rfl⟩ := store_set_eq_ok.mp h
    have hkeys := storeItems_haveTextKeys hs ht
    refine haveTextKeys_iff.mpr fun v hv => ?_
    exact haveTextKeys_iff.mp hkeys v ((arranged_perm hs).mem_iff.mp hv)
  | .dict entries, w, h, ht => by
    rw [store] at h
    obtain ⟨stored, hs, hw⟩ := bind_eq_ok.mp h
    obtain rfl := (Except.ok.inj hw).symm
    exact storeEntries_haveTextKeys hs ht
  | .decimal d _, w, h, _ => by
    rw [store] at h
    split at h <;> cases h
    rfl
  | .null, w, h, _ | .bool _, w, h, _ | .int _, w, h, _ | .float .., w, h, _ | .str _, w, h, _
  | .timestamp _, w, h, _ | .date _, w, h, _ | .uuid _, w, h, _ | .bytes _, w, h, _
  | .operator _, w, h, _ | .connector _, w, h, _ | .direction _, w, h, _
  | .condition .., w, h, _ | .sortKey .., w, h, _ => by
    simp only [store] at h
    cases h
    rfl

theorem storeItems_haveTextKeys : ∀ {items stored : List Value}, storeItems items = .ok stored →
    haveTextKeys items = true → haveTextKeys stored = true
  | [], stored, h, _ => by
    cases h
    rfl
  | v :: rest, stored, h, ht => by
    rw [storeItems] at h
    obtain ⟨w, hw, h⟩ := bind_eq_ok.mp h
    obtain ⟨others, hothers, h⟩ := bind_eq_ok.mp h
    obtain rfl := (Except.ok.inj h).symm
    rw [haveTextKeys, Bool.and_eq_true] at ht
    rw [haveTextKeys, store_hasTextKeys hw ht.1, storeItems_haveTextKeys hothers ht.2]
    rfl

theorem storeEntries_haveTextKeys : ∀ {entries stored : List (Value × Value)},
    storeEntries entries = .ok stored → entriesHaveTextKeys entries = true →
      entriesHaveTextKeys stored = true
  | [], stored, h, _ => by
    cases h
    rfl
  | (k, v) :: rest, stored, h, ht => by
    rw [storeEntries] at h
    obtain ⟨w, hw, h⟩ := bind_eq_ok.mp h
    obtain ⟨others, hothers, h⟩ := bind_eq_ok.mp h
    obtain rfl := (Except.ok.inj h).symm
    simp only [entriesHaveTextKeys, Bool.and_eq_true] at ht
    obtain ⟨⟨hk, hv⟩, hrest⟩ := ht
    simp [entriesHaveTextKeys, hk, store_hasTextKeys hw hv,
      storeEntries_haveTextKeys hothers hrest]

end

/-! ## The texts written of values in store form -/

/-- An entry with the text of its value, and the member that it is. -/
def IsMember (e : Value × Except Fault (List Char)) (m : String × Datum) : Prop :=
  e.1.text? = some m.1 ∧ e.2 = .ok m.2.text

theorem keyText_of_text? {k : Value} {s : String} (h : k.text? = some s) :
    Json.keyText k = .ok s.toList := by
  cases k <;> simp_all [Json.keyText, text?]

theorem writeEntries_eq_map : ∀ entries : List (Value × Value),
    Json.writeEntries entries = entries.map fun e => (e.1, Json.write e.2)
  | [] => rfl
  | (k, v) :: rest => by rw [Json.writeEntries, List.map_cons, writeEntries_eq_map rest]

theorem keys_text?_of_hasTextKeys : ∀ {entries : List (Value × Value)},
    entriesHaveTextKeys entries = true → ∀ k ∈ entries.map (·.1), k.text?.isSome = true
  | [], _ => by simp
  | (k, v) :: rest, h => by
    simp only [entriesHaveTextKeys, Bool.and_eq_true] at h
    obtain ⟨⟨hk, -⟩, hrest⟩ := h
    intro l hl
    rcases List.mem_cons.mp hl with rfl | hl
    · exact hk
    · exact keys_text?_of_hasTextKeys hrest l hl

/-- Entries with text keys come in the order of their keys. -/
theorem ordered_of_texts {entries : List (Value × Except Fault (List Char))}
    (h : ∀ e ∈ entries, e.1.text?.isSome = true) :
    Json.ordered entries = .ok (Sorting.sort
      (fun x y => decide (x.1.text?.getD "" ≤ y.1.text?.getD "")) entries) := by
  unfold Json.ordered
  rw [if_pos (List.all_eq_true.mpr h)]

theorem ordered_writeEntries {entries : List (Value × Value)}
    (h : entriesHaveTextKeys entries = true) :
    Json.ordered (Json.writeEntries entries) = .ok (Sorting.sort
      (fun x y => decide (x.1.text?.getD "" ≤ y.1.text?.getD "")) (Json.writeEntries entries)) := by
  refine ordered_of_texts fun e he => ?_
  rw [writeEntries_eq_map] at he
  obtain ⟨e', he', rfl⟩ := List.mem_map.mp he
  exact keys_text?_of_hasTextKeys h e'.1 (List.mem_map_of_mem he')

theorem texts_of_isMember : ∀ {entries : List (Value × Except Fault (List Char))}
    {members : List (String × Datum)}, List.Forall₂ IsMember entries members →
      ∀ e ∈ entries, e.1.text?.isSome = true
  | _, _, .nil => by simp
  | _, _, .cons he hrest => by
    intro e hmem
    rcases List.mem_cons.mp hmem with rfl | hmem
    · exact Option.isSome_iff_exists.mpr ⟨_, he.1⟩
    · exact texts_of_isMember hrest e hmem

theorem byName_fit {members : List (String × Datum)} :
    Datum.membersFit (byName members) = Datum.membersFit members := by
  rw [Bool.eq_iff_iff, Datum.membersFit_iff, Datum.membersFit_iff]
  exact forall_congr' fun m => imp_congr_left (Sorting.sort_perm _ members).mem_iff

/-- Sorted entries are the members in the order of their names. -/
theorem sort_isMember {entries : List (Value × Except Fault (List Char))}
    {members : List (String × Datum)} (h : List.Forall₂ IsMember entries members) :
    List.Forall₂ IsMember (Sorting.sort
      (fun x y => decide (x.1.text?.getD "" ≤ y.1.text?.getD "")) entries) (byName members) := by
  refine Sorting.sort_forall₂ (fun x y x' y' hx hy => ?_) h
  rw [hx.1, hy.1]
  rfl

/-- What is written of entries that are members. -/
theorem mapM_entry_of_isMember : ∀ {entries : List (Value × Except Fault (List Char))}
    {members : List (String × Datum)}, List.Forall₂ IsMember entries members →
      entries.mapM (fun e => Json.entry e.1 e.2) = .ok (Datum.memberTexts members)
  | _, _, .nil => rfl
  | _, _, .cons (a := e) (b := m) he hrest => by
    have hentry : Json.entry e.1 e.2 = .ok (Json.string m.1.toList ++ ':' :: m.2.text) := by
      unfold Json.entry
      rw [keyText_of_text? he.1, he.2]
      rfl
    rw [List.mapM_cons, hentry, mapM_entry_of_isMember hrest]
    rfl

/-- Entries that are written have keys and values that are written. -/
theorem ok_of_mapM_entry {entries : List (Value × Except Fault (List Char))}
    {texts : List (List Char)} (h : entries.mapM (fun e => Json.entry e.1 e.2) = .ok texts) :
    ∀ e ∈ entries, (∃ k, Json.keyText e.1 = .ok k) ∧ ∃ t, e.2 = .ok t := by
  intro e he
  obtain ⟨i, hi, rfl⟩ := List.mem_iff_getElem.mp he
  have hall := List.forall₂_iff_get.mp (mapM_eq_ok.mp h)
  have hentry := hall.2 i hi (by rw [← hall.1]; exact hi)
  simp only [List.get_eq_getElem, Json.entry] at hentry
  obtain ⟨k, hk, hentry⟩ := bind_eq_ok.mp hentry
  obtain ⟨t, ht, -⟩ := bind_eq_ok.mp hentry
  exact ⟨⟨k, hk⟩, t, ht⟩

mutual

/-- **What is written of a value in store form is the text of its datum.** -/
theorem write_eq_text : ∀ {v : Value} {t : List Char}, v.hasTextKeys = true →
    Json.write v = .ok t → ∃ d, v.json? = some d ∧ d.fits = true ∧ t = d.text
  | .null, t, _, h => ⟨.null, rfl, rfl, (Except.ok.inj h).symm⟩
  | .bool b, t, _, h => ⟨.bool b, rfl, rfl, (Except.ok.inj h).symm⟩
  | .int n, t, _, h => by
    rw [Json.write, Json.int] at h
    split at h
    · rename_i hfits
      cases h
      exact ⟨.int n, rfl, hfits, rfl⟩
    · cases h
  | .float x _, t, _, h => ⟨.float x, rfl, rfl, (Except.ok.inj h).symm⟩
  | .str s, t, _, h => ⟨.string s, rfl, rfl, (Except.ok.inj h).symm⟩
  | .operator op, t, _, h => ⟨.string op.text, rfl, rfl, (Except.ok.inj h).symm⟩
  | .connector c, t, _, h => ⟨.string c.text, rfl, rfl, (Except.ok.inj h).symm⟩
  | .direction d, t, _, h => ⟨.string d.text, rfl, rfl, (Except.ok.inj h).symm⟩
  | .list items, t, ht, h => by
    rw [Json.write] at h
    obtain ⟨texts, hw, h⟩ := bind_eq_ok.mp h
    obtain ⟨ds, hds, hfit, rfl⟩ := writeItems_eq_itemTexts ht hw
    exact ⟨.array ds, by rw [json?, hds]; rfl, hfit, (Except.ok.inj h).symm⟩
  | .tuple items, t, ht, h => by
    rw [Json.write] at h
    obtain ⟨texts, hw, h⟩ := bind_eq_ok.mp h
    obtain ⟨ds, hds, hfit, rfl⟩ := writeItems_eq_itemTexts ht hw
    exact ⟨.array ds, by rw [json?, hds]; rfl, hfit, (Except.ok.inj h).symm⟩
  | .dict entries, t, ht, h => by
    rw [Json.write, ordered_writeEntries ht] at h
    obtain ⟨sorted, hsorted, h⟩ := bind_eq_ok.mp h
    cases hsorted
    obtain ⟨texts, htexts, h⟩ := bind_eq_ok.mp h
    -- what is written in the order of the keys is written in the order of the entries too
    have hvalues : ∀ e ∈ Json.writeEntries entries, ∃ t, e.2 = .ok t := fun e he =>
      (ok_of_mapM_entry htexts e ((Sorting.sort_perm _ _).mem_iff.mpr he)).2
    obtain ⟨members, hmembers, hfit, hentries⟩ := writeEntries_isMember ht hvalues
    have hwritten := mapM_entry_of_isMember (sort_isMember hentries)
    rw [hwritten] at htexts
    cases htexts
    exact ⟨.object (byName members), by rw [json?, hmembers]; rfl, byName_fit.trans hfit,
      (Except.ok.inj h).symm⟩

theorem writeItems_eq_itemTexts : ∀ {items : List Value} {texts : List (List Char)},
    haveTextKeys items = true → Json.writeItems items = .ok texts →
      ∃ ds, jsonItems? items = some ds ∧ Datum.itemsFit ds = true ∧ texts = Datum.itemTexts ds
  | [], texts, _, h => ⟨[], rfl, rfl, (Except.ok.inj h).symm⟩
  | v :: rest, texts, ht, h => by
    rw [haveTextKeys, Bool.and_eq_true] at ht
    rw [Json.writeItems] at h
    obtain ⟨t, hw, h⟩ := bind_eq_ok.mp h
    obtain ⟨others, hothers, h⟩ := bind_eq_ok.mp h
    obtain ⟨d, hd, hfit, rfl⟩ := write_eq_text ht.1 hw
    obtain ⟨ds, hds, hfits, rfl⟩ := writeItems_eq_itemTexts ht.2 hothers
    exact ⟨d :: ds, by rw [jsonItems?, hd, hds], by rw [Datum.itemsFit, hfit, hfits]; rfl,
      (Except.ok.inj h).symm⟩

theorem writeEntries_isMember : ∀ {entries : List (Value × Value)},
    entriesHaveTextKeys entries = true → (∀ e ∈ Json.writeEntries entries, ∃ t, e.2 = .ok t) →
      ∃ members, jsonMembers? entries = some members ∧ Datum.membersFit members = true ∧
        List.Forall₂ IsMember (Json.writeEntries entries) members
  | [], _, _ => ⟨[], rfl, rfl, .nil⟩
  | (k, v) :: rest, ht, hv => by
    simp only [entriesHaveTextKeys, Bool.and_eq_true] at ht
    obtain ⟨⟨hk, hkeys⟩, hrest⟩ := ht
    obtain ⟨name, hname⟩ := Option.isSome_iff_exists.mp hk
    obtain ⟨t, hw⟩ := hv (k, Json.write v) (by simp [Json.writeEntries])
    obtain ⟨d, hd, hfit, rfl⟩ := write_eq_text hkeys hw
    obtain ⟨members, hmembers, hfits, hentries⟩ := writeEntries_isMember hrest fun e he =>
      hv e (by simp [Json.writeEntries, he])
    exact ⟨(name, d) :: members, by rw [jsonMembers?, hname, hd, hmembers],
      by rw [Datum.membersFit, hfit, hfits]; rfl, .cons ⟨hname, hw⟩ hentries⟩

end

mutual

/-- A datum that fits is written as its text. -/
theorem write_of_fits : ∀ {v : Value} {d : Datum}, v.json? = some d → d.fits = true →
    Json.write v = .ok d.text
  | .null, d, h, _ | .bool _, d, h, _ | .float .., d, h, _ | .str _, d, h, _ | .operator _, d, h, _
  | .connector _, d, h, _ | .direction _, d, h, _ => by
    cases h
    rfl
  | .int n, d, h, hf => by
    cases h
    have hwritable : Text.isWritable n = true := hf
    rw [Json.write, Json.int, if_pos hwritable]
    rfl
  | .list items, d, h, hf | .tuple items, d, h, hf => by
    rw [json?] at h
    obtain ⟨ds, hds, rfl⟩ := Option.map_eq_some_iff.mp h
    rw [Json.write]
    exact bind_eq_ok.mpr ⟨_, writeItems_of_fits hds hf, rfl⟩
  | .dict entries, d, h, hf => by
    rw [json?] at h
    obtain ⟨members, hmembers, rfl⟩ := Option.map_eq_some_iff.mp h
    have hentries := isMember_of_fits hmembers (byName_fit.symm.trans hf)
    rw [Json.write, ordered_of_texts (texts_of_isMember hentries)]
    exact bind_eq_ok.mpr ⟨_, rfl, bind_eq_ok.mpr
      ⟨_, mapM_entry_of_isMember (sort_isMember hentries), rfl⟩⟩

theorem writeItems_of_fits : ∀ {items : List Value} {ds : List Datum}, jsonItems? items = some ds →
    Datum.itemsFit ds = true → Json.writeItems items = .ok (Datum.itemTexts ds)
  | [], ds, h, _ => by
    cases h
    rfl
  | v :: rest, ds, h, hf => by
    obtain ⟨d, others, hd, hothers, rfl⟩ := jsonItems?_cons.mp h
    rw [Datum.itemsFit, Bool.and_eq_true] at hf
    rw [Json.writeItems, write_of_fits hd hf.1, writeItems_of_fits hothers hf.2]
    rfl

theorem isMember_of_fits : ∀ {entries : List (Value × Value)} {members : List (String × Datum)},
    jsonMembers? entries = some members → Datum.membersFit members = true →
      List.Forall₂ IsMember (Json.writeEntries entries) members
  | [], members, h, _ => by
    cases h
    exact .nil
  | (k, v) :: rest, members, h, hf => by
    obtain ⟨name, d, others, hname, hd, hothers, rfl⟩ := jsonMembers?_cons.mp h
    rw [Datum.membersFit, Bool.and_eq_true] at hf
    exact .cons ⟨hname, write_of_fits hd hf.1⟩ (isMember_of_fits hothers hf.2)

end

theorem mem_of_writeItems : ∀ {items : List Value} {texts : List (List Char)},
    Json.writeItems items = .ok texts → ∀ v ∈ items, ∃ t, Json.write v = .ok t
  | [], _, _ => by simp
  | v :: rest, texts, h => by
    rw [Json.writeItems] at h
    obtain ⟨t, hw, h⟩ := bind_eq_ok.mp h
    obtain ⟨others, hothers, -⟩ := bind_eq_ok.mp h
    intro w hmem
    rcases List.mem_cons.mp hmem with rfl | hmem
    · exact ⟨t, hw⟩
    · exact mem_of_writeItems hothers w hmem

theorem writeItems_of_mem : ∀ {items : List Value}, (∀ v ∈ items, ∃ t, Json.write v = .ok t) →
    ∃ texts, Json.writeItems items = .ok texts
  | [], _ => ⟨[], rfl⟩
  | v :: rest, h => by
    obtain ⟨t, hw⟩ := h v (by simp)
    obtain ⟨others, hothers⟩ := writeItems_of_mem fun w hmem => h w (List.mem_cons_of_mem v hmem)
    exact ⟨t :: others, by rw [Json.writeItems, hw, hothers]; rfl⟩

/-! ## Canonical keys -/

theorem canonicalKey_eq_ok {v : Value} {key : String} : v.canonicalKey = .ok key ↔
    ∃ w t, v.store = .ok w ∧ Json.write w = .ok t ∧ key = String.ofList t := by
  unfold canonicalKey
  constructor
  · intro h
    obtain ⟨w, hs, h⟩ := bind_eq_ok.mp h
    obtain ⟨t, hw, h⟩ := bind_eq_ok.mp h
    exact ⟨w, t, hs, hw, (Except.ok.inj h).symm⟩
  · rintro ⟨w, t, hs, hw, rfl⟩
    rw [hs]
    exact bind_eq_ok.mpr ⟨w, rfl, bind_eq_ok.mpr ⟨t, hw, rfl⟩⟩

/-- **The canonical key of a value is the text of the datum that it is stored as.** -/
theorem canonicalKey_eq_text {v : Value} {key : String} (ht : v.hasTextKeys = true)
    (h : v.canonicalKey = .ok key) : ∃ d, v.datum? = some d ∧ key = String.ofList d.text := by
  obtain ⟨w, t, hs, hw, rfl⟩ := canonicalKey_eq_ok.mp h
  obtain ⟨d, hd, -, rfl⟩ := write_eq_text (store_hasTextKeys hs ht) hw
  exact ⟨d, by rw [datum?, hs]; exact hd, rfl⟩

/-- **Values with the same canonical key are stored as the same datum.** -/
theorem datum?_eq_of_canonicalKey {v w : Value} {key : String} (hv : v.hasTextKeys = true)
    (hw : w.hasTextKeys = true) (hk : v.canonicalKey = .ok key) (hl : w.canonicalKey = .ok key) :
    v.datum? = w.datum? := by
  obtain ⟨d, hd, htext⟩ := canonicalKey_eq_text hv hk
  obtain ⟨e, he, htext'⟩ := canonicalKey_eq_text hw hl
  have hchars : d.text = e.text := String.ofList_injective (htext.symm.trans htext')
  rw [hd, he, Datum.text_injective hchars]

/-- What is stored as the same datum as a value with a canonical key has this key too. -/
theorem canonicalKey_of_datum? {v w : Value} {key : String} (hv : v.hasTextKeys = true)
    (hk : v.canonicalKey = .ok key) (hd : w.datum? = v.datum?) : w.canonicalKey = .ok key := by
  obtain ⟨stored, t, hs, hw, rfl⟩ := canonicalKey_eq_ok.mp hk
  obtain ⟨d, hjson, hfits, rfl⟩ := write_eq_text (store_hasTextKeys hs hv) hw
  have hdatum : v.datum? = some d := by
    rw [datum?, hs]
    exact hjson
  rw [hdatum, datum?] at hd
  split at hd
  · rename_i stored' hs'
    exact canonicalKey_eq_ok.mpr ⟨stored', d.text, hs', write_of_fits hd hfits, rfl⟩
  · cases hd

/-- A list has a canonical key if its items are stored and written. -/
theorem canonicalKey_list {items stored : List Value} (hs : storeItems items = .ok stored)
    (hw : ∀ v ∈ stored, ∃ t, Json.write v = .ok t) :
    ∃ key, (Value.list items).canonicalKey = .ok key := by
  obtain ⟨texts, htexts⟩ := writeItems_of_mem hw
  refine ⟨_, canonicalKey_eq_ok.mpr ⟨.list stored, '[' :: Json.commas texts ++ [']'], ?_, ?_, rfl⟩⟩
  · exact bind_eq_ok.mpr ⟨stored, hs, rfl⟩
  · exact bind_eq_ok.mpr ⟨texts, htexts, rfl⟩

/-- The elements of a set with a canonical key have one as a list too. -/
theorem canonicalKey_list_of_set {frozen : Bool} {items : List Value} {key : String}
    (h : (Value.set frozen items).canonicalKey = .ok key) :
    ∃ key', (Value.list items).canonicalKey = .ok key' := by
  obtain ⟨w, t, hs, hw, -⟩ := canonicalKey_eq_ok.mp h
  obtain ⟨-, stored, hstored, rfl⟩ := store_set_eq_ok.mp hs
  rw [Json.write] at hw
  obtain ⟨texts, htexts, -⟩ := bind_eq_ok.mp hw
  exact canonicalKey_list hstored fun v hv =>
    mem_of_writeItems htexts v ((arranged_perm hstored).mem_iff.mpr hv)

/-- A value with a canonical key has one as the only item of a list too. -/
theorem canonicalKey_singleton {v : Value} {key : String} (h : v.canonicalKey = .ok key) :
    ∃ key', (Value.list [v]).canonicalKey = .ok key' := by
  obtain ⟨w, t, hs, hw, -⟩ := canonicalKey_eq_ok.mp h
  have hstored : storeItems [v] = .ok [w] := by
    rw [storeItems, hs]
    rfl
  refine canonicalKey_list hstored fun u hu => ⟨t, ?_⟩
  rw [List.mem_singleton.mp hu]
  exact hw

/-- The data of stored items are the data that the items are stored as. -/
theorem jsonItems?_storeItems : ∀ items : List Value, (match storeItems items with
    | .ok stored => jsonItems? stored
    | .error _ => none) = items.mapM datum?
  | [] => rfl
  | v :: rest => by
    rw [List.mapM_cons, ← jsonItems?_storeItems rest, storeItems, datum?]
    cases v.store with
    | error e => rfl
    | ok w =>
      cases storeItems rest with
      | error e =>
        simp only [bind, Except.bind]
        cases w.json? <;> rfl
      | ok stored =>
        simp only [bind, Except.bind, pure, Except.pure, jsonItems?]
        cases w.json? with
        | none => rfl
        | some d => cases jsonItems? stored <;> rfl

/-- A list is stored as the array of the data of its items. -/
theorem datum?_list (items : List Value) :
    (Value.list items).datum? = (items.mapM datum?).map .array := by
  rw [← jsonItems?_storeItems, datum?, store]
  cases storeItems items with
  | error e => rfl
  | ok stored => rfl

end Value

end Docstore
