import Docstore.Proofs.Value.Elementary
import Docstore.Proofs.Value.NormalForm

/-!
# Sets in different orders

A set is stored as the list of its stored elements in the order of the texts that show them.  Where
the text of an element determines the data that it is stored as, that list does not depend, as data,
on the order in which the set is enumerated.  It does so for elementary values; and what may be an
element of a set, contains no set and can be written as JSON is elementary.

* `storedData_set_of_perm` — a set of elementary values is stored as the same data for all
  enumerations.
* `isElementary_of_written` — elements without sets are elementary if they can be written.
* `canonicalKey_set_of_perm` — so a set that has a canonical key has it for all enumerations.
-/

namespace Docstore.Value

/-! ## Elements with the texts that show them -/

/-- A value, and the entry that it is put in order by. -/
def IsEntry (v : Value) (e : String × Value) : Prop :=
  e.1 = v.spelling ∧ v.storedData = .ok e.2

theorem entries_of_storedItems : ∀ {items stored : List Value}, storedItems items = .ok stored →
    List.Forall₂ IsEntry items ((spellings items).zip stored)
  | [], stored, h => by
    cases h
    exact .nil
  | v :: rest, stored, h => by
    rw [storedItems_cons] at h
    obtain ⟨w, hw, h⟩ := bind_eq_ok.mp h
    obtain ⟨others, hothers, h⟩ := bind_eq_ok.mp h
    cases h
    exact .cons ⟨rfl, hw⟩ (entries_of_storedItems hothers)

theorem storedItems_of_entries {items : List Value} {entries : List (String × Value)}
    (h : List.Forall₂ IsEntry items entries) : storedItems items = .ok (entries.map (·.2)) ∧
      (spellings items).zip (entries.map (·.2)) = entries := by
  induction h with
  | nil => exact ⟨rfl, rfl⟩
  | @cons v e rest entries he _ ih =>
    constructor
    · rw [storedItems_cons, he.2, ih.1]
      rfl
    · rw [spellings, List.map_cons, List.zip_cons_cons, ih.2, ← he.1]

/-- Entries of elementary values with the same text are the same. -/
theorem entry_eq {items : List Value} (helementary : areElementary items = true)
    {entries : List (String × Value)} (hentries : List.Forall₂ IsEntry items entries)
    {a b : String × Value} (ha : a ∈ entries) (hb : b ∈ entries) (h : a.1 = b.1) : a = b := by
  obtain ⟨v, hv, hva⟩ := exists_of_mem_right hentries ha
  obtain ⟨w, hw, hwb⟩ := exists_of_mem_right hentries hb
  have hstored := storedData_eq_of_spelling_eq (areElementary_iff.mp helementary v hv)
    (areElementary_iff.mp helementary w hw) (hva.1.symm.trans (h.trans hwb.1))
  rw [hva.2, hwb.2] at hstored
  exact Prod.ext h (Except.ok.inj hstored)

/-- Entries that their texts tell apart are put in one order, however they are given. -/
theorem arranged_of_perm {entries entries' : List (String × Value)} (hperm : entries.Perm entries')
    (hapart : ∀ a ∈ entries, ∀ b ∈ entries, a.1 = b.1 → a = b) :
    arranged entries = arranged entries' := by
  refine congrArg (List.map (·.2)) ((Sorting.sort_eq_iff_perm ?_ ?_ ?_).mpr hperm)
  · intro a b
    simpa using String.le_total a.1 b.1
  · intro a b c hab hbc
    rw [decide_eq_true_eq] at hab hbc ⊢
    exact String.le_trans hab hbc
  · intro a ha b hb hab hba
    rw [decide_eq_true_eq] at hab hba
    exact hapart a ha b hb (String.le_antisymm hab hba)

/-- **A set of elementary values is stored as the same data**, in whatever order it is
enumerated. -/
theorem storedData_set_of_perm {frozen frozen' : Bool} {items items' : List Value} {d : Value}
    (helementary : areElementary items = true) (hperm : items.Perm items')
    (h : (Value.set frozen items).storedData = .ok d) :
    (Value.set frozen' items').storedData = .ok d := by
  obtain ⟨hwritable, stored, hstored, rfl⟩ := storedData_set_eq_ok.mp h
  have hentries := entries_of_storedItems hstored
  obtain ⟨entries', hentries', hentriesPerm⟩ := List.perm_comp_forall₂ hperm.symm hentries
  obtain ⟨hstored', hzip⟩ := storedItems_of_entries hentries'
  have harranged := arranged_of_perm hentriesPerm.symm fun a ha b hb =>
    entry_eq helementary hentries ha hb
  rw [areWritable_of_perm hperm] at hwritable
  exact storedData_set_eq_ok.mpr ⟨hwritable, _, hstored', by rw [hzip, harranged]⟩

/-! ## Elements of sets -/

mutual

/-- Whether no set is a value or a part of it. -/
def isSetFree : Value → Bool
  | .set .. => false
  | .list items | .tuple items => areSetFree items
  | .dict entries => entriesAreSetFree entries
  | .condition _ operand _ _ => operand.isSetFree
  | _ => true

def areSetFree : List Value → Bool
  | [] => true
  | v :: rest => v.isSetFree && areSetFree rest

def entriesAreSetFree : List (Value × Value) → Bool
  | [] => true
  | (k, v) :: rest => k.isSetFree && v.isSetFree && entriesAreSetFree rest

end

theorem areKeys_iff {items : List Value} :
    areKeys items = true ↔ ∀ v ∈ items, v.isKey = true := by
  induction items with
  | nil => simp [areKeys]
  | cons v rest ih => simp [areKeys, ih]

theorem areSetFree_iff {items : List Value} :
    areSetFree items = true ↔ ∀ v ∈ items, v.isSetFree = true := by
  induction items with
  | nil => simp [areSetFree]
  | cons v rest ih => simp [areSetFree, ih]

mutual

/-- **What may be an element of a set, contains no set and can be written** is elementary. -/
theorem isElementary_of_written : ∀ {v w : Value} {text : List Char}, v.isKey = true →
    v.isSetFree = true → v.store = .ok w → Json.write w = .ok text → v.isElementary = true
  | .tuple items, w, text, hkey, hfree, hstore, hwrite => by
    rw [store] at hstore
    obtain ⟨stored, hstored, hstore⟩ := bind_eq_ok.mp hstore
    cases hstore
    rw [Json.write] at hwrite
    obtain ⟨texts, htexts, -⟩ := bind_eq_ok.mp hwrite
    exact areElementary_of_written hkey hfree hstored (mem_of_writeItems htexts)
  | .null, _, _, _, _, _, _ | .bool _, _, _, _, _, _, _ | .int _, _, _, _, _, _, _
  | .float .., _, _, _, _, _, _ | .decimal .., _, _, _, _, _, _ | .str _, _, _, _, _, _, _
  | .timestamp _, _, _, _, _, _, _ | .date _, _, _, _, _, _, _ | .uuid _, _, _, _, _, _, _
  | .operator _, _, _, _, _, _, _ | .connector _, _, _, _, _, _, _
  | .direction _, _, _, _, _, _, _ => rfl
  | .list _, _, _, hkey, _, _, _ | .dict _, _, _, hkey, _, _, _ => by cases hkey
  | .set .., _, _, _, hfree, _, _ => by cases hfree
  | .bytes _, _, _, _, _, hstore, hwrite | .condition .., _, _, _, _, hstore, hwrite
  | .sortKey .., _, _, _, _, hstore, hwrite => by
    simp only [store] at hstore
    cases hstore
    cases hwrite

theorem areElementary_of_written : ∀ {items stored : List Value}, areKeys items = true →
    areSetFree items = true → storeItems items = .ok stored →
    (∀ w ∈ stored, ∃ text, Json.write w = .ok text) → areElementary items = true
  | [], _, _, _, _, _ => rfl
  | v :: rest, stored, hkeys, hfree, hstored, hwrite => by
    rw [areKeys, Bool.and_eq_true] at hkeys
    rw [areSetFree, Bool.and_eq_true] at hfree
    rw [storeItems] at hstored
    obtain ⟨w, hw, hstored⟩ := bind_eq_ok.mp hstored
    obtain ⟨others, hothers, hstored⟩ := bind_eq_ok.mp hstored
    cases hstored
    obtain ⟨text, htext⟩ := hwrite w List.mem_cons_self
    rw [areElementary, isElementary_of_written hkeys.1 hfree.1 hw htext,
      areElementary_of_written hkeys.2 hfree.2 hothers fun x hx =>
        hwrite x (List.mem_cons_of_mem w hx)]
    rfl

end

/-- The elements of a set that has a canonical key are elementary, if they contain no sets. -/
theorem areElementary_of_canonicalKey {frozen : Bool} {items : List Value} {key : String}
    (hkeys : areKeys items = true) (hfree : areSetFree items = true)
    (h : (Value.set frozen items).canonicalKey = .ok key) : areElementary items = true := by
  obtain ⟨w, text, hstore, hwrite, -⟩ := canonicalKey_eq_ok.mp h
  obtain ⟨-, stored, hstored, rfl⟩ := store_set_eq_ok.mp hstore
  rw [Json.write] at hwrite
  obtain ⟨texts, htexts, -⟩ := bind_eq_ok.mp hwrite
  refine areElementary_of_written hkeys hfree hstored fun x hx => ?_
  exact mem_of_writeItems htexts x ((arranged_perm hstored).mem_iff.mpr hx)

/-- **A set that has a canonical key** has it in whatever order it is enumerated. -/
theorem canonicalKey_set_of_perm {frozen frozen' : Bool} {items items' : List Value} {key : String}
    (hkeys : areKeys items = true) (hfree : areSetFree items = true) (hperm : items.Perm items')
    (h : (Value.set frozen items).canonicalKey = .ok key) :
    (Value.set frozen' items').canonicalKey = .ok key := by
  have helementary := areElementary_of_canonicalKey hkeys hfree h
  obtain ⟨d, hd, hwrite⟩ := canonicalKey_eq_ok_iff.mp h
  exact canonicalKey_eq_ok_iff.mpr ⟨d, storedData_set_of_perm helementary hperm hd, hwrite⟩

end Docstore.Value
