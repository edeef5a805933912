import Docstore.Bulk.Mutation

/-!
# Dictionaries with text keys

The keys of documents and mutations are texts, each of which occurs once.  Such keys are looked up
by their content, whatever entries the dictionary has besides.

* `isEqual_eq_text` — a key equals a text exactly if it is a text with the same content.
* `lookup_insert` — setting a key changes what is found under this key, and nothing else.
* `IsRecord.insert` — setting a text keeps the keys texts that occur once.
-/

namespace Docstore.Value

variable {key name v : Value} {s t : String}

/-! ## Equality with texts -/

theorem compare_text (hk : key.text? = some s) (k : Value) :
    k.compare key = Verdict.ofBool (k.text? == some s) := by
  cases key <;> cases hk <;> cases k <;>
    simp [compare, compareAtoms, number?, text?, Verdict.ofBool]

theorem comparePart_text (hk : key.text? = some s) (k : Value) :
    k.comparePart key = Verdict.ofBool (k.text? == some s) := by
  rw [← compare_text hk]
  cases key <;> cases hk <;> cases k <;> rfl

/-- **A key equals a text** exactly if it is a text with the same content. -/
theorem isEqual_eq_text (k : Value) (hk : key.text? = some s) :
    k.isEqual key = (k.text? == some s) := by
  rw [isEqual, comparePart_text hk]
  cases k.text? == some s <;> rfl

theorem text_compare (hk : key.text? = some s) (k : Value) :
    key.compare k = match k.text? with
      | some t => Verdict.ofBool (s == t)
      | none => .different := by
  cases key <;> cases hk <;> cases k <;> simp [compare, compareAtoms, number?, text?]

theorem text_comparePart (hk : key.text? = some s) (k : Value) :
    key.comparePart k = match k.text? with
      | some t => Verdict.ofBool (s == t)
      | none => .different := by
  rw [← text_compare hk]
  cases key <;> cases hk <;> cases k <;> rfl

/-- Keys with the same content equal the same. -/
theorem isEqual_congr (hk : key.text? = some s) (hn : name.text? = some s) (k : Value) :
    key.isEqual k = name.isEqual k := by
  rw [isEqual, isEqual, text_comparePart hk, text_comparePart hn]

/-! ## Looking up and setting -/

theorem lookup_cons_eq_ite (key : Value) (e : Value × Value) (rest : List (Value × Value)) :
    lookup key (e :: rest) = if e.1.isEqual key = true then some e.2 else lookup key rest := by
  obtain ⟨k, v⟩ := e
  unfold lookup
  rw [List.find?_cons]
  dsimp only
  cases k.isEqual key <;> rfl

theorem lookup_append (key : Value) (xs ys : List (Value × Value)) :
    lookup key (xs ++ ys) = (lookup key xs).or (lookup key ys) := by
  simp [lookup, List.find?_append, Option.map_or]

theorem insert_ne_nil (key v : Value) (entries : List (Value × Value)) :
    insert key v entries ≠ [] := by
  cases entries with
  | nil => exact List.cons_ne_nil _ _
  | cons e rest =>
    rw [insert]
    split <;> exact List.cons_ne_nil _ _

theorem lookup_eq_none_iff_forall {entries : List (Value × Value)} :
    lookup key entries = none ↔ ∀ e ∈ entries, e.1.isEqual key = false := by
  simp [lookup]

theorem lookup_cons (k v : Value) (rest : List (Value × Value)) (hk : key.text? = some s) :
    lookup key ((k, v) :: rest) = if k.text? = some s then some v else lookup key rest := by
  rw [lookup_cons_eq_ite, isEqual_eq_text k hk]
  simp only [beq_iff_eq]

/-- Keys with the same content find the same. -/
theorem lookup_congr (hk : key.text? = some s) (hn : name.text? = some s)
    (entries : List (Value × Value)) : lookup key entries = lookup name entries := by
  induction entries with
  | nil => rfl
  | cons e rest ih => rw [lookup_cons e.1 e.2 rest hk, lookup_cons e.1 e.2 rest hn, ih]

/-- **Setting a key** changes what is found under this key, and nothing else. -/
theorem lookup_insert (hk : key.text? = some s) (hn : name.text? = some t)
    (entries : List (Value × Value)) :
    lookup key (insert name v entries) = if s = t then some v else lookup key entries := by
  induction entries with
  | nil =>
    rw [insert, lookup_cons name v [] hk, hn]
    by_cases h : s = t
    · rw [if_pos h, if_pos (congrArg some h.symm)]
    · rw [if_neg h, if_neg fun heq => h (Option.some.inj heq).symm]
  | cons e rest ih =>
    obtain ⟨k, w⟩ := e
    unfold insert
    rw [isEqual_eq_text k hn]
    by_cases hkt : k.text? = some t
    · rw [hkt, beq_self_eq_true, if_pos rfl, lookup_cons k v rest hk, lookup_cons k w rest hk, hkt]
      by_cases h : s = t
      · rw [if_pos h, if_pos (congrArg some h.symm)]
      · have hne : some t ≠ some s := fun heq => h (Option.some.inj heq).symm
        rw [if_neg h, if_neg hne, if_neg hne]
    · rw [beq_eq_false_iff_ne.mpr hkt, if_neg Bool.false_ne_true, lookup_cons k w _ hk, ih,
        lookup_cons k w rest hk]
      by_cases hks : k.text? = some s
      · rw [if_pos hks, if_pos hks]
        have hst : s ≠ t := by
          rintro rfl
          exact hkt hks
        rw [if_neg hst]
      · rw [if_neg hks, if_neg hks]

theorem mem_of_lookup (hk : key.text? = some s) {entries : List (Value × Value)}
    (h : lookup key entries = some v) : ∃ k, k.text? = some s ∧ (k, v) ∈ entries := by
  induction entries with
  | nil => cases h
  | cons e rest ih =>
    rw [lookup_cons e.1 e.2 rest hk] at h
    split at h
    · rename_i hkey
      cases h
      exact ⟨e.1, hkey, List.mem_cons_self⟩
    · obtain ⟨k, hkey, hmem⟩ := ih h
      exact ⟨k, hkey, List.mem_cons_of_mem e hmem⟩

/-! ## Records -/

/-- The texts that the keys of entries are. -/
def names (entries : List (Value × Value)) : List (Option String) :=
  entries.map (·.1.text?)

@[simp] theorem names_cons (e : Value × Value) (rest : List (Value × Value)) :
    names (e :: rest) = e.1.text? :: names rest := rfl

/-- All keys are texts, and each text occurs once. -/
structure IsRecord (entries : List (Value × Value)) : Prop where
  texts : ∀ e ∈ entries, ∃ s, e.1.text? = some s
  nodup : (names entries).Nodup

theorem IsRecord.tail {e : Value × Value} {rest : List (Value × Value)}
    (h : IsRecord (e :: rest)) : IsRecord rest :=
  ⟨fun f hf => h.texts f (List.mem_cons_of_mem e hf), (List.nodup_cons.mp h.nodup).2⟩

theorem IsRecord.head_ne {e f : Value × Value} {rest : List (Value × Value)}
    (h : IsRecord (e :: rest)) (hf : f ∈ rest) : e.1.text? ≠ f.1.text? := by
  intro heq
  have hnot : e.1.text? ∉ names rest := (List.nodup_cons.mp h.nodup).1
  rw [heq] at hnot
  exact hnot (List.mem_map_of_mem hf)

/-- What a record holds under a key is the value of the entry with this key. -/
theorem IsRecord.lookup_eq (hk : key.text? = some s) : ∀ {entries : List (Value × Value)},
    IsRecord entries → ∀ {k : Value}, (k, v) ∈ entries → k.text? = some s →
      lookup key entries = some v
  | e :: rest, h, k, hmem, hkey => by
    rw [lookup_cons e.1 e.2 rest hk]
    rcases List.mem_cons.mp hmem with rfl | hmem
    · rw [if_pos hkey]
    · have hne : e.1.text? ≠ some s := by
        rw [← hkey]
        exact h.head_ne hmem
      rw [if_neg hne]
      exact h.tail.lookup_eq hk hmem hkey

/-- The key of the first entry of a record is not found among the others. -/
theorem IsRecord.lookup_tail {e : Value × Value} {rest : List (Value × Value)}
    (h : IsRecord (e :: rest)) (hk : key.text? = some s) (he : e.1.text? = some s) :
    lookup key rest = none := by
  cases hl : lookup key rest with
  | none => rfl
  | some w =>
    obtain ⟨k, hkey, hmem⟩ := mem_of_lookup hk hl
    exact absurd (he.trans hkey.symm) (h.head_ne hmem)

/-- Setting the key of the first entry of a record leaves what is found under the keys of the
others. -/
theorem IsRecord.lookup_insert_head {e : Value × Value} {rest fields : List (Value × Value)}
    (h : IsRecord ((name, v) :: rest)) (he : e ∈ rest) :
    lookup e.1 (Value.insert name v fields) = lookup e.1 fields := by
  obtain ⟨t, ht⟩ := h.texts (name, v) List.mem_cons_self
  obtain ⟨u, hu⟩ := h.texts e (List.mem_cons_of_mem _ he)
  have hne : u ≠ t := by
    rintro rfl
    exact h.head_ne he (ht.trans hu.symm)
  rw [lookup_insert hu ht, if_neg hne]

theorem names_insert (hn : name.text? = some t) (entries : List (Value × Value)) :
    names (insert name v entries) =
      if some t ∈ names entries then names entries else names entries ++ [some t] := by
  induction entries with
  | nil => simp [insert, names, hn]
  | cons e rest ih =>
    obtain ⟨k, w⟩ := e
    unfold insert
    rw [isEqual_eq_text k hn]
    by_cases hkt : k.text? = some t
    · simp [hkt]
    · have hmem : some t ∈ names ((k, w) :: rest) ↔ some t ∈ names rest := by
        rw [names_cons, List.mem_cons, or_iff_right (Ne.symm hkt)]
      rw [beq_eq_false_iff_ne.mpr hkt, if_neg Bool.false_ne_true, names_cons, ih]
      by_cases hin : some t ∈ names rest
      · rw [if_pos hin, if_pos (hmem.mpr hin), names_cons]
      · rw [if_neg hin, if_neg fun h => hin (hmem.mp h), names_cons, List.cons_append]

/-- **Setting a text** keeps a record one. -/
theorem IsRecord.insert {entries : List (Value × Value)} (h : IsRecord entries)
    (hn : name.text? = some t) : IsRecord (insert name v entries) := by
  have hnames := names_insert (v := v) hn entries
  constructor
  · intro e he
    have hmem : e.1.text? ∈ names (Value.insert name v entries) := List.mem_map_of_mem he
    have hsome : ∀ x ∈ names entries, ∃ s, x = some s := by
      intro x hx
      obtain ⟨f, hf, rfl⟩ := List.mem_map.mp hx
      exact h.texts f hf
    rw [hnames] at hmem
    split at hmem
    · exact hsome _ hmem
    · rcases List.mem_append.mp hmem with hmem | hmem
      · exact hsome _ hmem
      · exact ⟨t, List.mem_singleton.mp hmem⟩
  · rw [hnames]
    split
    · exact h.nodup
    · rename_i hnot
      refine List.nodup_append.mpr ⟨h.nodup, by simp, ?_⟩
      intro x hx y hy
      rw [List.mem_singleton.mp hy]
      rintro rfl
      exact hnot hx

end Docstore.Value
