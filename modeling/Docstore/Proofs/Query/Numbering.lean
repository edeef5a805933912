import Docstore.Proofs.Query.References
import Docstore.Proofs.Value.StoreForm

/-!
# Statements and their parameters

The parameters of a built query are numbered from zero on, the statement refers to all of them and
to nothing else, it does so for the first time in the order of their numbers, and no two of them are
the same literal.

* `bind_cases` — what binding a value does: it finds an earlier literal or adds a new one.
* `bindAll_numbers` — the numbers that values are given count up where they are new.
* `IsDistinct.bindAll` — different literals have different keys, which are those of their values.
* `build_isNumbered` — so it is for the whole query.
-/

namespace Docstore

open Binder (placeholder)

/-! ## First occurrences -/

section FirstOccurrences

variable {α β : Type} [BEq α] [LawfulBEq α] [BEq β] [LawfulBEq β]

/-- Where nothing occurs twice, everything is a first occurrence. -/
theorem eraseDups_of_nodup {xs : List α} (h : xs.Nodup) : xs.eraseDups = xs := by
  induction xs with
  | nil => rfl
  | cons x rest ih =>
    obtain ⟨hx, hrest⟩ := List.nodup_cons.mp h
    have hfilter : rest.filter (fun y => !y == x) = rest := by
      refine List.filter_eq_self.mpr fun y hy => ?_
      have hne : y ≠ x := by
        rintro rfl
        exact hx hy
      rw [beq_eq_false_iff_ne.mpr hne, Bool.not_false]
    rw [List.eraseDups_cons, hfilter, ih hrest]

/-- A function that tells items apart maps first occurrences to first occurrences. -/
theorem eraseDups_map {f : α → β} (hf : Function.Injective f) : ∀ xs : List α,
    (xs.map f).eraseDups = xs.eraseDups.map f
  | [] => rfl
  | x :: rest => by
    have hlength := List.length_filter_le (fun y => !y == x) rest
    have hfilter : (rest.map f).filter (fun y => !y == f x) =
        (rest.filter fun y => !y == x).map f := by
      rw [List.filter_map]
      refine congrArg (List.map f) (List.filter_congr fun y _ => ?_)
      have hsame : (f y == f x) = (y == x) := by
        rw [Bool.eq_iff_iff, beq_iff_eq, beq_iff_eq, hf.eq_iff]
      rw [Function.comp_apply, hsame]
    rw [List.map_cons, List.eraseDups_cons, List.eraseDups_cons, List.map_cons, hfilter,
      eraseDups_map hf]
termination_by xs => xs.length

end FirstOccurrences

namespace Binder

variable {b b' : Binder} {v : Value} {p : String}

/-! ## Numbers -/

/-- **Binding a value** finds an earlier literal with its key, or adds a literal. -/
theorem bind_cases (h : b.bind v = .ok (p, b')) : ∃ l, literal v = .ok l ∧
    ((∃ number, number < b.size ∧ p = placeholder number ∧ b' = b) ∨
      p = placeholder b.size ∧ b' = ⟨b.bound ++ [l]⟩ ∧ ∀ m ∈ b.bound, m.key ≠ l.key) := by
  obtain ⟨l, hl, hallot⟩ := map_eq_ok.mp h
  refine ⟨l, hl, ?_⟩
  unfold allot at hallot
  split at hallot
  · rename_i number hfound
    cases hallot
    obtain ⟨hlt, -, -⟩ := List.findIdx?_eq_some_iff_getElem.mp hfound
    exact .inl ⟨number, hlt, rfl, rfl⟩
  · rename_i hnone
    cases hallot
    refine .inr ⟨rfl, rfl, fun m hm heq => ?_⟩
    have hdiffer := List.findIdx?_eq_none_iff.mp hnone m hm
    rw [heq, beq_self_eq_true] at hdiffer
    cases hdiffer

/-- A number that was given before is no first occurrence. -/
theorem eraseDups_range_append_cons {count number : Nat} (h : number < count)
    (numbers : List Nat) : (List.range count ++ number :: numbers).eraseDups =
      (List.range count ++ numbers).eraseDups := by
  have hcontains : (List.range count).contains number = true := by simpa using h
  rw [List.eraseDups_append, List.eraseDups_append, List.cons_removeAll, hcontains,
    if_neg Bool.noConfusion]

/-- **The numbers that values are given count up**: those given for the first time are the next ones
after those that were given before, in order. -/
theorem bindAll_numbers : ∀ {vs : List Value} {b b' : Binder} {ps : List String},
    b.bindAll vs = .ok (ps, b') → ∃ numbers, ps = numbers.map placeholder ∧
      (List.range b.size ++ numbers).eraseDups = List.range b'.size
  | [], b, b', ps, h => by
    cases h
    refine ⟨[], rfl, ?_⟩
    rw [List.append_nil, eraseDups_of_nodup List.nodup_range]
  | v :: rest, b, b', ps, h => by
    obtain ⟨p, b₁, others, hbind, hothers, rfl⟩ := bindAll_cons_eq_ok.mp h
    obtain ⟨numbers, rfl, hcount⟩ := bindAll_numbers hothers
    obtain ⟨l, -, ⟨number, hlt, rfl, rfl⟩ | ⟨rfl, rfl, -⟩⟩ := bind_cases hbind
    · refine ⟨number :: numbers, rfl, ?_⟩
      rw [eraseDups_range_append_cons hlt, hcount]
    · refine ⟨b.size :: numbers, rfl, ?_⟩
      have hsize : Binder.size ⟨b.bound ++ [l]⟩ = b.size + 1 := by simp [size]
      rw [hsize, List.range_succ, List.append_assoc] at hcount
      exact hcount

/-! ## Keys -/

/-- The literals of a binder have different keys, which are the canonical keys of their values. -/
structure IsDistinct (b : Binder) : Prop where
  keys_nodup : (b.bound.map (·.key)).Nodup
  canonicalKey : ∀ l ∈ b.bound, l.value.canonicalKey = .ok l.key

theorem isDistinct_empty : IsDistinct {} :=
  ⟨List.nodup_nil, fun l hl => by cases hl⟩

theorem IsDistinct.bind (hb : b.IsDistinct) (h : b.bind v = .ok (p, b')) : b'.IsDistinct := by
  obtain ⟨l, hl, ⟨number, -, -, rfl⟩ | ⟨-, rfl, hnew⟩⟩ := bind_cases h
  · exact hb
  · obtain ⟨hkey, hdata⟩ := literal_eq_ok.mp hl
    constructor
    · rw [List.map_append, List.map_singleton]
      refine List.nodup_append.mpr ⟨hb.keys_nodup, List.nodup_singleton _, ?_⟩
      intro k hk k' hk'
      obtain ⟨m, hm, rfl⟩ := List.mem_map.mp hk
      rw [List.mem_singleton.mp hk']
      exact hnew m hm
    · intro m hm
      rcases List.mem_append.mp hm with hm | hm
      · exact hb.canonicalKey m hm
      · rw [List.mem_singleton.mp hm]
        exact (Value.canonicalKey_of_storedData hdata).mpr hkey

/-- **Values that are bound leave literals with different keys.** -/
theorem IsDistinct.bindAll {vs : List Value} {ps : List String} (hb : b.IsDistinct)
    (h : b.bindAll vs = .ok (ps, b')) : b'.IsDistinct :=
  bindAll_keeps IsDistinct.bind hb h

/-! ## Parameters -/

theorem parameters_length (b : Binder) : b.parameters.length = b.size := by
  rw [parameters, List.length_map, List.length_zipIdx, size]

theorem parameters_names (b : Binder) :
    b.parameters.map (·.name) = (List.range b.size).map placeholder := by
  rw [parameters, List.map_map, size, List.range_eq_range', ← List.zipIdx_map_snd, List.map_map]
  rfl

theorem parameters_values (b : Binder) : b.parameters.map (·.value) = b.bound.map (·.value) := by
  have hbound : b.bound.map (·.value) = (b.bound.zipIdx.map (·.1)).map (·.value) := by
    rw [List.zipIdx_map_fst]
  rw [hbound, parameters, List.map_map, List.map_map]
  rfl

/-- The canonical keys of the values of parameters are the keys of the literals. -/
theorem IsDistinct.parameters_keys (h : b.IsDistinct) :
    (b.parameters.map (·.value)).mapM Value.canonicalKey = .ok (b.bound.map (·.key)) := by
  rw [parameters_values]
  refine mapM_eq_ok.mpr ?_
  rw [List.forall₂_map_left_iff, List.forall₂_map_right_iff]
  exact List.forall₂_same.mpr h.canonicalKey

end Binder

/-! ## Built queries -/

/-- A query whose statement refers to its parameters one after the other. -/
structure Query.IsNumbered (q : Query) : Prop where
  /-- The parameters are numbered from zero on. -/
  names : q.parameters.map (·.name) = (List.range q.parameters.length).map placeholder
  names_nodup : (q.parameters.map (·.name)).Nodup
  /-- The statement refers to the parameters and to nothing else. -/
  mem_references_iff : ∀ name,
    name ∈ references q.statement.toList ↔ name ∈ q.parameters.map (·.name)
  /-- From left to right, the statement refers to the parameters for the first time in their
  order. -/
  first_references : (references q.statement.toList).eraseDups = q.parameters.map (·.name)
  /-- No two parameters have the same canonical key. -/
  keys : ∃ keys, (q.parameters.map (·.value)).mapM Value.canonicalKey = .ok keys ∧ keys.Nodup

theorem Condition.slot_fields {cs : List Condition} {slots : List (Slot × Value)}
    (h : cs.mapM slot = .ok slots) {s : Slot} (hs : s ∈ slots.map (·.1)) :
    ∃ c ∈ cs, s.field = c.field := by
  rw [mapM_eq_ok] at h
  induction h with
  | nil => cases hs
  | cons hc _ ih =>
    rcases List.mem_cons.mp hs with rfl | hs
    · obtain ⟨op, -, hslot⟩ := bind_eq_ok.mp hc
      cases hslot
      exact ⟨_, List.mem_cons_self, rfl⟩
    · obtain ⟨c, hmem, hfield⟩ := ih hs
      exact ⟨c, List.mem_cons_of_mem _ hmem, hfield⟩

namespace Statement

/-- **A built query is numbered**, provided that the selection, the alias and the names of the
fields do not contain the mark that placeholders start with. -/
theorem build_isNumbered {names : FieldNames} {select : String} {conditions sortBy : Value}
    {window : Option Window} {q : Query} (hselect : '@' ∉ select.toList)
    (halias : '@' ∉ names.aliasName.toList)
    (hfields : ∀ cs, Condition.ofValues conditions = .ok cs →
      ∀ c ∈ cs, '@' ∉ (names.physical c.field).toList)
    (hsort : ∀ s, SortKey.ofValue sortBy = .ok s → '@' ∉ (names.physical s.field).toList)
    (h : build names select conditions sortBy window = .ok q) : q.IsNumbered := by
  obtain ⟨f⟩ := build_filled h
  have hslotFields : ∀ s ∈ f.slots.map (·.1), '@' ∉ (names.physical s.field).toList := by
    intro s hs
    obtain ⟨c, hc, hfield⟩ := Condition.slot_fields f.slots_eq hs
    rw [hfield]
    exact hfields f.given f.given_eq c hc
  obtain ⟨all, hall, hcount⟩ := Binder.bindAll_numbers f.bound
  obtain ⟨numbers, pageNumbers, rfl, hnumbers, hpageNumbers⟩ :=
    List.map_eq_append_iff.mp hall.symm
  have hlength := f.placeholders_length
  have hpage := f.pagePlaceholders_length
  rw [← hnumbers, List.length_map] at hlength
  rw [← hpageNumbers, List.length_map] at hpage
  have hreferences := references_filled hselect halias hslotFields hsort f.sort_eq
    (by rw [List.length_map, hlength]) hpage
  have hfirst : ((numbers ++ pageNumbers).map placeholder).eraseDups =
      f.binder.parameters.map (·.name) := by
    have hrange : (numbers ++ pageNumbers).eraseDups = List.range f.binder.size := hcount
    rw [eraseDups_map (fun m n => Binder.placeholder_injective), hrange, Binder.parameters_names]
  have hdistinct := Binder.isDistinct_empty.bindAll f.bound
  rw [f.query_eq, ← hnumbers, ← hpageNumbers]
  constructor
  · show f.binder.parameters.map (·.name) = _
    rw [Binder.parameters_names, Binder.parameters_length]
  · show (f.binder.parameters.map (·.name)).Nodup
    rw [Binder.parameters_names]
    exact List.nodup_range.map fun m n => Binder.placeholder_injective
  · intro name
    rw [hreferences, ← hfirst, List.mem_eraseDups]
  · rw [hreferences, hfirst]
  · exact ⟨f.binder.bound.map (·.key), hdistinct.parameters_keys, hdistinct.keys_nodup⟩

/-- Eleven literals, of which the page window shares two: the name of the second parameter starts
the name of the last. -/
theorem build_isNumbered_of_eleven_literals :
    ∃ q, build {} (selectAll "c")
        (.list ((List.range 11).map fun n => .condition "a" (.int n) "eq" .or)) .null
        (some ⟨10, 0⟩) = .ok q ∧ q.parameters.length = 11 ∧ q.IsNumbered := by
  have hbuild : ∃ q, build {} (selectAll "c")
      (.list ((List.range 11).map fun n => .condition "a" (.int n) "eq" .or)) .null
      (some ⟨10, 0⟩) = .ok q ∧ q.parameters.length = 11 := ⟨_, rfl, rfl⟩
  obtain ⟨q, hq, hlength⟩ := hbuild
  have hcs : Condition.ofValues
      (.list ((List.range 11).map fun n => .condition "a" (.int n) "eq" .or)) =
        .ok ((List.range 11).map fun n => ⟨"a", .int n, "eq", .or⟩) := rfl
  refine ⟨q, hq, hlength, build_isNumbered (by decide) (by decide) ?_ ?_ hq⟩
  · intro cs hcs' c hc
    obtain rfl := Except.ok.inj (hcs.symm.trans hcs')
    obtain ⟨n, -, rfl⟩ := List.mem_map.mp hc
    have hname : '@' ∉ "a".toList := by decide
    exact hname
  · intro s hs
    cases hs

end Statement

end Docstore
