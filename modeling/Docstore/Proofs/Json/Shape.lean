import Docstore.Proofs.Json.StoredValue
import Docstore.Proofs.Number.ExactValue
import Docstore.Proofs.Value.Comparison
import Mathlib.Data.List.Find

/-!
# What equality sees of stored values

Equality of values does not see all of the data that they are stored as.  It takes truth values for
the numbers one and zero, and it takes a number for what it stands for, however it is written.  What
is left of a datum is its shape: stored values are equal exactly if their data have the same shape.

* `compare_shape` — values that are data of the same shape are equal, and no others.
* `compare_decides` — the comparison of two stored values decides whether their shapes are the same.
-/

namespace Docstore

/-- What equality sees of a datum. -/
inductive Shape where
  | null
  | nan
  | infinity (negative : Bool)
  | number (q : ℚ)
  | string (s : String)
  | array (items : List Shape)
  /-- An object, with its members in the order of their names. -/
  | object (members : List (String × Shape))

/-- The shape of a floating-point number: what it stands for. -/
def Binary64.shape : Binary64 → Shape
  | .nan => .nan
  | .infinity negative => .infinity negative
  | .finite negative mantissa exponent _ =>
    .number (if negative then -(mantissa * 2 ^ exponent) else mantissa * 2 ^ exponent)

theorem Binary64.shape_cases (x : Binary64) :
    x.shape = .nan ∨ (∃ negative, x.shape = .infinity negative) ∨ ∃ q, x.shape = .number q := by
  cases x <;> simp [shape]

namespace Datum

mutual

/-- The shape of a datum: truth values are numbers, and numbers are what they stand for. -/
def shape : Datum → Shape
  | .null => .null
  | .bool b => .number (if b then 1 else 0)
  | .int n => .number n
  | .float x => x.shape
  | .string s => .string s
  | .array items => .array (shapes items)
  | .object members => .object (memberShapes members)

/-- The shapes of items. -/
def shapes : List Datum → List Shape
  | [] => []
  | d :: rest => d.shape :: shapes rest

/-- The shapes of members, under their names. -/
def memberShapes : List (String × Datum) → List (String × Shape)
  | [] => []
  | (name, d) :: rest => (name, d.shape) :: memberShapes rest

end

theorem memberShapes_eq_map : ∀ members : List (String × Datum),
    memberShapes members = members.map fun m => (m.1, m.2.shape)
  | [] => rfl
  | (name, d) :: rest => by rw [memberShapes, memberShapes_eq_map rest, List.map_cons]

end Datum

/-! ## Decisions -/

/-- A comparison comes out as equal exactly if a statement holds, and is not refused. -/
structure Verdict.Decides (verdict : Verdict) (p : Prop) : Prop where
  equal_iff : verdict = .equal ↔ p
  not_refused : verdict ≠ .refused

namespace Verdict.Decides

variable {a b : Verdict} {p q : Prop}

theorem congr (h : a.Decides p) (hpq : p ↔ q) : a.Decides q :=
  ⟨h.equal_iff.trans hpq, h.not_refused⟩

theorem equal (hp : p) : Verdict.equal.Decides p :=
  ⟨iff_of_true rfl hp, by decide⟩

theorem different (hp : ¬p) : Verdict.different.Decides p :=
  ⟨iff_of_false (by decide) hp, by decide⟩

theorem ofBool {c : Bool} (h : c = true ↔ p) : (Verdict.ofBool c).Decides p := by
  cases c with
  | true => exact equal (h.mp rfl)
  | false => exact different fun hp => Bool.false_ne_true (h.mpr hp)

theorem and (ha : a.Decides p) (hb : b.Decides q) : (a.and b).Decides (p ∧ q) := by
  cases a with
  | equal => exact hb.congr (and_iff_right (ha.equal_iff.mp rfl)).symm
  | different => exact different fun h => absurd (ha.equal_iff.mpr h.1) (by decide)
  | refused => exact absurd rfl ha.not_refused

end Verdict.Decides

namespace Number

/-- The shape of a number. -/
def shape : Number → Shape
  | .nan | .signaling => .nan
  | .infinity negative => .infinity negative
  | .exact x => .number x.value

theorem shape_ofInt (n : Int) : (exact (.ofInt n)).shape = .number n := by
  rw [shape, Exact.value_ofInt]

theorem shape_ofBinary64 (x : Binary64) : (ofBinary64 x).shape = x.shape := by
  cases x with
  | nan => rfl
  | infinity _ => rfl
  | finite negative mantissa exponent _ =>
    rw [ofBinary64, shape, Exact.value_ofScaled, zpow_zero, mul_one, Binary64.shape]

theorem shape_injective {x y : Number} (hx : x.IsNormal) (hy : y.IsNormal)
    (h : x.shape = y.shape) : x = y := by
  cases x <;> cases y <;> simp only [shape, Shape.number.injEq, Shape.infinity.injEq, reduceCtorEq,
    IsNormal] at h hx hy
  · rw [h]
  · rw [Exact.value_injective hx hy h]

/-- Numbers in normal form are compared by what they stand for. -/
theorem compare_decides {x y : Number} (hx : x.IsNormal) (hy : y.IsNormal) :
    (x.compare y).Decides (x.shape = y.shape) := by
  have hsame : x.shape = y.shape ↔ x = y := ⟨shape_injective hx hy, fun h => by rw [h]⟩
  rw [hsame]
  cases x <;> cases y <;>
    first | exact .ofBool beq_iff_eq | exact False.elim hx | exact False.elim hy

end Number

namespace Value

/-! ## Comparing values without parts -/

theorem compare_number {v w : Value} {y : Number} (hw : w.number? = some y) : v.compare w =
    match v.number? with
    | some x => x.compare y
    | none => .different := by
  cases w <;> cases hw <;> cases v <;> simp [compare, compareAtoms, number?, text?]

theorem compare_null (v : Value) :
    v.compare .null = Verdict.ofBool (match v with | .null => true | _ => false) := by
  cases v <;> simp [compare, compareAtoms, number?, text?, Verdict.ofBool]

/-- What is no list differs from a list. -/
theorem compare_list {v : Value} (ys : List Value) (hv : ∀ xs, v ≠ .list xs) :
    v.compare (.list ys) = .different := by
  cases v <;> simp_all [compare, compareAtoms, number?, text?]

/-- What is no dictionary differs from a dictionary. -/
theorem compare_dict {v : Value} (lvs : List (Value × Value)) (hv : ∀ kvs, v ≠ .dict kvs) :
    v.compare (.dict lvs) = .different := by
  cases v <;> simp_all [compare, compareAtoms, number?, text?]

section Shapes

variable {v w : Value} {d e : Datum} {s : String} {x : Number}

/-- The number that a stored value is, is in normal form. -/
theorem isNormal_of_isStored (h : v.isStored = true) (hx : v.number? = some x) : x.IsNormal := by
  cases v with
  | bool b => cases hx; exact Exact.isNormal_ofScaled _ _ _ _
  | int n => cases hx; exact Exact.isNormal_ofScaled _ _ _ _
  | float f object => cases hx; exact Number.ofBinary64_isNormal (by simpa [isStored] using h)
  | decimal d object => cases h
  | _ => cases hx

theorem shape_of_number? (hd : v.json? = some d) (hx : v.number? = some x) : d.shape = x.shape := by
  cases v with
  | bool b =>
    cases hx
    cases hd
    rw [Number.shape_ofInt]
    cases b <;> simp [Datum.shape]
  | int n => cases hx; cases hd; exact (Number.shape_ofInt n).symm
  | float f object => cases hx; cases hd; exact (Number.shape_ofBinary64 f).symm
  | decimal d object => cases hd
  | _ => cases hx

/-- What is no number does not have the shape of one. -/
theorem shape_ne_of_number? (hd : v.json? = some d) (hv : v.number? = none) (hx : x.IsNormal) :
    d.shape ≠ x.shape := by
  cases x <;> cases hx <;> cases v <;> simp_all [json?, number?, Number.shape] <;>
    grind [Datum.shape, Binary64.shape_cases]

theorem shape_eq_string_iff (hd : v.json? = some d) :
    d.shape = .string s ↔ v.text? = some s := by
  cases v <;> simp_all [json?, text?] <;> grind [Datum.shape, Binary64.shape_cases]

theorem shape_eq_null_iff (hd : v.json? = some d) : d.shape = .null ↔ v = .null := by
  cases v <;> simp_all [json?] <;> grind [Datum.shape, Binary64.shape_cases]

theorem shape_ne_array {ss : List Shape} (h : v.isStored = true) (hd : v.json? = some d)
    (hv : ∀ items, v ≠ .list items) : d.shape ≠ .array ss := by
  cases v <;> simp_all [json?, isStored] <;> grind [Datum.shape, Binary64.shape_cases]

theorem shape_ne_object {ms : List (String × Shape)} (hd : v.json? = some d)
    (hv : ∀ entries, v ≠ .dict entries) : d.shape ≠ .object ms := by
  cases v <;> simp_all [json?] <;> grind [Datum.shape, Binary64.shape_cases]

/-- A comparison with a number decides whether the other value is this number. -/
theorem compare_number_decides {y : Number} (hv : v.isStored = true) (hw : w.isStored = true)
    (hd : v.json? = some d) (he : w.json? = some e) (hy : w.number? = some y) :
    (v.compare w).Decides (d.shape = e.shape) := by
  rw [compare_number hy, shape_of_number? he hy]
  cases hx : v.number? with
  | none => exact .different (shape_ne_of_number? hd hx (isNormal_of_isStored hw hy))
  | some x =>
    rw [shape_of_number? hd hx]
    exact Number.compare_decides (isNormal_of_isStored hv hx) (isNormal_of_isStored hw hy)

theorem compare_text_decides (hd : v.json? = some d) (hw : w.text? = some s) :
    (v.compare w).Decides (d.shape = .string s) := by
  rw [compare_text hw]
  exact .ofBool (beq_iff_eq.trans (shape_eq_string_iff hd).symm)

theorem compare_null_decides (hd : v.json? = some d) :
    (v.compare .null).Decides (d.shape = .null) := by
  rw [compare_null]
  refine (Verdict.Decides.ofBool ?_).congr (shape_eq_null_iff hd).symm
  cases v <;> simp

end Shapes

/-! ## Comparing entries -/

theorem isNan_of_isStored {v : Value} (h : v.isStored = true) : v.isNan = false := by
  cases v with
  | float x object => cases x <;> simp_all [isStored, isNan, number?, Number.ofBinary64, Number.isNan]
  | decimal d object => cases h
  | _ => rfl

/-- An entry is matched by what the others hold under its key. -/
theorem compareEntries_of_isRecord {k v : Value} {s : String} {rest others : List (Value × Value)}
    (hk : k.text? = some s) (hv : v.isStored = true) (hothers : IsRecord others) :
    compareEntries ((k, v) :: rest) others = match lookup k others with
      | none => .different
      | some w => (v.compare w).and (compareEntries rest others) := by
  have hfind : others.find? (fun e => k.isEqual e.1) = others.find? (fun e => e.1.isEqual k) := by
    refine List.find?_congr fun e he => ?_
    obtain ⟨t, ht⟩ := hothers.texts e he
    rw [isEqual_eq_text e.1 hk, isEqual_eq_text k ht, ht, hk]
    exact Bool.beq_comm
  have hlookup : lookup k others = (others.find? (fun e => e.1.isEqual k)).map (·.2) := rfl
  rw [compareEntries_cons, hlookup, hfind]
  cases others.find? (fun e => e.1.isEqual k) with
  | none => rfl
  | some e =>
    rw [Option.elim_some, Option.map_some, comparePart_eq_compare (isNan_of_isStored hv)]

/-- The members that entries are. -/
theorem mem_jsonMembers? {s : String} {d : Datum} : ∀ {entries : List (Value × Value)}
    {members : List (String × Datum)}, jsonMembers? entries = some members →
      ((s, d) ∈ members ↔ ∃ e ∈ entries, e.1.text? = some s ∧ e.2.json? = some d)
  | [], members, h => by
    cases h
    simp
  | (k, v) :: rest, members, h => by
    obtain ⟨name, d', others, hname, hd, hothers, rfl⟩ := jsonMembers?_cons.mp h
    rw [List.mem_cons, mem_jsonMembers? hothers]
    simp only [List.mem_cons, exists_eq_or_imp, hname, hd, Prod.mk.injEq, Option.some.injEq,
      eq_comm]

/-- The shapes of members are those of what the entries hold under the names. -/
theorem mem_memberShapes_iff {key : Value} {s : String} {shape : Shape}
    {entries : List (Value × Value)} {members : List (String × Datum)}
    (hmembers : jsonMembers? entries = some members) (hrecord : IsRecord entries)
    (hk : key.text? = some s) : (s, shape) ∈ Datum.memberShapes members ↔
      ∃ v d, lookup key entries = some v ∧ v.json? = some d ∧ d.shape = shape := by
  rw [Datum.memberShapes_eq_map, List.mem_map]
  constructor
  · rintro ⟨⟨name, d⟩, hmem, heq⟩
    cases heq
    obtain ⟨⟨k, v⟩, hentry, hname, hd⟩ := (mem_jsonMembers? hmembers).mp hmem
    exact ⟨v, d, hrecord.lookup_eq hk hentry hname, hd, rfl⟩
  · rintro ⟨v, d, hlookup, hd, rfl⟩
    obtain ⟨k, hname, hentry⟩ := mem_of_lookup hk hlookup
    exact ⟨(s, d), (mem_jsonMembers? hmembers).mpr ⟨(k, v), hentry, hname, hd⟩, rfl⟩

/-! ## Comparing shapes -/

/-- Values of which one has no parts, or of different kinds, are equal if their shapes are. -/
theorem compare_shape_apart {v w : Value} {d e : Datum} (hv : v.isStored = true)
    (hw : w.isStored = true) (hd : v.json? = some d) (he : w.json? = some e)
    (hlists : ∀ xs ys, v = .list xs → w ≠ .list ys)
    (hdicts : ∀ kvs lvs, v = .dict kvs → w ≠ .dict lvs) :
    (v.compare w).Decides (d.shape = e.shape) := by
  cases w with
  | null => cases he; exact compare_null_decides hd
  | bool b => exact compare_number_decides hv hw hd he rfl
  | int n => exact compare_number_decides hv hw hd he rfl
  | float x object => exact compare_number_decides hv hw hd he rfl
  | str s => cases he; exact compare_text_decides hd rfl
  | operator op => cases he; exact compare_text_decides hd rfl
  | connector c => cases he; exact compare_text_decides hd rfl
  | direction o => cases he; exact compare_text_decides hd rfl
  | list ys =>
    have hv' : ∀ xs, v ≠ .list xs := fun xs h => hlists xs ys h rfl
    obtain ⟨es, -, rfl⟩ := Option.map_eq_some_iff.mp he
    rw [compare_list ys hv']
    exact .different (shape_ne_array hv hd hv')
  | dict lvs =>
    have hv' : ∀ kvs, v ≠ .dict kvs := fun kvs h => hdicts kvs lvs h rfl
    obtain ⟨ns, -, rfl⟩ := Option.map_eq_some_iff.mp he
    rw [compare_dict lvs hv']
    exact .different (shape_ne_object hd hv')
  | _ => cases hw

theorem jsonItems?_length : ∀ {items : List Value} {ds : List Datum}, jsonItems? items = some ds →
    (Datum.shapes ds).length = items.length
  | [], ds, h => by
    cases h
    rfl
  | v :: rest, ds, h => by
    obtain ⟨d, others, -, hothers, rfl⟩ := jsonItems?_cons.mp h
    rw [Datum.shapes, List.length_cons, List.length_cons, jsonItems?_length hothers]

/-- The names of members are the keys of the entries. -/
theorem jsonMembers?_names : ∀ {entries : List (Value × Value)} {members : List (String × Datum)},
    jsonMembers? entries = some members → (members.map (·.1)).map some = names entries
  | [], members, h => by
    cases h
    rfl
  | (k, v) :: rest, members, h => by
    obtain ⟨name, d, others, hname, -, hothers, rfl⟩ := jsonMembers?_cons.mp h
    rw [List.map_cons, List.map_cons, jsonMembers?_names hothers, names_cons, hname]

theorem jsonMembers?_length {entries : List (Value × Value)} {members : List (String × Datum)}
    (h : jsonMembers? entries = some members) : members.length = entries.length := by
  have hnames := congrArg List.length (jsonMembers?_names h)
  simpa [names] using hnames

theorem memberShapes_byName (ms : List (String × Datum)) : Datum.memberShapes (byName ms) =
    Sorting.sort (fun x y => decide (x.1 ≤ y.1)) (Datum.memberShapes ms) := by
  rw [Datum.memberShapes_eq_map, Datum.memberShapes_eq_map]
  refine Sorting.map_sort (fun _ _ => ?_) ms
  rfl

theorem memberShapes_names (ms : List (String × Datum)) :
    (Datum.memberShapes ms).map (·.1) = ms.map (·.1) := by
  rw [Datum.memberShapes_eq_map, List.map_map]
  rfl

/-- **Objects have the same shape** exactly if they have equally many members, and each member of
the one has the same shape as one of the other. -/
theorem memberShapes_byName_eq_iff {ms ns : List (String × Datum)} (hnodup : (ms.map (·.1)).Nodup) :
    Datum.memberShapes (byName ms) = Datum.memberShapes (byName ns) ↔
      ms.length = ns.length ∧ ∀ m ∈ Datum.memberShapes ms, m ∈ Datum.memberShapes ns := by
  have hnames : ((Datum.memberShapes ms).map (·.1)).Nodup := by rwa [memberShapes_names]
  have hlength : ∀ members : List (String × Datum),
      (Datum.memberShapes members).length = members.length := by
    intro members
    rw [Datum.memberShapes_eq_map, List.length_map]
  rw [memberShapes_byName, memberShapes_byName, Sorting.sort_by_name_eq_iff_perm hnames,
    ← hlength ms, ← hlength ns]
  constructor
  · intro hperm
    exact ⟨hperm.length_eq, fun m hm => hperm.mem_iff.mp hm⟩
  · rintro ⟨hlen, hsub⟩
    exact (List.subperm_of_subset (List.Nodup.of_map _ hnames) hsub).perm_of_length_le hlen.ge

mutual

/-- **The comparison of two stored values decides whether their shapes are the same.** -/
theorem compare_shape {v w : Value} {d e : Datum} (hv : v.isStored = true)
    (hw : w.isStored = true) (hd : v.json? = some d) (he : w.json? = some e) :
    (v.compare w).Decides (d.shape = e.shape) := by
  cases v with
  | list xs =>
    cases w with
    | list ys =>
      obtain ⟨ds, hds, rfl⟩ := Option.map_eq_some_iff.mp hd
      obtain ⟨es, hes, rfl⟩ := Option.map_eq_some_iff.mp he
      have hitems := compareItems_shapes hv hw hds hes
      rw [compare]
      by_cases hlen : xs.length = ys.length
      · rw [if_pos hlen]
        exact hitems.congr (by simp [Datum.shape])
      · rw [if_neg hlen]
        refine .different fun h => hlen ?_
        rw [← jsonItems?_length hds, ← jsonItems?_length hes, Shape.array.inj h]
    | _ => exact compare_shape_apart hv hw hd he (by simp) (by simp)
  | dict kvs =>
    cases w with
    | dict lvs =>
      obtain ⟨ms, hms, rfl⟩ := Option.map_eq_some_iff.mp hd
      obtain ⟨ns, hns, rfl⟩ := Option.map_eq_some_iff.mp he
      rw [isStored_dict] at hv hw
      have hnodup : (ms.map (·.1)).Nodup := by
        have hnames := hv.2.nodup
        rw [← jsonMembers?_names hms] at hnames
        exact List.Nodup.of_map _ hnames
      have hentries := compareEntries_shapes hv.1 hw.1 hw.2 hms hns
      have hshape := @memberShapes_byName_eq_iff ms ns hnodup
      rw [jsonMembers?_length hms, jsonMembers?_length hns] at hshape
      rw [compare, Datum.shape, Datum.shape, Shape.object.injEq]
      -- of equally many members with names of their own, one inclusion is enough
      by_cases hlen : kvs.length = lvs.length
      · rw [if_pos hlen]
        exact hentries.congr (hshape.trans (and_iff_right hlen)).symm
      · rw [if_neg hlen]
        exact .different fun h => hlen (hshape.mp h).1
    | _ => exact compare_shape_apart hv hw hd he (by simp) (by simp)
  | _ => exact compare_shape_apart hv hw hd he (by simp) (by simp)

theorem compareItems_shapes : ∀ {vs ws : List Value} {ds es : List Datum}, areStored vs = true →
    areStored ws = true → jsonItems? vs = some ds → jsonItems? ws = some es →
      (compareItems vs ws).Decides (Datum.shapes ds = Datum.shapes es)
  | [], [], ds, es, _, _, hd, he => by
    cases hd
    cases he
    rw [compareItems]
    exact .equal rfl
  | [], w :: ws, ds, es, _, _, hd, he => by
    obtain ⟨e, others, -, -, rfl⟩ := jsonItems?_cons.mp he
    cases hd
    simp only [compareItems]
    exact .different (by simp [Datum.shapes])
  | v :: vs, [], ds, es, _, _, hd, he => by
    obtain ⟨d, others, -, -, rfl⟩ := jsonItems?_cons.mp hd
    cases he
    simp only [compareItems]
    exact .different (by simp [Datum.shapes])
  | v :: vs, w :: ws, ds, es, hv, hw, hd, he => by
    obtain ⟨d, ds, hvd, hds, rfl⟩ := jsonItems?_cons.mp hd
    obtain ⟨e, es, hwe, hes, rfl⟩ := jsonItems?_cons.mp he
    rw [areStored_cons] at hv hw
    rw [compareItems_cons, comparePart_eq_compare (isNan_of_isStored hv.1), Datum.shapes,
      Datum.shapes, List.cons.injEq]
    exact (compare_shape hv.1 hw.1 hvd hwe).and (compareItems_shapes hv.2 hw.2 hds hes)

theorem compareEntries_shapes : ∀ {entries others : List (Value × Value)}
    {ms ns : List (String × Datum)}, entriesAreStored entries = true →
      entriesAreStored others = true → IsRecord others → jsonMembers? entries = some ms →
      jsonMembers? others = some ns →
      (compareEntries entries others).Decides
        (∀ m ∈ Datum.memberShapes ms, m ∈ Datum.memberShapes ns)
  | [], others, ms, ns, _, _, _, hd, _ => by
    cases hd
    rw [compareEntries]
    exact .equal (by simp [Datum.memberShapes])
  | (k, v) :: rest, others, ms, ns, hv, hw, hrecord, hd, he => by
    obtain ⟨name, d, members, hname, hvd, hmembers, rfl⟩ := jsonMembers?_cons.mp hd
    simp only [entriesAreStored, Bool.and_eq_true] at hv
    have hrest := compareEntries_shapes hv.2 hw hrecord hmembers he
    rw [compareEntries_of_isRecord hname hv.1.2 hrecord, Datum.memberShapes, List.forall_mem_cons,
      mem_memberShapes_iff he hrecord hname]
    cases hlookup : lookup k others with
    | none => exact .different (by simp)
    | some w =>
      have hws := isStored_of_lookup hw hname hlookup
      obtain ⟨d', hd'⟩ := exists_json? hws
      refine ((compare_shape hv.1.2 hws hvd hd').and hrest).congr (and_congr_left' ?_)
      simp [hd', eq_comm]

end

/-- The shape of what a value is stored as. -/
def shape? (v : Value) : Option Shape :=
  v.datum?.map Datum.shape

/-- **Stored values are compared by their shapes**, and the comparison is not refused. -/
theorem compare_decides {v w : Value} (hv : v.isStored = true) (hw : w.isStored = true) :
    (v.compare w).Decides (v.shape? = w.shape?) := by
  obtain ⟨d, hd⟩ := exists_json? hv
  obtain ⟨e, he⟩ := exists_json? hw
  refine (compare_shape hv hw hd he).congr ?_
  rw [shape?, shape?, datum?_of_isStored hv, datum?_of_isStored hw, hd, he, Option.map_some,
    Option.map_some, Option.some.injEq]

end Value

end Docstore
