import Docstore.Proofs.Text.Numeral
import Docstore.Proofs.Value.StoredData
import Docstore.Query.Binder

/-!
# What placeholders stand for

A placeholder is looked up by its name among the parameters.  Literals share a placeholder when
their canonical keys agree, and then they are stored as the same datum; so what a placeholder stands
for is the datum of every value that was bound to it, and binding further values changes nothing.

* `placeholder_injective` — placeholders with different numbers have different names.
* `datumOf_placeholder` — a placeholder's name finds the literal with the placeholder's number.
* `bind_holds` — a value that is bound is what its placeholder stands for.
* `parameter_placeholder` — the parameter of a placeholder is found by reading its number.
-/

namespace Docstore

/-- The datum that a name stands for among parameters. -/
def datumOf (parameters : List Parameter) (name : String) : Option Datum :=
  (parameters.find? (·.name == name)).bind (·.value.json?)

namespace Binder

/-! ## Names of placeholders -/

theorem placeholder_toList (number : Nat) :
    (placeholder number).toList = stem.toList ++ Nat.toDigits 10 number := by
  rw [placeholder, String.toList_append, Json.ofNat_toList]

/-- **Placeholders with different numbers have different names.** -/
theorem placeholder_injective {m n : Nat} (h : placeholder m = placeholder n) : m = n := by
  have hchars := congrArg String.toList h
  rw [placeholder_toList, placeholder_toList] at hchars
  exact Json.toDigits_injective (List.append_cancel_left hchars)

/-- A placeholder finds its literal among those with numbers from a first one on. -/
theorem find?_zipIdx (number : Nat) : ∀ (bound : List Literal) (first : Nat), first ≤ number →
    ((bound.zipIdx first).map fun (l, k) => (⟨placeholder k, l.value⟩ : Parameter)).find?
      (·.name == placeholder number) =
        bound[number - first]?.map fun l => ⟨placeholder number, l.value⟩
  | [], _, _ => rfl
  | l :: rest, first, h => by
    rw [List.zipIdx_cons, List.map_cons, List.find?_cons]
    by_cases heq : first = number
    · subst heq
      simp
    · have hname : (placeholder first == placeholder number) = false :=
        beq_eq_false_iff_ne.mpr fun hp => heq (placeholder_injective hp)
      have hlt : number - first = number - (first + 1) + 1 := by omega
      simp only [hname]
      rw [find?_zipIdx number rest (first + 1) (by omega), hlt, List.getElem?_cons_succ]

/-- A placeholder's name finds the literal with the placeholder's number. -/
theorem datumOf_placeholder (b : Binder) (number : Nat) :
    datumOf b.parameters (placeholder number) = b.bound[number]?.bind (·.value.json?) := by
  unfold datumOf parameters
  rw [find?_zipIdx number b.bound 0 (Nat.zero_le _), Nat.sub_zero]
  cases b.bound[number]? <;> rfl

/-- The parameter of a placeholder is found by reading its number, if that is a place of any
sequence. -/
theorem parameter_placeholder {b : Binder} {number : Nat} {l : Literal}
    (hl : b.bound[number]? = some l) (hplace : number < 2 ^ 63) :
    b.parameter (placeholder number) = .ok ⟨placeholder number, l.value⟩ := by
  have hdigits : (Nat.toDigits 10 number).length ≤ Text.maxDigits := by
    have hfew : (Nat.toDigits 10 number).length ≤ 19 :=
      (Nat.length_toDigits_le_iff (by decide) (by decide)).mpr (by omega)
    exact hfew.trans (by decide)
  have hread : (Value.str (String.ofList ((placeholder number).toList.drop stem.length))).toInt =
      .ok (number : Int) := by
    rw [placeholder_toList, ← String.length_toList, List.drop_left]
    simp [Value.toInt, Value.text?, Text.readInt_toDigits hdigits]
  have hitem : b.parameters[number]? = some ⟨placeholder number, l.value⟩ := by
    rw [parameters, List.getElem?_map, List.getElem?_zipIdx, hl, Option.map_some, Nat.zero_add]
    rfl
  refine bind_eq_ok.mpr ⟨number, hread, ?_⟩
  have hlimit : Int.pow 2 63 = 9223372036854775808 := by decide
  unfold Value.itemAt
  rw [hlimit, if_neg (by omega), if_neg (by omega)]
  simp only [hitem]

/-! ## Bound values -/

/-- A datum is what the placeholder with a number stands for. -/
def Holds (b : Binder) (number : Nat) (d : Datum) : Prop :=
  ∃ l, b.bound[number]? = some l ∧ l.value.json? = some d

/-- All literals come from values with text keys. -/
def Sound (b : Binder) : Prop :=
  ∀ l ∈ b.bound, ∃ v : Value, v.hasTextKeys = true ∧ literal v = .ok l

theorem sound_empty : Sound {} := by
  intro l hl
  cases hl

/-- Literals keep their numbers. -/
theorem getElem?_of_bound {b b' : Binder} {number : Nat} {l : Literal} (hext : b.bound <+: b'.bound)
    (hl : b.bound[number]? = some l) : b'.bound[number]? = some l := by
  obtain ⟨hlt, -⟩ := List.getElem?_eq_some_iff.mp hl
  obtain ⟨added, hadded⟩ := hext
  rw [← hadded, List.getElem?_append_left hlt]
  exact hl

theorem Holds.mono {b b' : Binder} {number : Nat} {d : Datum} (h : b.Holds number d)
    (hext : b.bound <+: b'.bound) : b'.Holds number d := by
  obtain ⟨l, hl, hdatum⟩ := h
  exact ⟨l, getElem?_of_bound hext hl, hdatum⟩

theorem Holds.datumOf {b : Binder} {number : Nat} {d : Datum} (h : b.Holds number d) :
    datumOf b.parameters (placeholder number) = some d := by
  obtain ⟨l, hl, hdatum⟩ := h
  rw [datumOf_placeholder, hl]
  exact hdatum

/-- Binding only adds to what is bound. -/
theorem bind_prefix {b b' : Binder} {v : Value} {name : String} (h : b.bind v = .ok (name, b')) :
    b.bound <+: b'.bound := by
  rcases bind_bound h with hb | ⟨l, -, hb⟩
  · rw [hb]
  · rw [hb]
    exact List.prefix_append _ _

/-- What is bound first stands first among the parameters. -/
theorem parameters_prefix {b b' : Binder} (h : b.bound <+: b'.bound) :
    b.parameters <+: b'.parameters := by
  obtain ⟨added, hadded⟩ := h
  rw [parameters, parameters, ← hadded, List.zipIdx_append, List.map_append]
  exact List.prefix_append _ _

theorem literal_eq_ok {v : Value} {l : Literal} :
    literal v = .ok l ↔ v.canonicalKey = .ok l.key ∧ v.storedData = .ok l.value := by
  unfold literal
  constructor
  · intro h
    obtain ⟨key, hkey, h⟩ := bind_eq_ok.mp h
    obtain ⟨value, hvalue, h⟩ := bind_eq_ok.mp h
    cases h
    exact ⟨hkey, hvalue⟩
  · rintro ⟨hkey, hvalue⟩
    rw [hkey, hvalue]
    rfl

theorem literal_datum {v : Value} {l : Literal} (h : literal v = .ok l) :
    l.value.json? = v.datum? :=
  Value.json?_of_storedData (literal_eq_ok.mp h).2

/-- **A value that is bound is what its placeholder stands for**, whether it shares the placeholder
with an earlier one or not. -/
theorem bind_holds {b b' : Binder} {v : Value} {name : String} (hb : b.Sound)
    (hv : v.hasTextKeys = true) (h : b.bind v = .ok (name, b')) :
    b'.Sound ∧ ∃ number d, name = placeholder number ∧ v.datum? = some d ∧ b'.Holds number d := by
  obtain ⟨l, hl, hallot⟩ := map_eq_ok.mp h
  have hkey := (literal_eq_ok.mp hl).1
  obtain ⟨d, hd, -⟩ := Value.canonicalKey_eq_text hv hkey
  unfold allot at hallot
  split at hallot
  · -- the placeholder is that of a literal with the same key, which came from the same datum
    rename_i number hfound
    cases hallot
    obtain ⟨hlt, hsame, -⟩ := List.findIdx?_eq_some_iff_getElem.mp hfound
    refine ⟨hb, number, d, rfl, hd, b.bound[number], by simp [hlt], ?_⟩
    obtain ⟨w, hw, hwl⟩ := hb b.bound[number] (List.getElem_mem hlt)
    have hwkey := (literal_eq_ok.mp hwl).1
    rw [beq_iff_eq.mp hsame] at hwkey
    rw [literal_datum hwl, Value.datum?_eq_of_canonicalKey hw hv hwkey hkey, hd]
  · -- the literal is the last one that is bound
    cases hallot
    refine ⟨?_, b.bound.length, d, rfl, hd, l, by simp, by rw [literal_datum hl, hd]⟩
    intro l' hl'
    rcases List.mem_append.mp hl' with hl' | hl'
    · exact hb l' hl'
    · rw [List.mem_singleton.mp hl']
      exact ⟨v, hv, hl⟩

/-- A value with a canonical key is bound. -/
theorem bind_ok_of_canonicalKey {b : Binder} {v : Value} {key : String}
    (h : v.canonicalKey = .ok key) : ∃ number b', b.bind v = .ok (placeholder number, b') ∧
      number < b'.size ∧ b'.size ≤ b.size + 1 := by
  obtain ⟨stored, hs, -⟩ := bind_eq_ok.mp h
  have hl : literal v = .ok ⟨key, stored.asData⟩ :=
    literal_eq_ok.mpr ⟨h, Value.storedData_of_store hs⟩
  unfold bind
  rw [hl]
  simp only [Except.map, allot]
  split
  · rename_i number hfound
    obtain ⟨hlt, -, -⟩ := List.findIdx?_eq_some_iff_getElem.mp hfound
    exact ⟨number, b, rfl, hlt, Nat.le_succ _⟩
  · exact ⟨b.bound.length, _, rfl, by simp [size], by simp [size]⟩

end Binder

end Docstore
