import Docstore.Value.Equality
import Mathlib.Data.List.Pairwise

/-!
# Values that equal themselves

A part of a container is equal to itself, whatever numbers it holds, provided that none of the
dictionaries in it has two equal keys; no dictionary has.  Compared on its own, not-a-number differs
from itself and a signaling number refuses to be compared; a value that is neither equals itself.
Values without signaling numbers can be compared.

* `compare_not_refused` — a comparison of values without signaling numbers is not refused.
* `comparePart_self` — a part of a container equals itself.
* `compare_self` — a value that is not not-a-number equals itself.
* `comparePart_eq_compare` — a value that is not not-a-number is compared alike within containers.
* `isEqual_self` — a key equals itself.
-/

namespace Docstore

namespace Verdict

theorem and_eq_equal {a b : Verdict} (ha : a = .equal) (hb : b = .equal) : a.and b = .equal := by
  rw [ha, hb, and]

theorem and_not_refused {a b : Verdict} (ha : a ≠ .refused) (hb : b ≠ .refused) :
    a.and b ≠ .refused := by
  cases a with
  | equal => exact hb
  | different => exact ha
  | refused => exact absurd rfl ha

theorem ofBool_not_refused (b : Bool) : ofBool b ≠ .refused := by
  cases b <;> decide

end Verdict

namespace Number

theorem compare_self {x : Number} (h : x.isNan = false) : x.compare x = .equal := by
  cases x with
  | nan | signaling => cases h
  | infinity negative => simp [compare, Verdict.ofBool]
  | exact x => simp [compare, Verdict.ofBool]

theorem compare_not_refused {x y : Number} (hx : x ≠ .signaling) (hy : y ≠ .signaling) :
    x.compare y ≠ .refused := by
  cases x with
  | signaling => exact absurd rfl hx
  | nan =>
    cases y with
    | signaling => exact absurd rfl hy
    | _ => simp [compare]
  | _ =>
    cases y with
    | signaling => exact absurd rfl hy
    | _ => exact Verdict.ofBool_not_refused _

end Number

theorem Timestamp.sameTime_self (t : Timestamp) : t.sameTime t = true := by
  unfold sameTime
  cases t.offset <;> simp

namespace Value

/-! ## Conditions on all parts of a value -/

mutual

/-- Whether all numbers in a value, at any depth, satisfy a condition. -/
def allNumbers (p : Number → Bool) : Value → Bool
  | .list items | .tuple items | .set _ items => allNumbersOf p items
  | .dict entries => allNumbersIn p entries
  | .condition _ operand _ _ => operand.allNumbers p
  | v => v.number?.all p

def allNumbersOf (p : Number → Bool) : List Value → Bool
  | [] => true
  | v :: rest => v.allNumbers p && allNumbersOf p rest

def allNumbersIn (p : Number → Bool) : List (Value × Value) → Bool
  | [] => true
  | (k, v) :: rest => k.allNumbers p && v.allNumbers p && allNumbersIn p rest

end

/-- Whether a value holds nothing that is not a number, at any depth. -/
def isNanFree (v : Value) : Bool :=
  v.allNumbers fun x => !x.isNan

/-- Whether a value holds no signaling number, at any depth. -/
def isQuiet (v : Value) : Bool :=
  v.allNumbers fun x => x != .signaling

/-- No two keys of a dictionary are equal. -/
def HasDistinctKeys (entries : List (Value × Value)) : Prop :=
  entries.Pairwise fun e f => e.1.isEqual f.1 = false ∧ f.1.isEqual e.1 = false

instance (entries : List (Value × Value)) : Decidable (HasDistinctKeys entries) :=
  inferInstanceAs (Decidable (List.Pairwise _ entries))

mutual

/-- Whether no dictionary in a value, at any depth, has two equal keys. -/
def isKeyedApart : Value → Bool
  | .list items | .tuple items | .set _ items => areKeyedApart items
  | .dict entries => decide (HasDistinctKeys entries) && entriesAreKeyedApart entries
  | .condition _ operand _ _ => operand.isKeyedApart
  | _ => true

def areKeyedApart : List Value → Bool
  | [] => true
  | v :: rest => v.isKeyedApart && areKeyedApart rest

def entriesAreKeyedApart : List (Value × Value) → Bool
  | [] => true
  | (k, v) :: rest => k.isKeyedApart && v.isKeyedApart && entriesAreKeyedApart rest

end

mutual

theorem allNumbers_mono {p q : Number → Bool} (hpq : ∀ x, p x = true → q x = true) :
    ∀ {v : Value}, v.allNumbers p = true → v.allNumbers q = true := by
  intro v h
  cases v with
  | list items => exact allNumbersOf_mono hpq h
  | tuple items => exact allNumbersOf_mono hpq h
  | set frozen items => exact allNumbersOf_mono hpq h
  | dict entries => exact allNumbersIn_mono hpq h
  | condition field operand op joined => exact allNumbers_mono (v := operand) hpq h
  | _ => simp_all [allNumbers, number?]

theorem allNumbersOf_mono {p q : Number → Bool} (hpq : ∀ x, p x = true → q x = true) :
    ∀ {items : List Value}, allNumbersOf p items = true → allNumbersOf q items = true
  | [], _ => rfl
  | v :: rest, h => by
    rw [allNumbersOf, Bool.and_eq_true] at h ⊢
    exact ⟨allNumbers_mono hpq h.1, allNumbersOf_mono hpq h.2⟩

theorem allNumbersIn_mono {p q : Number → Bool} (hpq : ∀ x, p x = true → q x = true) :
    ∀ {entries : List (Value × Value)},
      allNumbersIn p entries = true → allNumbersIn q entries = true
  | [], _ => rfl
  | (k, v) :: rest, h => by
    simp only [allNumbersIn, Bool.and_eq_true] at h ⊢
    exact ⟨⟨allNumbers_mono hpq h.1.1, allNumbers_mono hpq h.1.2⟩, allNumbersIn_mono hpq h.2⟩

end

theorem allNumbersIn_iff {p : Number → Bool} {entries : List (Value × Value)} :
    allNumbersIn p entries = true ↔
      ∀ e ∈ entries, e.1.allNumbers p = true ∧ e.2.allNumbers p = true := by
  induction entries with
  | nil => simp [allNumbersIn]
  | cons e rest ih =>
    rw [allNumbersIn, Bool.and_eq_true, Bool.and_eq_true, ih, List.forall_mem_cons]

theorem isQuiet_of_isNanFree {v : Value} (h : v.isNanFree = true) : v.isQuiet = true := by
  refine allNumbers_mono (fun x hx => ?_) h
  cases x <;> simp_all [Number.isNan]

/-! ## Comparing what can be compared -/

/-- Whether a value has no parts. -/
def hasNoParts : Value → Bool
  | .list _ | .tuple _ | .set .. | .dict _ | .condition .. => false
  | _ => true

theorem compare_of_hasNoParts {v : Value} (h : v.hasNoParts = true) (w : Value) :
    v.compare w = compareAtoms v w := by
  cases v with
  | list | tuple | set | dict | condition => cases h
  | _ => simp [compare]

theorem comparePart_not_refused {v w : Value} (h : v.compare w ≠ .refused) :
    v.comparePart w ≠ .refused := by
  unfold comparePart asParts
  split
  · decide
  · exact h

theorem compareItems_cons (v w : Value) (vs ws : List Value) :
    compareItems (v :: vs) (w :: ws) = (v.comparePart w).and (compareItems vs ws) := by
  rw [compareItems, comparePart]

theorem compareWithin_cons (v : Value) (vs ws : List Value) : compareWithin (v :: vs) ws =
    (Verdict.ofBool (ws.any fun w => v.isEqual w)).and (compareWithin vs ws) := by
  rw [compareWithin]
  rfl

theorem compareEntries_cons (k v : Value) (rest others : List (Value × Value)) :
    compareEntries ((k, v) :: rest) others = (others.find? fun e => k.isEqual e.1).elim .different
      fun e => (v.comparePart e.2).and (compareEntries rest others) := by
  rw [compareEntries]
  change _ = (others.find? fun e => asParts k e.1 (compare k e.1) == .equal).elim _ _
  cases others.find? fun e => asParts k e.1 (compare k e.1) == .equal <;> rfl

theorem compare_condition (f g o p : String) (v w : Value) (c d : Connector) :
    (condition f v o c).compare (.condition g w p d) =
      (Verdict.ofBool (f == g)).and ((v.comparePart w).and (.ofBool (o == p && c == d))) := by
  rw [compare, comparePart]

theorem compareAtoms_not_refused {v w : Value} (hv : v.number? ≠ some .signaling)
    (hw : w.number? ≠ some .signaling) : compareAtoms v w ≠ .refused := by
  unfold compareAtoms
  split
  · rename_i x y hx hy
    refine Number.compare_not_refused ?_ ?_
    · rintro rfl
      exact hv hx
    · rintro rfl
      exact hw hy
  · split
    · exact Verdict.ofBool_not_refused _
    · split <;> first | exact Verdict.ofBool_not_refused _ | decide

theorem compareWithin_not_refused (ws : List Value) : ∀ vs : List Value,
    compareWithin vs ws ≠ .refused
  | [] => by simp [compareWithin]
  | v :: vs => by
    rw [compareWithin_cons]
    exact Verdict.and_not_refused (Verdict.ofBool_not_refused _) (compareWithin_not_refused ws vs)

theorem number?_of_isQuiet {v : Value} (h : v.isQuiet = true) : v.number? ≠ some .signaling := by
  intro hsignaling
  cases v <;> simp_all [isQuiet, allNumbers, number?]

mutual

/-- **A comparison of values without signaling numbers** is not refused. -/
theorem compare_not_refused {v w : Value} (hv : v.isQuiet = true) (hw : w.isQuiet = true) :
    v.compare w ≠ .refused := by
  cases v with
  | list xs =>
    cases w with
    | list ys =>
      rw [compare]
      split
      · exact compareItems_not_refused hv hw
      · decide
    | _ => simp [compare]
  | tuple xs =>
    cases w with
    | tuple ys =>
      rw [compare]
      exact compareItems_not_refused hv hw
    | _ => simp [compare]
  | set frozen xs =>
    cases w with
    | set frozen' ys =>
      rw [compare]
      split
      · exact compareWithin_not_refused ys xs
      · decide
    | _ => simp [compare]
  | dict kvs =>
    cases w with
    | dict lvs =>
      rw [compare]
      split
      · exact compareEntries_not_refused hv hw
      · decide
    | _ => simp [compare]
  | condition field operand op joined =>
    cases w with
    | condition field' operand' op' joined' =>
      rw [compare_condition]
      have hoperands := comparePart_not_refused (compare_not_refused (v := operand) (w := operand') hv hw)
      exact Verdict.and_not_refused (Verdict.ofBool_not_refused _)
        (Verdict.and_not_refused hoperands (Verdict.ofBool_not_refused _))
    | _ => simp [compare]
  | _ =>
    rw [compare_of_hasNoParts rfl]
    exact compareAtoms_not_refused (number?_of_isQuiet hv) (number?_of_isQuiet hw)

theorem compareItems_not_refused : ∀ {vs ws : List Value},
    allNumbersOf (fun x => x != .signaling) vs = true →
    allNumbersOf (fun x => x != .signaling) ws = true → compareItems vs ws ≠ .refused
  | [], [], _, _ => by simp [compareItems]
  | [], _ :: _, _, _ => by simp [compareItems]
  | _ :: _, [], _, _ => by simp [compareItems]
  | v :: vs, w :: ws, hv, hw => by
    rw [allNumbersOf, Bool.and_eq_true] at hv hw
    rw [compareItems_cons]
    exact Verdict.and_not_refused (comparePart_not_refused (compare_not_refused hv.1 hw.1))
      (compareItems_not_refused hv.2 hw.2)

theorem compareEntries_not_refused : ∀ {entries others : List (Value × Value)},
    allNumbersIn (fun x => x != .signaling) entries = true →
    allNumbersIn (fun x => x != .signaling) others = true → compareEntries entries others ≠ .refused
  | [], others, _, _ => by simp [compareEntries]
  | (k, v) :: rest, others, hv, hw => by
    rw [allNumbersIn, Bool.and_eq_true, Bool.and_eq_true] at hv
    rw [compareEntries_cons]
    cases hfind : others.find? fun e => k.isEqual e.1 with
    | none => exact Verdict.noConfusion
    | some e =>
      have he := allNumbersIn_iff.mp hw e (List.mem_of_find?_eq_some hfind)
      exact Verdict.and_not_refused (comparePart_not_refused (compare_not_refused hv.1.2 he.2))
        (compareEntries_not_refused hv.2 hw)

end

/-! ## Comparing a value with itself -/

/-- Whether a value is not-a-number, quiet or signaling. -/
def isNan (v : Value) : Bool :=
  v.number?.any Number.isNan

theorem isNan_of_isNanFree {v : Value} (h : v.isNanFree = true) : v.isNan = false := by
  cases v <;> simp_all [isNanFree, allNumbers, isNan, number?]

theorem eq_of_isOneObject {v w : Value} (h : v.isOneObject w = true) : v = w := by
  cases v <;> cases w <;> simp_all [isOneObject]

theorem hasNoParts_of_isOneObject {v w : Value} (h : v.isOneObject w = true) :
    v.hasNoParts = true := by
  cases v <;> cases w <;> simp_all [isOneObject, hasNoParts]

theorem comparePart_of_ne {v w : Value} (h : v.isOneObject w = false) :
    v.comparePart w = v.compare w := by
  rw [comparePart, asParts, h, if_neg Bool.false_ne_true]

theorem compareAtoms_self {v : Value} (hv : v.isNan = false) (h : v.hasNoParts = true) :
    compareAtoms v v = .equal := by
  cases v with
  | list | tuple | set | dict | condition => cases h
  | bool b => exact Number.compare_self (x := .exact (.ofInt (if b then 1 else 0))) rfl
  | int n => exact Number.compare_self (x := .exact (.ofInt n)) rfl
  | float | decimal =>
    refine Number.compare_self ?_
    simpa [isNan, number?] using hv
  | timestamp t => simp [compareAtoms, number?, text?, Verdict.ofBool, t.sameTime_self]
  | _ => simp [compareAtoms, number?, text?, Verdict.ofBool]

/-- Only for not-a-number does it count whether two values are one object. -/
theorem comparePart_eq_compare {v : Value} (hv : v.isNan = false) (w : Value) :
    v.comparePart w = v.compare w := by
  cases hsame : v.isOneObject w with
  | false => exact comparePart_of_ne hsame
  | true =>
    have hparts := hasNoParts_of_isOneObject hsame
    obtain rfl := eq_of_isOneObject hsame
    rw [compare_of_hasNoParts hparts, compareAtoms_self hv hparts, comparePart, asParts, hsame,
      if_pos rfl]

/-- An entry of a dictionary is the one that is found under its key. -/
theorem HasDistinctKeys.find?_eq {entries : List (Value × Value)} (h : HasDistinctKeys entries)
    {e : Value × Value} (he : e ∈ entries) (hself : e.1.comparePart e.1 = .equal) :
    (entries.find? fun f => e.1.isEqual f.1) = some e := by
  induction entries with
  | nil => cases he
  | cons f rest ih =>
    obtain ⟨hhead, hrest⟩ := List.pairwise_cons.mp h
    rcases List.mem_cons.mp he with rfl | he
    · rw [List.find?_cons_of_pos]
      exact beq_iff_eq.mpr hself
    · rw [List.find?_cons_of_neg]
      · exact ih hrest he
      · exact Bool.eq_false_iff.mp (hhead e he).2

mutual

/-- **A part of a container** equals itself. -/
theorem comparePart_self {v : Value} (hkeys : v.isKeyedApart = true) :
    v.comparePart v = .equal := by
  cases v with
  | float | decimal => simp [comparePart, asParts, isOneObject]
  | list items =>
    rw [comparePart_of_ne rfl, compare, if_pos rfl]
    exact compareItems_self hkeys
  | tuple items =>
    rw [comparePart_of_ne rfl, compare]
    exact compareItems_self hkeys
  | set frozen items =>
    rw [comparePart_of_ne rfl, compare, if_pos rfl]
    exact compareWithin_self (fun _ h => h) hkeys
  | dict entries =>
    rw [isKeyedApart, Bool.and_eq_true, decide_eq_true_eq] at hkeys
    rw [comparePart_of_ne rfl, compare, if_pos rfl]
    exact compareEntries_self hkeys.1 (fun _ h => h) hkeys.2
  | condition field operand op joined =>
    rw [comparePart_of_ne rfl, compare_condition, comparePart_self (v := operand) hkeys]
    simp [Verdict.and, Verdict.ofBool]
  | _ =>
    rw [comparePart_of_ne rfl, compare_of_hasNoParts rfl]
    exact compareAtoms_self rfl rfl

theorem compareItems_self : ∀ {vs : List Value}, areKeyedApart vs = true →
    compareItems vs vs = .equal
  | [], _ => by rw [compareItems]
  | v :: vs, hkeys => by
    rw [areKeyedApart, Bool.and_eq_true] at hkeys
    rw [compareItems_cons]
    exact Verdict.and_eq_equal (comparePart_self hkeys.1) (compareItems_self hkeys.2)

theorem compareWithin_self : ∀ {vs ws : List Value}, vs ⊆ ws → areKeyedApart vs = true →
    compareWithin vs ws = .equal
  | [], _, _, _ => by rw [compareWithin]
  | v :: vs, ws, hsub, hkeys => by
    rw [areKeyedApart, Bool.and_eq_true] at hkeys
    have hfound : (ws.any fun w => v.isEqual w) = true := by
      refine List.any_eq_true.mpr ⟨v, hsub List.mem_cons_self, ?_⟩
      rw [isEqual, comparePart_self hkeys.1, beq_self_eq_true]
    rw [compareWithin_cons, hfound]
    exact Verdict.and_eq_equal rfl (compareWithin_self (List.subset_of_cons_subset hsub) hkeys.2)

theorem compareEntries_self : ∀ {entries others : List (Value × Value)}, HasDistinctKeys others →
    entries ⊆ others → entriesAreKeyedApart entries = true →
    compareEntries entries others = .equal
  | [], _, _, _, _ => by rw [compareEntries]
  | (k, v) :: rest, others, hothers, hsub, hkeys => by
    rw [entriesAreKeyedApart, Bool.and_eq_true, Bool.and_eq_true] at hkeys
    have hfind := hothers.find?_eq (hsub List.mem_cons_self) (comparePart_self hkeys.1.1)
    rw [compareEntries_cons, hfind]
    exact Verdict.and_eq_equal (comparePart_self hkeys.1.2)
      (compareEntries_self hothers (List.subset_of_cons_subset hsub) hkeys.2)

end

/-- **A value that is not not-a-number** equals itself. -/
theorem compare_self {v : Value} (hnan : v.isNan = false) (hkeys : v.isKeyedApart = true) :
    v.compare v = .equal := by
  rw [← comparePart_eq_compare hnan]
  exact comparePart_self hkeys

/-! ## Keys -/

mutual

/-- What may be a key holds no dictionaries. -/
theorem isKeyedApart_of_isKey {v : Value} (h : v.isKey = true) : v.isKeyedApart = true := by
  cases v with
  | tuple items => exact areKeyedApart_of_areKeys h
  | set frozen items =>
    rw [isKey, Bool.and_eq_true] at h
    exact areKeyedApart_of_areKeys h.2
  | condition field operand op joined => exact isKeyedApart_of_isKey (v := operand) h
  | list | dict => cases h
  | _ => rfl

theorem areKeyedApart_of_areKeys : ∀ {items : List Value}, areKeys items = true →
    areKeyedApart items = true
  | [], _ => rfl
  | v :: rest, h => by
    rw [areKeys, Bool.and_eq_true] at h
    rw [areKeyedApart, isKeyedApart_of_isKey h.1, areKeyedApart_of_areKeys h.2, Bool.and_self]

end

/-- **A key equals itself**, not-a-number included. -/
theorem isEqual_self {key : Value} (h : key.isKey = true) : key.isEqual key = true := by
  rw [isEqual, comparePart_self (isKeyedApart_of_isKey h), beq_self_eq_true]

end Value

end Docstore
