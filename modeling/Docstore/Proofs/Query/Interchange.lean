import Docstore.Proofs.Outcome
import Docstore.Query.Statement

/-!
# Instances and mappings as query inputs

A condition or a sort key is given as an instance or as a mapping of its fields.  A statement sees it
through what it is read as alone, so the two may replace each other in any list of conditions and as
the sort of a statement, and the same query is built, or the same fault comes up.

A mapping is read by its fields: the field has to be a text that is not empty, what is left out or
given as nothing has a default, connectors and directions may have capitals of any kind, and members
of the vocabularies count as their texts.

* `Condition.ofValue_dict_iff`, `SortKey.ofValue_dict_iff` — which mappings are read as what.
* `Condition.ofValue_entries`, `SortKey.ofValue_entries` — the mapping of the fields of a valid
  instance is read as this instance.
* `build_of_replaced` — replacing instances and mappings by each other leaves the query as it is.
-/

namespace Docstore

namespace Validation

variable {α : Type} {field s : String} {v : Value} {entries : List (Value × Value)}

/-- What a mapping gives for a field, where nothing counts as not given. -/
def given? (field : String) (entries : List (Value × Value)) : Option Value :=
  match Value.lookup (.str field) entries with
  | some .null => none
  | found => found

/-- The wording of a value, if it is a text: octets are taken as they are, all other texts are
fitted. -/
def wording? (fitted : String → String) (v : Value) : Option String :=
  match v with
  | .bytes octets => String.fromUTF8? ⟨octets.toArray⟩
  | _ => v.text?.map fitted

theorem text_eq_ok_iff (field : String) : text field v = .ok s ↔ wording? id v = some s := by
  cases v
  case bytes octets =>
    rw [text, wording?]
    cases String.fromUTF8? ⟨octets.toArray⟩ <;> simp
  all_goals simp [text, wording?, Value.text?]

/-- A member of a vocabulary is given by its text, once it is fitted. -/
theorem member_eq_ok_iff {rule : Rule} {ofText? : String → Option α} {fitted : String → String}
    {x : α} (t : String) (htext : ∀ s, ofText? s = some x ↔ s = t) :
    member field rule ofText? fitted v = .ok x ↔ wording? fitted v = some t := by
  have hfound : ∀ s : Option String, s.bind ofText? = some x ↔ s = some t := by
    intro s
    cases s with
    | none => simp
    | some s => rw [Option.bind_some, htext s, Option.some.injEq]
  cases v
  all_goals
    rw [← hfound]
    simp only [member, wording?, Value.text?, Option.map_some, Option.map_none]
    split <;> simp_all only [Except.ok.injEq, Option.some.injEq, reduceCtorEq]

theorem fieldName_eq_ok_iff : fieldName entries = .ok s ↔
    (Value.lookup (.str "field") entries).bind (wording? id) = some s ∧ s ≠ "" := by
  unfold fieldName
  cases Value.lookup (.str "field") entries with
  | none => simp
  | some v =>
    rw [Option.bind_some, ← text_eq_ok_iff "field"]
    constructor
    · intro h
      obtain ⟨t, ht, h⟩ := bind_eq_ok.mp h
      by_cases hempty : t.isEmpty = true
      · rw [if_pos hempty] at h
        cases h
      · rw [if_neg hempty] at h
        cases h
        exact ⟨ht, by simpa using hempty⟩
    · rintro ⟨ht, hne⟩
      refine bind_eq_ok.mpr ⟨s, ht, ?_⟩
      rw [if_neg (by simpa using hne)]

theorem operator_eq_ok_iff : operator entries = .ok s ↔
    (given? "operator" entries).elim (some Operator.eq.text) (wording? id) = some s := by
  unfold operator given?
  cases Value.lookup (.str "operator") entries with
  | none => simp
  | some v =>
    cases v
    case null => simp
    all_goals exact text_eq_ok_iff _

theorem connector_eq_ok_iff {c : Connector} : connector entries = .ok c ↔
    (given? "connector" entries).elim (some Connector.and.text) (wording? Text.capitals) =
      some c.text := by
  have htext : ∀ s, Connector.ofText? s = some c ↔ s = c.text :=
    fun s => ⟨fun h => (Connector.text_of_ofText? h).symm, fun h => h ▸ Connector.ofText?_text c⟩
  unfold connector given?
  cases Value.lookup (.str "connector") entries with
  | none => cases c <;> simp [Connector.text]
  | some v =>
    cases v
    case null => cases c <;> simp [Connector.text]
    all_goals exact member_eq_ok_iff _ htext

theorem direction_eq_ok_iff {d : Direction} : direction entries = .ok d ↔
    (Value.lookup (.str "direction") entries).elim (some Direction.asc.text)
      (wording? Text.smalls) = some d.text := by
  have htext : ∀ s, Direction.ofText? s = some d ↔ s = d.text :=
    fun s => ⟨fun h => (Direction.text_of_ofText? h).symm, fun h => h ▸ Direction.ofText?_text d⟩
  unfold direction
  cases Value.lookup (.str "direction") entries with
  | none => cases d <;> simp [Direction.text]
  | some v => exact member_eq_ok_iff _ htext

end Validation

open Validation (given? wording?)

/-! ## Conditions -/

namespace Condition

variable {c : Condition} {v w : Value} {entries : List (Value × Value)}

/-- How the entries of a mapping describe a condition; all other entries count for nothing. -/
structure IsDescribedBy (c : Condition) (entries : List (Value × Value)) : Prop where
  field : (Value.lookup (.str "field") entries).bind (wording? id) = some c.field
  field_ne : c.field ≠ ""
  operand : (Value.lookup (.str "value") entries).getD .null = c.operand
  /-- Equality is meant if no operator is given; any text may be one. -/
  operator : (given? "operator" entries).elim (some Operator.eq.text) (wording? id) =
    some c.operator
  connector : (given? "connector" entries).elim (some Connector.and.text)
    (wording? Text.capitals) = some c.connector.text

theorem ofEntries_eq_ok_iff : ofEntries entries = .ok c ↔ c.IsDescribedBy entries := by
  constructor
  · intro h
    unfold ofEntries at h
    dsimp only at h
    split at h
    · rename_i field operator connector hfield hoperator hconnector
      cases h
      obtain ⟨hfield, hne⟩ := Validation.fieldName_eq_ok_iff.mp hfield
      exact ⟨hfield, hne, rfl, Validation.operator_eq_ok_iff.mp hoperator,
        Validation.connector_eq_ok_iff.mp hconnector⟩
    · cases h
  · intro h
    have hfield := Validation.fieldName_eq_ok_iff.mpr ⟨h.field, h.field_ne⟩
    have hoperator := Validation.operator_eq_ok_iff.mpr h.operator
    have hconnector := Validation.connector_eq_ok_iff.mpr h.connector
    unfold ofEntries
    rw [hfield, hoperator, hconnector, h.operand]

/-- **The mappings that are read as a condition** are those that describe it. -/
theorem ofValue_dict_iff : ofValue (.dict entries) = .ok c ↔ c.IsDescribedBy entries := by
  rw [← ofEntries_eq_ok_iff]
  show (ofEntries entries).mapError (Fault.invalid .condition) = .ok c ↔ _
  cases ofEntries entries <;> simp [Except.mapError]

/-- **The mapping of the fields of a valid condition** is read as this condition. -/
theorem ofValue_entries (h : c.field ≠ "") : ofValue (.dict c.entries) = .ok c :=
  ofValue_dict_iff.mpr (ofEntries_eq_ok_iff.mp (ofEntries_entries h))

/-- Whether one value is replaced by another in a list of conditions: an instance by the mapping of
its fields, or what is read as a condition by the instance. -/
inductive ReplacedBy : Value → Value → Prop
  | same (v : Value) : ReplacedBy v v
  | fields {c : Condition} (valid : c.field ≠ "") : ReplacedBy c.toValue (.dict c.entries)
  | reading {v : Value} {c : Condition} (h : ofValue v = .ok c) : ReplacedBy v c.toValue

theorem ReplacedBy.ofValue_eq (h : ReplacedBy v w) : ofValue v = ofValue w := by
  cases h with
  | same => rfl
  | fields valid => exact (ofValue_entries valid).symm
  | reading h => exact h

end Condition

/-! ## Sort keys -/

namespace SortKey

variable {s : SortKey} {v w : Value} {entries : List (Value × Value)}

/-- How the entries of a mapping describe a sort key; all other entries count for nothing. -/
structure IsDescribedBy (s : SortKey) (entries : List (Value × Value)) : Prop where
  field : (Value.lookup (.str "field") entries).bind (wording? id) = some s.field
  field_ne : s.field ≠ ""
  direction : (Value.lookup (.str "direction") entries).elim (some Direction.asc.text)
    (wording? Text.smalls) = some s.direction.text

theorem ofEntries_eq_ok_iff : ofEntries entries = .ok s ↔ s.IsDescribedBy entries := by
  constructor
  · intro h
    unfold ofEntries at h
    split at h
    · rename_i field direction hfield hdirection
      cases h
      obtain ⟨hfield, hne⟩ := Validation.fieldName_eq_ok_iff.mp hfield
      exact ⟨hfield, hne, Validation.direction_eq_ok_iff.mp hdirection⟩
    · cases h
  · intro h
    have hfield := Validation.fieldName_eq_ok_iff.mpr ⟨h.field, h.field_ne⟩
    have hdirection := Validation.direction_eq_ok_iff.mpr h.direction
    unfold ofEntries
    rw [hfield, hdirection]

/-- **The mappings that are read as a sort key** are those that describe it. -/
theorem ofValue_dict_iff : ofValue (.dict entries) = .ok s ↔ s.IsDescribedBy entries := by
  rw [← ofEntries_eq_ok_iff]
  show (ofEntries entries).mapError (Fault.invalid .sortKey) = .ok s ↔ _
  cases ofEntries entries <;> simp [Except.mapError]

/-- **The mapping of the fields of a valid sort key** is read as this sort key. -/
theorem ofValue_entries (h : s.field ≠ "") : ofValue (.dict s.entries) = .ok s :=
  ofValue_dict_iff.mpr (ofEntries_eq_ok_iff.mp (ofEntries_entries h))

/-- Whether one value is replaced by another as a sort: an instance by the mapping of its fields, or
what is read as a sort key by the instance. -/
inductive ReplacedBy : Value → Value → Prop
  | same (v : Value) : ReplacedBy v v
  | fields {s : SortKey} (valid : s.field ≠ "") : ReplacedBy s.toValue (.dict s.entries)
  | reading {v : Value} {s : SortKey} (h : ofValue v = .ok s) : ReplacedBy v s.toValue

theorem ReplacedBy.ofValue_eq (h : ReplacedBy v w) : ofValue v = ofValue w := by
  cases h with
  | same => rfl
  | fields valid => exact (ofValue_entries valid).symm
  | reading h => exact h

/-- Nothing is replaced by nothing only. -/
theorem ReplacedBy.null_iff (h : ReplacedBy v w) : v = .null ↔ w = .null := by
  cases h with
  | same => rfl
  | fields valid => simp [toValue]
  | reading h =>
    refine ⟨fun hv => ?_, fun hw => by cases hw⟩
    subst hv
    cases h

end SortKey

/-! ## Statements -/

namespace Statement

variable {names : FieldNames} {v w conditions conditions' sortBy sortBy' : Value} {b : Binder}

/-- Whether one sequence of conditions becomes another by replacing conditions, at any places. -/
inductive ConditionsReplacedBy : Value → Value → Prop
  | same (v : Value) : ConditionsReplacedBy v v
  | list {items items' : List Value} (h : List.Forall₂ Condition.ReplacedBy items items') :
    ConditionsReplacedBy (.list items) (.list items')
  | tuple {items items' : List Value} (h : List.Forall₂ Condition.ReplacedBy items items') :
    ConditionsReplacedBy (.tuple items) (.tuple items')

theorem clause_of_replaced (h : Condition.ReplacedBy v w) : clause names b v = clause names b w := by
  unfold clause
  rw [h.ofValue_eq]

theorem clauses_of_replaced {items items' : List Value}
    (h : List.Forall₂ Condition.ReplacedBy items items') (b : Binder) :
    clauses names items b = clauses names items' b := by
  induction h generalizing b with
  | nil => rfl
  | cons hv _ ih =>
    unfold clauses
    rw [clause_of_replaced hv]
    split
    · rfl
    · rw [ih]

theorem filter_of_replaced (h : ConditionsReplacedBy conditions conditions') (b : Binder) :
    filter names conditions b = filter names conditions' b := by
  cases h with
  | same => rfl
  | list h | tuple h =>
    have hclauses : clauses names _ b = clauses names _ b := clauses_of_replaced h b
    cases h with
    | nil => rfl
    | cons hv hrest =>
      unfold filter
      simp only [Value.isTruthy, List.isEmpty_cons, Bool.not_false, Bool.not_true,
        Bool.false_eq_true, if_false, Value.elements, Value.elements?, hclauses]

theorem orderBy_of_replaced (h : SortKey.ReplacedBy sortBy sortBy') :
    orderBy names sortBy = orderBy names sortBy' := by
  by_cases hnull : sortBy = .null
  · rw [hnull, h.null_iff.mp hnull]
  · have hread : ∀ v : Value, v ≠ .null → orderBy names v = do
        let s ← SortKey.ofValue v
        let reference ← names.reference s.field
        return "ORDER BY " ++ reference ++ " " ++ s.direction.label := by
      intro v hv
      unfold orderBy
      split
      · exact absurd rfl hv
      · rfl
    rw [hread _ hnull, hread _ (mt h.null_iff.mpr hnull), h.ofValue_eq]

theorem build_of_replaced (select : String) (window : Option Window)
    (hconditions : ConditionsReplacedBy conditions conditions')
    (hsort : SortKey.ReplacedBy sortBy sortBy') :
    build names select conditions sortBy window = build names select conditions' sortBy' window := by
  unfold build
  rw [filter_of_replaced hconditions, orderBy_of_replaced hsort]

/-- **Instances and mappings are interchangeable.**  Replacing conditions and the sort, instances by
the mappings of their fields and whatever is read as one by the instance that it is read as, leaves
the outcome of building a statement as it is: the query or the fault.  The mapping of the fields of a
valid instance is read as this instance, and a mapping is read as an instance exactly if it describes
it. -/
theorem instances_and_mappings_interchange (names : FieldNames) (select : String) (window : Option Window)
    (hconditions : ConditionsReplacedBy conditions conditions')
    (hsort : SortKey.ReplacedBy sortBy sortBy') :
    build names select conditions sortBy window =
      build names select conditions' sortBy' window ∧
    (∀ c : Condition, c.field ≠ "" → Condition.ofValue (.dict c.entries) = .ok c) ∧
    (∀ s : SortKey, s.field ≠ "" → SortKey.ofValue (.dict s.entries) = .ok s) ∧
    (∀ (c : Condition) entries,
      Condition.ofValue (.dict entries) = .ok c ↔ c.IsDescribedBy entries) ∧
    ∀ (s : SortKey) entries, SortKey.ofValue (.dict entries) = .ok s ↔ s.IsDescribedBy entries :=
  ⟨build_of_replaced select window hconditions hsort, fun _ => Condition.ofValue_entries,
    fun _ => SortKey.ofValue_entries, fun _ _ => Condition.ofValue_dict_iff,
    fun _ _ => SortKey.ofValue_dict_iff⟩

/-- A mapping with an entry too many, no operator and mixed capitals becomes an instance, an instance
becomes a mapping, and the name of the sorted field is a member of a vocabulary. -/
theorem instances_and_mappings_interchange_in_two_conditions :
    let mapping : Value := .dict [(.str "connector", .str "oR"), (.str "field", .str "a"),
      (.str "unit", .int 1), (.str "operator", .null)]
    let other : Condition := ⟨"b", .int 2, "in", .and⟩
    ∃ q, build {} (selectAll "c") (.list [mapping, other.toValue])
        (.dict [(.str "field", .operator .lt), (.str "direction", .str "Desc")]) = .ok q ∧
      build {} (selectAll "c") (.list [.condition "a" .null "eq" .or, .dict other.entries])
        (.sortKey "lt" .desc) = .ok q := by
  intro mapping other
  have hmapping : Condition.ofValue mapping = .ok ⟨"a", .null, "eq", .or⟩ :=
    Condition.ofValue_dict_iff.mpr ⟨by decide +kernel, by decide,
      by simp [Value.lookup], by decide +kernel, by decide +kernel⟩
  have hsort : SortKey.ofValue
      (.dict [(.str "field", .operator .lt), (.str "direction", .str "Desc")]) =
        .ok ⟨"lt", .desc⟩ :=
    SortKey.ofValue_dict_iff.mpr ⟨by decide +kernel, by decide, by decide +kernel⟩
  have hother : other.field ≠ "" := by decide
  have hmixed := (instances_and_mappings_interchange {} (selectAll "c") none
    (.list (.cons (.reading hmapping) (.cons (.fields hother) .nil))) (.reading hsort)).1
  have hinstances := (instances_and_mappings_interchange {} (selectAll "c") none
    (.list (.cons (.same (.condition "a" .null "eq" .or))
      (.cons (.reading (Condition.ofValue_entries hother)) .nil)))
    (.same (.sortKey "lt" .desc))).1
  obtain ⟨q, hq⟩ : ∃ q, build {} (selectAll "c")
      (.list [.condition "a" .null "eq" .or, other.toValue]) (.sortKey "lt" .desc) = .ok q :=
    ⟨_, rfl⟩
  exact ⟨q, (hmixed.trans hinstances).trans hq, hinstances.trans hq⟩

end Statement

end Docstore
