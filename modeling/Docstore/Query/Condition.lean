import Docstore.Text.Casing
import Docstore.Text.PaddedNumeral
import Docstore.Value.Mapping

/-!
# Conditions, sort keys and page windows

The inputs of a query (`Condition`, `SortBy`, `Pagination`) and their validation.  An input is given
as an instance or as a mapping of its fields (`coerce`); a mapping is validated field by field, and
all violations are reported in the order of the fields.  The operator of a condition is kept as a
text, so that an unknown one is found when the condition is compiled.

Main statement: the field mapping of a valid instance validates and gives the instance back
(`Condition.ofEntries_entries`, `SortKey.ofEntries_entries`).
-/

namespace Docstore

structure Condition where
  field : String
  operand : Value
  operator : String
  connector : Connector

structure SortKey where
  field : String
  direction : Direction
deriving DecidableEq, Repr

/-- Which part of the matches is wanted. -/
structure Window where
  limit : Int
  offset : Int
deriving DecidableEq, Repr

namespace Validation

/-- What the validation of one field finds. -/
abbrev Check (α : Type) := Except Violation α

/-- The violation of a single check. -/
def violation? {α : Type} : Check α → List Violation
  | .ok _ => []
  | .error v => [v]

/-- The text that a field is given: text, or octets in UTF-8. -/
def text (field : String) (v : Value) : Check String :=
  match v with
  | .bytes octets => match String.fromUTF8? ⟨octets.toArray⟩ with
    | some s => .ok s
    | none => .error ⟨field, .decodable, v⟩
  | _ => match v.text? with
    | some s => .ok s
    | none => .error ⟨field, .text, v⟩

/-- The name of a field, which every input has to give and which is not empty. -/
def fieldName (entries : List (Value × Value)) : Check String :=
  match Value.lookup (.str "field") entries with
  | none => .error ⟨"field", .present, .dict entries⟩
  | some v => do
    let s ← text "field" v
    if s.isEmpty then .error ⟨"field", .nonempty, v⟩ else .ok s

/-- An operator's text; equality if none is given. -/
def operator (entries : List (Value × Value)) : Check String :=
  match Value.lookup (.str "operator") entries with
  | none | some .null => .ok Operator.eq.text
  | some v => text "operator" v

/-- A member of a vocabulary that a field is given: text is brought into the vocabulary's case
first, octets have to be the text of a member as they are. -/
def member {α : Type} (field : String) (rule : Rule) (ofText? : String → Option α)
    (fitted : String → String) (v : Value) : Check α :=
  let found := fun (s : Option String) (input : Value) => match s.bind ofText? with
    | some x => Except.ok x
    | none => .error ⟨field, rule, input⟩
  match v with
  | .bytes octets => found (String.fromUTF8? ⟨octets.toArray⟩) v
  | _ => match v.text? with
    | some s => found (some (fitted s)) (.str (fitted s))
    | none => found none v

/-- A connector, in any mixture of capitals; "and" if none is given. -/
def connector (entries : List (Value × Value)) : Check Connector :=
  match Value.lookup (.str "connector") entries with
  | none | some .null => .ok .and
  | some v => member "connector" .connector Connector.ofText? Text.capitals v

/-- A direction, in any mixture of capitals; ascending if none is given. -/
def direction (entries : List (Value × Value)) : Check Direction :=
  match Value.lookup (.str "direction") entries with
  | none => .ok .asc
  | some v => member "direction" .direction Direction.ofText? Text.smalls v

/-- The integer that a field's text says; very long ones are not read. -/
def integerText (field : String) (v : Value) (s : String) : Check Int :=
  match Text.readPadded s.toList with
  | .number n => .ok n
  | .notNumeral => .error ⟨field, .numeral, v⟩
  | .tooLong _ => .error ⟨field, .inRange, v⟩

/-- The integer that a field is given: an integer, a truth value, a number without a fraction, or
text that says one.  Floating-point numbers are taken below two to the 63. -/
def integer (field : String) (v : Value) : Check Int :=
  match v with
  | .int n => .ok n
  | .bool b => .ok (if b then 1 else 0)
  | .float x _ => match x.truncate? with
    | none => .error ⟨field, .finite, v⟩
    | some n =>
      if !x.isWhole then .error ⟨field, .whole, v⟩
      else if n.natAbs < Nat.pow 2 63 then .ok n else .error ⟨field, .inRange, v⟩
  | .decimal d _ => match d.truncate? with
    | none => .error ⟨field, .finite, v⟩
    | some n => if d.isWhole then .ok n else .error ⟨field, .whole, v⟩
  | .bytes octets => match String.fromUTF8? ⟨octets.toArray⟩ with
    | some s => integerText field v s
    | none => .error ⟨field, .numeral, v⟩
  | _ => match v.text? with
    | some s => integerText field v s
    | none => .error ⟨field, .integer, v⟩

/-- An integer that satisfies a rule. -/
def integerWith (field : String) (rule : Rule) (holds : Int → Bool) (v : Value) : Check Int := do
  let n ← integer field v
  if holds n then .ok n else .error ⟨field, rule, v⟩

end Validation

namespace Condition

def entries (c : Condition) : List (Value × Value) :=
  [(.str "field", .str c.field), (.str "value", c.operand), (.str "operator", .str c.operator),
    (.str "connector", .connector c.connector)]

def toValue (c : Condition) : Value :=
  .condition c.field c.operand c.operator c.connector

/-- Validates a mapping of the fields of a condition. -/
def ofEntries (entries : List (Value × Value)) : Except (List Violation) Condition :=
  let operand := (Value.lookup (.str "value") entries).getD .null
  match Validation.fieldName entries, Validation.operator entries,
    Validation.connector entries with
  | .ok field, .ok operator, .ok connector => .ok ⟨field, operand, operator, connector⟩
  | f, o, c =>
    .error (Validation.violation? f ++ Validation.violation? o ++ Validation.violation? c)

theorem lookup_entries (c : Condition) :
    Value.lookup (.str "field") c.entries = some (.str c.field) ∧
    Value.lookup (.str "value") c.entries = some c.operand ∧
    Value.lookup (.str "operator") c.entries = some (.str c.operator) ∧
    Value.lookup (.str "connector") c.entries = some (.connector c.connector) := by
  simp [Value.lookup, entries, List.find?]

/-- The fields of a condition validate and give the condition back. -/
theorem ofEntries_entries {c : Condition} (h : c.field ≠ "") : ofEntries c.entries = .ok c := by
  obtain ⟨hfield, hvalue, hoperator, hconnector⟩ := lookup_entries c
  have hcapitals : Text.capitals c.connector.text = c.connector.text := by
    cases c.connector <;> decide +kernel
  have hf : Validation.fieldName c.entries = .ok c.field := by
    simp [Validation.fieldName, hfield, Validation.text, Value.text?, bind, Except.bind, h]
  have ho : Validation.operator c.entries = .ok c.operator := by
    simp [Validation.operator, hoperator, Validation.text, Value.text?]
  have hc : Validation.connector c.entries = .ok c.connector := by
    simp [Validation.connector, Validation.member, hconnector, Value.text?, hcapitals,
      Connector.ofText?_text]
  simp [ofEntries, hf, ho, hc, hvalue]

/-- The condition that a value is or describes. -/
def ofValue (v : Value) : Except Fault Condition :=
  match v with
  | .condition field operand operator connector => .ok ⟨field, operand, operator, connector⟩
  | _ => do
    let entries ← v.mapping
    (ofEntries entries).mapError (.invalid .condition)

end Condition

namespace SortKey

def entries (s : SortKey) : List (Value × Value) :=
  [(.str "field", .str s.field), (.str "direction", .direction s.direction)]

def toValue (s : SortKey) : Value :=
  .sortKey s.field s.direction

/-- Validates a mapping of the fields of a sort key. -/
def ofEntries (entries : List (Value × Value)) : Except (List Violation) SortKey :=
  match Validation.fieldName entries, Validation.direction entries with
  | .ok field, .ok direction => .ok ⟨field, direction⟩
  | f, d => .error (Validation.violation? f ++ Validation.violation? d)

theorem lookup_entries (s : SortKey) :
    Value.lookup (.str "field") s.entries = some (.str s.field) ∧
    Value.lookup (.str "direction") s.entries = some (.direction s.direction) := by
  simp [Value.lookup, entries, List.find?]

/-- The fields of a sort key validate and give the sort key back. -/
theorem ofEntries_entries {s : SortKey} (h : s.field ≠ "") : ofEntries s.entries = .ok s := by
  obtain ⟨hfield, hdirection⟩ := lookup_entries s
  have hsmalls : Text.smalls s.direction.text = s.direction.text := by
    cases s.direction <;> decide +kernel
  have hf : Validation.fieldName s.entries = .ok s.field := by
    simp [Validation.fieldName, hfield, Validation.text, Value.text?, bind, Except.bind, h]
  have hd : Validation.direction s.entries = .ok s.direction := by
    simp [Validation.direction, Validation.member, hdirection, Value.text?, hsmalls,
      Direction.ofText?_text]
  simp [ofEntries, hf, hd]

/-- The sort key that a value is or describes. -/
def ofValue (v : Value) : Except Fault SortKey :=
  match v with
  | .sortKey field direction => .ok ⟨field, direction⟩
  | _ => do
    let entries ← v.mapping
    (ofEntries entries).mapError (.invalid .sortKey)

end SortKey

namespace Window

def defaultLimit : Int := 100

/-- Validates a limit and an offset, where either may be left to its default. -/
def ofValues (limit offset : Option Value) : Except (List Violation) Window :=
  let limit : Validation.Check Int := match limit with
    | none => .ok defaultLimit
    | some v => Validation.integerWith "limit" .positive (0 < ·) v
  let offset : Validation.Check Int := match offset with
    | none => .ok 0
    | some v => Validation.integerWith "offset" .nonnegative (0 ≤ ·) v
  match limit, offset with
  | .ok l, .ok o => .ok ⟨l, o⟩
  | l, o => .error (Validation.violation? l ++ Validation.violation? o)

end Window

end Docstore
