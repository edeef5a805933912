import Docstore.Query.Binder
import Docstore.Query.Suggestion

/-!
# Fragments

The piece of a filter that one condition becomes (`compile_condition`): a comparison
`field symbol placeholder` (`compile_comparison`), a call of a string function on the field and the
placeholder (`compile_string`), or the search of an array, where the placeholder comes first
(`compile_array`).

Main statement: every operator belongs to exactly one of the three forms (`families_exclusive`).
-/

namespace Docstore

/-- How an operator is written in a statement. -/
inductive Form where
  /-- A symbol between the field and the placeholder. -/
  | symbol (text : String)
  /-- A function of the field and the placeholder. -/
  | function (name : String)
  /-- The search of the placeholder's array for the field. -/
  | membership
deriving DecidableEq, Repr

def Operator.form : Operator → Form
  | eq => .symbol "="
  | ne => .symbol "!="
  | lt => .symbol "<"
  | lte => .symbol "<="
  | gt => .symbol ">"
  | gte => .symbol ">="
  | startsWith => .function "STARTS_WITH"
  | endsWith => .function "ENDS_WITH"
  | contains => .function "CONTAINS"
  | isIn => .membership

namespace Fragment

def comparison? (op : Operator) (field placeholder : String) : Option String :=
  match op.form with
  | .symbol text => some (field ++ " " ++ text ++ " " ++ placeholder)
  | _ => none

def function? (op : Operator) (field placeholder : String) : Option String :=
  match op.form with
  | .function name => some (name ++ "(" ++ field ++ ", " ++ placeholder ++ ")")
  | _ => none

def membership? (op : Operator) (field placeholder : String) : Option String :=
  match op.form with
  | .membership => some ("ARRAY_CONTAINS(" ++ placeholder ++ ", " ++ field ++ ")")
  | _ => none

/-- The fragment of an operator, whatever its form. -/
def text (op : Operator) (field placeholder : String) : String :=
  match op.form with
  | .symbol symbol => field ++ " " ++ symbol ++ " " ++ placeholder
  | .function name => name ++ "(" ++ field ++ ", " ++ placeholder ++ ")"
  | .membership => "ARRAY_CONTAINS(" ++ placeholder ++ ", " ++ field ++ ")"

/-- Exactly one form gives a fragment, and it is the fragment of the operator. -/
theorem families_exclusive (op : Operator) (field placeholder : String) :
    [comparison? op field placeholder, function? op field placeholder,
      membership? op field placeholder].filterMap id = [text op field placeholder] := by
  cases op <;> rfl

end Fragment

namespace Operator

/-- The operator that a value names (`resolve_operator`); a member of the vocabulary stands for itself. -/
def resolve (v : Value) : Except Fault Operator :=
  match v with
  | .operator op => .ok op
  | _ => match v.text?.bind ofText? with
    | some op => .ok op
    | none => do
      let name ← v.plainText
      .error (.refusal (.ofOperatorText name (texts.map .str)))

/-- What an operator compares with: the search of an array takes the elements of a collection, or a
single value as the only element. -/
def operand (op : Operator) (v : Value) : Value :=
  match op with
  | isIn => match v with
    | .list items | .tuple items | .set _ items => .list items
    | _ => .list [v]
  | _ => v

end Operator

/-- A fragment and the parameter it refers to. -/
structure CompiledCondition where
  fragment : String
  parameter : Parameter

/-- Compiles an operator's text on a field and an operand; the operator is looked up before the
literal is bound. -/
def Binder.compile (b : Binder) (field operator : String) (operand : Value) :
    Except Fault (CompiledCondition × Binder) := do
  let op ← Operator.resolve (.str operator)
  let (placeholder, b') ← b.bind (op.operand operand)
  let parameter ← b'.parameter placeholder
  return (⟨Fragment.text op field placeholder, parameter⟩, b')

end Docstore
