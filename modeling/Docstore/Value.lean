import Docstore.Calendar.Timestamp
import Docstore.Number.Exact
import Docstore.Query.Operator
import Docstore.Uuid

/-!
# Values

The values that callers hand in and stores give back.  A set carries the order in which its elements
are enumerated, a dictionary the order in which its keys were first set; neither holds two equal
elements or keys.  Filter conditions and sort keys are values too, since callers may pass them where
data are expected.

A number carries which object it is.  This matters for not-a-number alone, which differs from itself
as a number: a container takes an object for equal to itself.

Two small views serve the rest of the library: the text that a value is (`text?`) and the number
that it is (`number?`).
-/

namespace Docstore

/-- The object that a floating-point number is: one that was handed in, or one made by converting the
object of a decimal number. -/
inductive FloatObject where
  | given (number : Nat)
  | ofDecimal (number : Nat)
deriving DecidableEq, Repr

inductive Value where
  | null
  | bool (b : Bool)
  | int (n : Int)
  | float (x : Binary64) (object : FloatObject)
  | decimal (d : Decimal) (object : Nat)
  | str (s : String)
  | timestamp (t : Timestamp)
  | date (d : Date)
  | uuid (u : Uuid)
  | bytes (octets : List UInt8)
  | list (items : List Value)
  | tuple (items : List Value)
  /-- A set, frozen or not, in the order in which it is enumerated. -/
  | set (frozen : Bool) (items : List Value)
  /-- A dictionary, in the order in which its keys were first set. -/
  | dict (entries : List (Value × Value))
  | operator (op : Operator)
  | connector (c : Connector)
  | direction (d : Direction)
  /-- A filter condition: a field, an operand, an operator's text and a connector. -/
  | condition (field : String) (operand : Value) (operator : String) (connector : Connector)
  | sortKey (field : String) (direction : Direction)
deriving Inhabited

namespace Value

/-- The text that a value is: a string, or the text of an operator, connector or direction. -/
def text? : Value → Option String
  | .str s => some s
  | .operator op => some op.text
  | .connector c => some c.text
  | .direction d => some d.text
  | _ => none

/-- The number that a value is; truth values count as one and zero. -/
def number? : Value → Option Number
  | .bool b => some (.exact (.ofInt (if b then 1 else 0)))
  | .int n => some (.exact (.ofInt n))
  | .float x _ => some (.ofBinary64 x)
  | .decimal d _ => some (.ofDecimal d)
  | _ => none

/-- The whole number that a value is; truth values count as one and zero. -/
def whole? : Value → Option Int
  | .int n => some n
  | .bool b => some (if b then 1 else 0)
  | _ => none

def typeName : Value → String
  | .null => "NoneType"
  | .bool _ => "bool"
  | .int _ => "int"
  | .float .. => "float"
  | .decimal .. => "Decimal"
  | .str _ => "str"
  | .timestamp _ => "datetime"
  | .date _ => "date"
  | .uuid _ => "UUID"
  | .bytes _ => "bytes"
  | .list _ => "list"
  | .tuple _ => "tuple"
  | .set frozen _ => if frozen then "frozenset" else "set"
  | .dict _ => "dict"
  | .operator _ => "FilterOperator"
  | .connector _ => "Connector"
  | .direction _ => "SortDirection"
  | .condition .. => "Condition"
  | .sortKey .. => "SortBy"

/-- The name of a value's type, with the module that it belongs to where it has one. -/
def fullTypeName (v : Value) : String :=
  match v with
  | .decimal .. => "decimal." ++ v.typeName
  | .timestamp _ | .date _ => "datetime." ++ v.typeName
  | _ => v.typeName

/-- Whether a value counts as true: nothing, zero and what is empty do not. -/
def isTruthy : Value → Bool
  | .null => false
  | .bool b => b
  | .int n => n != 0
  | .float x _ => !x.isZero
  | .decimal d _ => !d.isZero
  | .str s => !s.isEmpty
  | .bytes octets => !octets.isEmpty
  | .list items | .tuple items | .set _ items => !items.isEmpty
  | .dict entries => !entries.isEmpty
  | _ => true

/-- The fields of a condition or a sort key, by name. -/
def fields? : Value → Option (List (Value × Value))
  | .condition field operand op joined =>
    some [(.str "field", .str field), (.str "value", operand), (.str "operator", .str op),
      (.str "connector", .connector joined)]
  | .sortKey field order =>
    some [(.str "field", .str field), (.str "direction", .direction order)]
  | _ => none

/-- The characters of a text, each as a text. -/
def characters (s : String) : List Value :=
  s.toList.map fun c => .str (String.singleton c)

/-- The elements that a value is enumerated into: a text by characters, octets by their codes, a
dictionary by its keys, a condition or sort key by its named fields. -/
def elements? : Value → Option (List Value)
  | .list items | .tuple items | .set _ items => some items
  | .dict entries => some (entries.map (·.1))
  | .bytes octets => some (octets.map fun o => .int o.toNat)
  | v => match v.text? with
    | some s => some (characters s)
    | none => v.fields?.map (·.map fun (name, value) => .tuple [name, value])

mutual

/-- Whether a value may be the key of a dictionary or an element of a set: all but lists, sets that
are not frozen, dictionaries, signaling numbers, and what contains one of these. -/
def isKey : Value → Bool
  | .list _ => false
  | .set frozen items => frozen && areKeys items
  | .dict _ => false
  | .decimal d _ => !d.isSignaling
  | .tuple items => areKeys items
  | .condition _ operand _ _ => operand.isKey
  | _ => true

def areKeys : List Value → Bool
  | [] => true
  | v :: rest => v.isKey && areKeys rest

end

end Value

end Docstore
