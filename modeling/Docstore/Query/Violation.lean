import Docstore.Value

/-!
# Violations

What validation finds wrong with the fields of a query input (`Condition`, `SortBy`, `Pagination`).
Each violation names the field, the rule that it breaks and the value that was given.
-/

namespace Docstore

inductive Subject where
  | condition
  | sortKey
  | window
deriving DecidableEq, Repr

def Subject.title : Subject → String
  | condition => "Condition"
  | sortKey => "SortBy"
  | window => "Pagination"

/-- The rules for the fields of query inputs. -/
inductive Rule where
  | present
  /-- The value is text, or octets. -/
  | text
  /-- The octets are text in UTF-8. -/
  | decodable
  | nonempty
  /-- The value is a connector or its text. -/
  | connector
  /-- The value is a direction or its text. -/
  | direction
  /-- The value has a type that integers are read from. -/
  | integer
  /-- The text is an integer numeral. -/
  | numeral
  | whole
  | finite
  /-- The number is in the range that is converted. -/
  | inRange
  | positive
  | nonnegative
deriving DecidableEq, Repr

namespace Rule

/-- The short name of the breach of a rule. -/
def code : Rule → String
  | present => "missing"
  | text => "string_type"
  | decodable => "string_unicode"
  | nonempty => "string_too_short"
  | connector | direction => "enum"
  | integer => "int_type"
  | numeral => "int_parsing"
  | whole => "int_from_float"
  | finite => "finite_number"
  | inRange => "int_parsing_size"
  | positive => "greater_than"
  | nonnegative => "greater_than_equal"

/-- The texts that a rule expects, as its message gives them. -/
def expected : Rule → String
  | connector => "'AND' or 'OR'"
  | direction => "'asc' or 'desc'"
  | _ => ""

def message : Rule → String
  | present => "Field required"
  | text => "Input should be a valid string"
  | decodable => "Input should be a valid string, unable to parse raw data as a unicode string"
  | nonempty => "String should have at least 1 character"
  | connector => "Input should be " ++ expected .connector
  | direction => "Input should be " ++ expected .direction
  | integer => "Input should be a valid integer"
  | numeral => "Input should be a valid integer, unable to parse string as an integer"
  | whole => "Input should be a valid integer, got a number with a fractional part"
  | finite => "Input should be a finite number"
  | inRange => "Unable to parse input string as an integer, exceeded maximum size"
  | positive => "Input should be greater than 0"
  | nonnegative => "Input should be greater than or equal to 0"

/-- The bounds and expected texts of a rule. -/
def context : Rule → List (Value × Value)
  | nonempty => [(.str "min_length", .int 1)]
  | connector => [(.str "expected", .str (expected .connector))]
  | direction => [(.str "expected", .str (expected .direction))]
  | positive => [(.str "gt", .int 0)]
  | nonnegative => [(.str "ge", .int 0)]
  | _ => []

end Rule

/-- A field that breaks a rule, and the value it was given. -/
structure Violation where
  field : String
  rule : Rule
  input : Value

/-- A violation as data, with a context only where the rule has one. -/
def Violation.report (v : Violation) : Value :=
  .dict <|
    [(.str "type", .str v.rule.code), (.str "loc", .tuple [.str v.field]),
      (.str "msg", .str v.rule.message), (.str "input", v.input)]
    ++ if v.rule.context.isEmpty then [] else [(.str "ctx", .dict v.rule.context)]

end Docstore
