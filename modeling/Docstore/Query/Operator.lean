/-!
# Operators, connectors and directions

The ten filter operators (`FilterOperator`), the two connectors that join conditions (`Connector`),
and the two sort directions (`SortDirection`), each with the text that stands for it in queries.

Main statements: an operator is found again by its text (`Operator.ofText?_text`), and only texts of
operators find one (`Operator.text_of_ofText?`); likewise for connectors and directions.
-/

namespace Docstore

inductive Operator where
  | eq
  | ne
  | lt
  | lte
  | gt
  | gte
  | startsWith
  | endsWith
  | contains
  | isIn
deriving DecidableEq, Repr

/-- What joins a condition to the conditions before it. -/
inductive Connector where
  | and
  | or
deriving DecidableEq, Repr

inductive Direction where
  | asc
  | desc
deriving DecidableEq, Repr

namespace Operator

/-- All operators, in the order in which messages name them. -/
def all : List Operator :=
  [eq, ne, lt, lte, gt, gte, startsWith, endsWith, contains, isIn]

def text : Operator → String
  | eq => "eq"
  | ne => "ne"
  | lt => "lt"
  | lte => "lte"
  | gt => "gt"
  | gte => "gte"
  | startsWith => "starts_with"
  | endsWith => "ends_with"
  | contains => "contains"
  | isIn => "in"

/-- The name under which messages show an operator. -/
def label : Operator → String
  | eq => "EQ"
  | ne => "NE"
  | lt => "LT"
  | lte => "LTE"
  | gt => "GT"
  | gte => "GTE"
  | startsWith => "STARTS_WITH"
  | endsWith => "ENDS_WITH"
  | contains => "CONTAINS"
  | isIn => "IN"

def ofText? (s : String) : Option Operator :=
  all.find? (·.text == s)

def texts : List String :=
  all.map text

theorem ofText?_text (op : Operator) : ofText? op.text = some op := by
  cases op <;> decide

theorem text_of_ofText? {s : String} {op : Operator} (h : ofText? s = some op) : op.text = s := by
  simpa using List.find?_some h

end Operator

namespace Connector

def text : Connector → String
  | and => "AND"
  | or => "OR"

def ofText? (s : String) : Option Connector :=
  [and, or].find? (·.text == s)

theorem ofText?_text (c : Connector) : ofText? c.text = some c := by
  cases c <;> decide

theorem text_of_ofText? {s : String} {c : Connector} (h : ofText? s = some c) : c.text = s := by
  simpa using List.find?_some h

end Connector

namespace Direction

def text : Direction → String
  | asc => "asc"
  | desc => "desc"

/-- The word for a direction in a statement, which messages show too. -/
def label : Direction → String
  | asc => "ASC"
  | desc => "DESC"

def ofText? (s : String) : Option Direction :=
  [asc, desc].find? (·.text == s)

theorem ofText?_text (d : Direction) : ofText? d.text = some d := by
  cases d <;> decide

theorem text_of_ofText? {s : String} {d : Direction} (h : ofText? s = some d) : d.text = s := by
  simpa using List.find?_some h

end Direction

end Docstore
