import Docstore.Query.Condition
import Docstore.Query.FieldNames
import Docstore.Query.Fragment

/-!
# Statements

A statement is a selection, a filter, a sort and a page window, in this order and joined by single
spaces, where a part that is not wanted is left out (`CosmosQueryBuilder`).  Every literal, those of
the page window included, is bound to a placeholder.

The filter starts with a condition that always holds, so that every condition can carry the
connector that joins it to those before it.  Its conditions are validated and compiled one after the
other; when one fails, those before it stay bound.
-/

namespace Docstore

/-- A statement and the parameters that its placeholders stand for (`QuerySpec`). -/
structure Query where
  statement : String
  parameters : List Parameter

namespace Statement

def selectAll (aliasName : String) : String :=
  "SELECT * FROM " ++ aliasName

def selectCount (aliasName : String) : String :=
  "SELECT VALUE COUNT(1) FROM " ++ aliasName

/-- Selects some fields, under the names the store knows. -/
def selectFields (aliasName : String) (fields : List String) : String :=
  "SELECT " ++ ", ".intercalate (fields.map fun f => aliasName ++ "." ++ f) ++ " FROM " ++ aliasName

/-- The condition that always holds. -/
def anchor : String := "WHERE 1=1"

/-- The clause of one condition: its connector and its fragment. -/
def clause (names : FieldNames) (b : Binder) (v : Value) : Except Fault (String × Binder) := do
  let c ← Condition.ofValue v
  let reference ← names.reference c.field
  let (compiled, b') ← b.compile reference c.operator c.operand
  return (c.connector.text ++ " " ++ compiled.fragment, b')

/-- The clauses of conditions, and the binder after the last one that was compiled. -/
def clauses (names : FieldNames) : List Value → Binder → Except Fault (List String) × Binder
  | [], b => (.ok [], b)
  | v :: rest, b =>
    match clause names b v with
    | .error e => (.error e, b)
    | .ok (text, b') =>
      match clauses names rest b' with
      | (.error e, b'') => (.error e, b'')
      | (.ok texts, b'') => (.ok (text :: texts), b'')

/-- The filter of a statement (`build_where`); nothing if there are no conditions. -/
def filter (names : FieldNames) (conditions : Value) (b : Binder) :
    Except Fault String × Binder :=
  if !conditions.isTruthy then (.ok "", b)
  else match conditions.elements with
    | .error e => (.error e, b)
    | .ok items =>
      match clauses names items b with
      | (.error e, b') => (.error e, b')
      | (.ok texts, b') => (.ok (" ".intercalate (anchor :: texts)), b')

/-- The sort of a statement (`build_order_by`); nothing if no sort key is given. -/
def orderBy (names : FieldNames) (sortBy : Value) : Except Fault String :=
  match sortBy with
  | .null => .ok ""
  | v => do
    let s ← SortKey.ofValue v
    let reference ← names.reference s.field
    return "ORDER BY " ++ reference ++ " " ++ s.direction.label

/-- The page window of a statement (`build_pagination`): the offset is bound first. -/
def page (window : Option Window) (b : Binder) : Except Fault String × Binder :=
  match window with
  | none => (.ok "", b)
  | some w =>
    match b.bind (.int w.offset) with
    | .error e => (.error e, b)
    | .ok (offset, b') =>
      match b'.bind (.int w.limit) with
      | .error e => (.error e, b')
      | .ok (limit, b'') => (.ok ("OFFSET " ++ offset ++ " LIMIT " ++ limit), b'')

/-- The parts that are not empty, joined by spaces. -/
def joined (parts : List String) : String :=
  " ".intercalate (parts.filter (!·.isEmpty))

/-- Builds a statement, with a binder of its own. -/
def build (names : FieldNames) (select : String) (conditions : Value := .null)
    (sortBy : Value := .null) (window : Option Window := none) : Except Fault Query := do
  let (filtered, b) := filter names conditions {}
  let filterText ← filtered
  let sortText ← orderBy names sortBy
  let (paged, b') := page window b
  let pageText ← paged
  return ⟨joined [select, filterText, sortText, pageText], b'.parameters⟩

end Statement

end Docstore
