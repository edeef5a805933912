import Docstore.Value.Reading

/-!
# Bulk operations

A bulk operation (`BulkOperation`) writes to a single document: it replaces the document by a
payload or deletes it.  Each kind has the status that a store reports when it succeeds.
-/

namespace Docstore

/-- The kinds of bulk operations. -/
inductive WriteKind where
  | replace
  | delete
deriving DecidableEq, Repr

namespace WriteKind

/-- The word for a kind in messages. -/
def text : WriteKind → String
  | replace => "replace"
  | delete => "delete"

/-- The word for a kind in the data of an operation. -/
def title : WriteKind → String
  | replace => "Replace"
  | delete => "Delete"

def ofText? (s : String) : Option WriteKind :=
  [replace, delete].find? (·.text == s)

def read (v : Value) : Except Fault WriteKind :=
  Value.readMember "BulkOperationKind" ofText? v

/-- The status of success. -/
def expectedStatus : WriteKind → Int
  | replace => 200
  | delete => 204

end WriteKind

/-- A write to a single document. -/
structure Operation where
  kind : WriteKind
  documentKey : Value
  partitionKey : Value
  payload : Option Value

/-- An operation as data (`to_dict`); only an operation with a payload has a body. -/
def Operation.report (o : Operation) : Value :=
  .dict <|
    [(.str "operationType", .str o.kind.title), (.str "id", o.documentKey),
      (.str "partitionKey", o.partitionKey)]
    ++ match o.payload with
       | some body => [(.str "resourceBody", body)]
       | none => []

end Docstore
