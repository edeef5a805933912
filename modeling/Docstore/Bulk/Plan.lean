import Docstore.Bulk.Mutation
import Docstore.Bulk.Operation

/-!
# Plans

A planner (`BulkOperationPlanner`) turns documents that were matched into bulk operations.  It knows
which field identifies a document and how the partition key is taken from one; by default the
identifier is the partition key.  A replacement is planned only for a document that the mutation
changes, and it writes the document as changed (`plan_replace`); a deletion is planned for every
document (`plan_delete`).
-/

namespace Docstore

/-- Takes the partition key from a document. -/
abbrev PartitionKey := Value → Except Fault Value

namespace PartitionKey

def ofField (field : Value) : PartitionKey :=
  fun document => document.part field

/-- The values of several fields, as a list. -/
def ofFields (fields : List Value) : PartitionKey :=
  fun document => return .list (← fields.mapM fun f => document.part f)

/-- The value of a field, or nothing where it is missing. -/
def ofOptionalField (field : Value) : PartitionKey :=
  fun document => do
    let entries ← document.entries
    if field.isKey then return (Value.lookup field entries).getD .null
    else .error (.wrongType none)

def constant (key : Value) : PartitionKey :=
  fun _ => .ok key

end PartitionKey

/-- How documents are identified. -/
structure Planner where
  idField : Value
  partitionKey : Option PartitionKey

namespace Planner

def documentKeyOf (p : Planner) (document : Value) : Except Fault Value :=
  document.part p.idField

def partitionKeyOf (p : Planner) (document : Value) : Except Fault Value :=
  match p.partitionKey with
  | some f => f document
  | none => p.documentKeyOf document

/-- The replacement of a document, if the mutation changes it. -/
def replacement (p : Planner) (mutation document : Value) : Except Fault (Option Operation) := do
  let (fields, changed) ← Mutation.apply document mutation
  if changed then
    let updated := Value.dict fields
    let key ← p.documentKeyOf updated
    let partition ← p.partitionKeyOf updated
    return some ⟨.replace, key, partition, some updated⟩
  else return none

def deletion (p : Planner) (document : Value) : Except Fault Operation := do
  let key ← p.documentKeyOf document
  let partition ← p.partitionKeyOf document
  return ⟨.delete, key, partition, none⟩

/-- The replacements of the documents that a mutation changes, in order. -/
def replacements (p : Planner) (mutation : Value) (documents : List Value) :
    Except Fault (List Operation) :=
  return (← documents.mapM (p.replacement mutation)).filterMap id

def deletions (p : Planner) (documents : List Value) : Except Fault (List Operation) :=
  documents.mapM p.deletion

/-- The operations of a kind on documents; an empty mutation is as good as none. -/
def plan (p : Planner) (kind : WriteKind) (documents : List Value) (mutation : Value) :
    Except Fault (List Operation) :=
  match kind with
  | .replace => p.replacements (if mutation.isTruthy then mutation else .dict []) documents
  | .delete => p.deletions documents

end Planner

end Docstore
