import Docstore.Fault.Message
import Docstore.Trace

/-!
# The boundary to a store

Faults that a store raises become refusals of the library at its boundary (`store_errors`): a
timeout becomes a timeout of the store, any other error of the remote service a rejected action.
Refusals pass unchanged, and so do faults that did not come from the store, where they can be put
into words.
-/

namespace Docstore

/-- What a store is asked for, as messages and refusals name it. -/
structure Action where
  name : String
deriving DecidableEq, Repr

namespace Action

def create : Action := ⟨"create"⟩

def query : Action := ⟨"query"⟩

def update : Action := ⟨"update"⟩

def delete : Action := ⟨"delete"⟩

def ofKind : WriteKind → Action
  | .replace => update
  | .delete => delete

/-- What is being done; an action that is not known speaks for itself. -/
def verb (a : Action) : String :=
  if a = create then "creating"
  else if a = update then "updating"
  else if a = delete then "deleting"
  else if a = query then "querying"
  else a.name

end Action

namespace Fault

/-- The message that a fault carries apart from its wording. -/
def attached? : Fault → Option Value
  | service e => some (.str e.message)
  | refusal (.persistence message _ _) => some message
  | refusal (.storeTimeout message _ _) => some message
  | _ => none

/-- What a refusal tells about the fault that it is made from; nothing if that has no words. -/
def detail (f : Fault) : Except Fault Value :=
  let attached := f.attached?.getD .null
  if attached.isTruthy then .ok attached
  else do
    let words ← f.message
    return if words.isEmpty then .null else .str words

/-- The refusal of a fault that tells some detail, if it is the store's fault. -/
def refusalWith? (action : Action) (f : Fault) (detail : Value) : Option Refusal :=
  if f.isTimeout then
    some (.storeTimeout (.str ("Timeout " ++ action.verb ++ " item in the database.")) detail
      (.str action.name))
  else match f with
    | service _ =>
      some (.persistence (.str ("Error " ++ action.verb ++ " item in the database.")) detail
        (.str action.name))
    | _ => none

/-- The refusal that a store's fault becomes (`translate_store_error`).  The words of the fault are
taken first, whether or not it is the store's, and the words of the refusal with its making. -/
def refusal? (action : Action) (f : Fault) : Except Fault (Option Refusal) := do
  let detail ← f.detail
  match f.refusalWith? action detail with
  | some r => do
    let _ ← r.message
    return some r
  | none => return none

end Fault

namespace Failure

/-- A failure as it leaves the boundary (`store_errors`): one that cannot be put into words is
replaced by the fault of that. -/
def recast (action : Action) (e : Failure) : Failure :=
  match e.fault with
  | .refusal _ => e
  | f => match f.refusal? action with
    | .ok (some r) => ⟨.refusal r, some f⟩
    | .ok none => e
    | .error g => ⟨g, none⟩

end Failure

/-- A run at the boundary: its failure is recast. -/
def Run.guarded {α : Type} (action : Action) (x : Run α) : Run α :=
  ⟨x.outcome.mapError (·.recast action), x.events⟩

end Docstore
