import Docstore.Service.Container

/-!
# Scripted stores

Stores that answer as a script says, for examples and trials.  A script lists pages or failures for
queries, gives the answers to writes, and says which calls fail.  The same script serves as a
container of its own and as the client of the remote service.
-/

namespace Docstore

/-- What happens when a page is asked for. -/
inductive ScriptedPage where
  | items (documents : List Value)
  /-- The page does not come. -/
  | failure (e : Failure)
  /-- The page comes, but what it holds cannot be read. -/
  | unreadable (e : Failure)

/-- How a store answers. -/
structure Script where
  pages : List ScriptedPage := []
  /-- The pages for statements that count, if they differ. -/
  countPages : Option (List ScriptedPage) := none
  /-- The answer to a creation; if there is none, the document itself. -/
  created : Option Value := none
  /-- The answer to a replacement; if there is none, the document itself. -/
  replaced : Option Value := none
  /-- The statuses of a batch; if there are none, success for every operation. -/
  statuses : Option Value := none
  onCreate : Option Failure := none
  onQuery : Option Failure := none
  onReplace : Option Failure := none
  onDelete : Option Failure := none
  onBulk : Option Failure := none
  /-- The writes that fail, by the text that identifies the document. -/
  onItem : List (String × Failure) := []

namespace Script

/-- An answer, unless a failure is due. -/
def orFailure {α : Type} (failure : Option Failure) (answer : α) : Except Failure α :=
  match failure with
  | some e => .error e
  | none => .ok answer

def stream : List ScriptedPage → PageStream
  | [] => .done
  | .items documents :: rest => .page documents (stream rest)
  | .failure e :: _ => .broken false e
  | .unreadable e :: _ => .broken true e

/-- The pages that answer a statement. -/
def answer (s : Script) (q : Query) : PageStream :=
  match s.onQuery with
  | some e => .broken false e
  | none => match s.countPages with
    | some pages =>
      if "SELECT VALUE COUNT(1)".toList.isPrefixOf q.statement.toList then stream pages
      else stream s.pages
    | none => stream s.pages

/-- The failure that is due for a write to a document. -/
def itemFailure (s : Script) (item : Value) : Option Failure :=
  item.text?.bind fun name => s.onItem.lookup name

def create (s : Script) (body : Value) : Except Failure Value :=
  orFailure s.onCreate (s.created.getD body)

def replace (s : Script) (item body : Value) : Except Failure Value :=
  orFailure ((s.itemFailure item).or s.onReplace) (s.replaced.getD body)

def delete (s : Script) (item : Value) : Except Failure Unit :=
  orFailure ((s.itemFailure item).or s.onDelete) ()

def bulk (s : Script) (operations : List Operation) : Except Failure Value :=
  orFailure s.onBulk (s.statuses.getD (.list (operations.map fun o => .int o.kind.expectedStatus)))

def toContainer (s : Script) (name : String) : Container where
  name := name
  create body := ⟨s.create body, []⟩
  query q _ := s.answer q
  replace item _ body := ⟨s.replace item body, []⟩
  delete item _ := ⟨s.delete item, []⟩
  bulk operations := ⟨s.bulk operations, []⟩

def toService (s : Script) (name : String) : ServiceContainer where
  name := name
  create := s.create
  query q _ := s.answer q
  replace := s.replace
  delete item _ := s.delete item

end Script

end Docstore
