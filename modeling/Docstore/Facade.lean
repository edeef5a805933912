import Docstore.Bulk.Plan
import Docstore.Bulk.Tally
import Docstore.Store.Registry

/-!
# The facade

Creating, finding, counting, updating and deleting documents of named models (`CosmosAdapter`).
Every call builds its own statement and its own plan, and makes one query and one write at most.
What a store raises is recast at the boundary; what is wrong with the arguments of a call is raised
before the store is asked for anything.

`attempt` turns the refusals of a call into a result.
-/

namespace Docstore

structure Config where
  /-- Whether models are also looked for under their plural: whatever counts as true says so. -/
  usePlural : Value
  defaultLimit : Value
  /-- The alias of the container, which statements give by its text. -/
  aliasName : Value
  idField : Value
  /-- Takes the partition key from a document; without it the identifier is the partition key. -/
  partitionKey : Option PartitionKey

namespace Config

def checkLimit (limit : Value) : Except Fault Unit :=
  match limit with
  | .decimal (.nan ..) _ => .error .refusedComparison
  | _ => match limit.number? with
    | none => .error (.wrongType none)
    | some n => if n.isNonpositive then .error (.flawed .defaultLimit) else .ok ()

/-- The settings with a given default limit, which has to be positive (`CosmosAdapterConfig`). -/
def make (usePlural defaultLimit aliasName idField : Value) (partitionKey : Option PartitionKey) :
    Except Fault Config := do
  checkLimit defaultLimit
  return ⟨usePlural, defaultLimit, aliasName, idField, partitionKey⟩

/-- The settings where nothing is said. -/
def standard : Config :=
  ⟨.bool false, .int Window.defaultLimit, .str "c", .str "id", none⟩

/-- The alias in references, whatever the digits of an integer in it: a selection fails before a
reference shows an alias that cannot be written. -/
def aliasText (c : Config) : String :=
  c.aliasName.plainSpelling

end Config

/-- Documents of named models. -/
structure Facade where
  registry : Registry
  resolver : FieldResolver
  config : Config

namespace Facade

/-- The facade of containers: a registry is taken as it is, a table of containers is looked up as
the settings say. -/
def make (containers : Registry ⊕ List (String × Registered)) (resolver : FieldResolver)
    (config : Config) : Facade :=
  match containers with
  | .inl registry => ⟨registry, resolver, config⟩
  | .inr entries => ⟨⟨entries, config.usePlural.isTruthy⟩, resolver, config⟩

def logger : String := "cosmos_adapter.adapter"

def planner (f : Facade) : Planner :=
  ⟨f.config.idField, f.config.partitionKey⟩

/-- How statements about a model refer to its fields. -/
def names (f : Facade) (model : Value) : FieldNames :=
  ⟨f.config.aliasText, match model.text? with
    | some name => f.resolver name
    | none => fun _ => .ok none⟩

/-- The name under which the store knows a key of a document; a key that is not renamed stays. -/
def physicalKey (f : Facade) (model key : Value) : Except Fault Value :=
  match key.text? with
  | some name => return ((← (f.names model).renamed? name).map Value.str).getD key
  | none => .ok key

/-- The entries of data under physical names and in store form; where two names fall together the
later entry stands. -/
def resolveEntries (f : Facade) (model : Value) :
    (resolved : List (Value × Value)) → List (Value × Value) → Except Fault (List (Value × Value))
  | resolved, [] => .ok resolved
  | resolved, (k, v) :: rest => do
    let name ← f.physicalKey model k
    let stored ← v.store
    resolveEntries f model (Value.insert name stored resolved) rest

/-- A document of the data that were handed in (`_resolve_data`). -/
def resolveData (f : Facade) (model data : Value) : Except Fault Value := do
  let entries ← data.entries
  return .dict (← f.resolveEntries model [] entries)

def container (f : Facade) (model : Value) : Run Container :=
  Run.of (f.registry.resolve model)

def selectAll (f : Facade) : Except Fault String :=
  return Statement.selectAll (← f.config.aliasName.plainText)

def selectCount (f : Facade) : Except Fault String :=
  return Statement.selectCount (← f.config.aliasName.plainText)

/-- Selects what identifies a document: its identifier, or the whole where the partition key is
taken from it (`_select_keys`). -/
def selectKeys (f : Facade) : Except Fault String :=
  match f.config.partitionKey with
  | none => do
    let aliasText ← f.config.aliasName.plainText
    let idText ← f.config.idField.plainText
    return Statement.selectFields aliasText [idText]
  | some _ => f.selectAll

/-- The statement of a call about a model, with a selection that has to be written first. -/
def statement (f : Facade) (model : Value) (select : Except Fault String) (conditions : Value)
    (sortBy : Value := .null) (window : Option Window := none) : Except Fault Query := do
  let selected ← select
  Statement.build (f.names model) selected conditions sortBy window

def logQuery (q : Query) : Run Unit :=
  Run.log .debug logger
    ("Executing query: " ++ q.statement ++ " (" ++ Text.ofNat q.parameters.length ++ " parameters)")

def fetchAll (c : Container) (q : Query) (maxItems : Option Int) : Run (List Value) := do
  logQuery q
  (c.queryAll q maxItems).guarded .query

/-- The first document that answers a query; nothing if there is none. -/
def fetchFirst (c : Container) (q : Query) : Run Value := do
  logQuery q
  let found ← (c.queryFirst q (some 1)).guarded .query
  return found.getD .null

/-- Submits a batch, unless it is empty, and tallies its statuses (`_execute_bulk`). -/
def submit (c : Container) (operations : List Operation) : Run Tally :=
  match operations with
  | [] => pure {}
  | o :: _ => do
    Run.log .debug logger
      ("Submitting " ++ Text.ofNat operations.length ++ " " ++ o.kind.text ++ " operations")
    let statuses ← (c.executeBulk operations).guarded (.ofKind o.kind)
    Tally.reduce operations statuses

/-- The failure of a creation that the store answers with nothing. -/
def unexpectedResponse : Failure :=
  ⟨.refusal (.persistence (.str "Unexpected response body") .null (.str Action.create.name)), none⟩

/-- Creates a document of the given data and gives the stored copy. -/
def create (f : Facade) (model data : Value) : Run Value := do
  let c ← f.container model
  let body ← Run.of (f.resolveData model data)
  let created ← (c.createItem body).guarded .create
  if created.isTruthy then return created
  else Run.fail unexpectedResponse

/-- The first matching document; nothing if there is none. -/
def findOne (f : Facade) (model conditions : Value) : Run Value := do
  let c ← f.container model
  let q ← Run.of (f.statement model f.selectAll conditions)
  fetchFirst c q

/-- The words for a limit and an offset that make no window. -/
def windowMessage (limit offset : Value) : Except Fault String :=
  return "Invalid pagination: limit=" ++ (← limit.display) ++ ", offset=" ++ (← offset.display)

/-- The failure of a limit and an offset that break rules. -/
def windowFailure (limit offset : Value) (violations : List Violation) : Failure :=
  match windowMessage limit offset with
  | .ok words =>
    ⟨.refusal (.invalidQuery words (violations.map Violation.report)),
      some (.invalid .window violations)⟩
  | .error e => ⟨e, none⟩

/-- The window of a limit and an offset, where what counts as nothing is left to the defaults. -/
def window (f : Facade) (limit offset : Value) : Except Failure Window :=
  let l := if limit.isTruthy then limit else f.config.defaultLimit
  let o := if offset.isTruthy then offset else .int 0
  (Window.ofValues (some l) (some o)).mapError (windowFailure limit offset)

/-- The matching documents of a window, in the order of the store. -/
def findMany (f : Facade) (model conditions sortBy limit offset : Value) : Run (List Value) := do
  let c ← f.container model
  let w ← (⟨f.window limit offset, []⟩ : Run Window)
  let q ← Run.of (f.statement model f.selectAll conditions sortBy (some w))
  fetchAll c q (some w.limit)

def count (f : Facade) (model conditions : Value) : Run Int := do
  let c ← f.container model
  let q ← Run.of (f.statement model f.selectCount conditions)
  let rows ← fetchAll c q none
  match rows with
  | [] => return 0
  | row :: _ => Run.of row.toInt

/-- Applies an update to the first matching document and gives the stored copy; nothing if there is
no match or the store answers with nothing. -/
def update (f : Facade) (model conditions changes : Value) : Run Value := do
  let c ← f.container model
  let q ← Run.of (f.statement model f.selectAll conditions)
  let found ← fetchFirst c q
  match found with
  | .null => return .null
  | item => do
    let mutation ← Run.of (f.resolveData model changes)
    let (fields, _) ← Run.of (Mutation.apply item mutation)
    let updated := Value.dict fields
    let replaced ← (do
      let key ← Run.of (f.planner.documentKeyOf item)
      let partition ← Run.of (f.planner.partitionKeyOf updated)
      c.replaceItem key partition updated).guarded .update
    return if replaced.isTruthy then replaced else .null

/-- Applies an update to all matching documents that it changes; tells how many were replaced. -/
def updateMany (f : Facade) (model conditions changes : Value) : Run Nat := do
  let c ← f.container model
  let q ← Run.of (f.statement model f.selectAll conditions)
  let documents ← fetchAll c q none
  if documents.isEmpty then return 0
  let mutation ← Run.of (f.resolveData model changes)
  let operations ← Run.of (f.planner.replacements mutation documents)
  let tally ← submit c operations
  return tally.successCount

def delete (f : Facade) (model conditions : Value) : Run Unit := do
  let c ← f.container model
  let q ← Run.of (f.statement model f.selectKeys conditions)
  let found ← fetchFirst c q
  match found with
  | .null => return ()
  | item => (do
      let key ← Run.of (f.planner.documentKeyOf item)
      let partition ← Run.of (f.planner.partitionKeyOf item)
      c.deleteItem key partition).guarded .delete

/-- Deletes all matching documents; tells how many were deleted. -/
def deleteMany (f : Facade) (model conditions : Value) : Run Nat := do
  let c ← f.container model
  let q ← Run.of (f.statement model f.selectKeys conditions)
  let documents ← fetchAll c q none
  if documents.isEmpty then return 0
  let operations ← Run.of (f.planner.deletions documents)
  let tally ← submit c operations
  return tally.successCount

end Facade

/-- The outcome of a call whose refusals are results. -/
inductive Outcome (α : Type) where
  | success (value : α)
  | failure (r : Refusal) (cause : Option Fault)

/-- Makes the refusals of a run its result; other faults stay failures. -/
def Run.attempt {α : Type} (x : Run α) : Run (Outcome α) :=
  match x.outcome with
  | .ok a => ⟨.ok (.success a), x.events⟩
  | .error e => match e.fault with
    | .refusal r => ⟨.ok (.failure r e.cause), x.events⟩
    | _ => ⟨.error e, x.events⟩

end Docstore
