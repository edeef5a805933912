import Docstore.Service.Batch
import Docstore.Store.Container

/-!
# Containers of the remote service

The remote service's client offers queries and writes of single documents.  With them, and batches
made of point calls, it serves as a container (`CosmosContainerStore`).
-/

namespace Docstore

/-- What the client of the remote service offers for one container. -/
structure ServiceContainer where
  name : String
  create : (body : Value) → Except Failure Value
  query : Query → (maxItems : Option Int) → PageStream
  /-- The service reads the partition key from the body itself. -/
  replace : (item body : Value) → Except Failure Value
  delete : (item partitionKey : Value) → Except Failure Unit

namespace ServiceContainer

/-- How many point calls may be in flight if nothing else is said. -/
def defaultConcurrency : Value := .int 25

/-- What the client comes to when it is called for a single document. -/
def answer (c : ServiceContainer) : PointCall → Except Failure Value
  | .replace item body => c.replace item body
  | .delete item partitionKey => (c.delete item partitionKey).map fun _ => .null

/-- What comes of the point call that a batch makes for an operation. -/
def pointCall (c : ServiceContainer) (o : Operation) : Except Failure Value :=
  c.answer (Batch.call o)

/-- How many of a number of calls may be in flight.  Each call in flight takes one away from the
bound, and there is room until nothing is left; a bound that is no whole number never comes to
nothing. -/
def roomFor (count : Nat) (concurrency : Value) : Except Fault Nat :=
  match concurrency with
  | .decimal (.nan ..) _ => .error .refusedComparison
  | _ => match concurrency.number? with
    | none => .error (.wrongType none)
    | some bound =>
      if bound.isNegative then .error (.flawed .negativeBound)
      else .ok (((List.range count).find? fun (n : Nat) => bound == .exact (.ofInt n)).getD count)

/-- A batch under a schedule, of which no more calls are in flight than `concurrency` allows. -/
def submit (store : String) (concurrency : Value) (outcome : Batch.Outcomes)
    (operations : List Operation) (schedule : List Nat) : Run Value :=
  if operations.isEmpty then pure (.list [])
  else do
    let room ← Run.of (roomFor operations.length concurrency)
    Run.log .debug Batch.logger
      ("Submitting bulk batch of " ++ Text.ofNat operations.length ++ " operations")
    let statuses ← Batch.execute store room outcome operations schedule
    return .list statuses

/-- A batch whose point calls the container answers. -/
def bulkUnder (c : ServiceContainer) (concurrency : Value) (schedule : List Operation → List Nat)
    (operations : List Operation) : Run Value :=
  submit c.name concurrency (fun call => c.pointCall call.2) operations (schedule operations)

/-- The container that the service's client makes. -/
def toContainer (c : ServiceContainer) (concurrency : Value) : Container where
  name := c.name
  create body := ⟨c.create body, []⟩
  query := c.query
  replace item _ body := ⟨c.replace item body, []⟩
  delete item partitionKey := ⟨c.delete item partitionKey, []⟩
  bulk := c.bulkUnder concurrency Batch.oldestFirst

end ServiceContainer

end Docstore
