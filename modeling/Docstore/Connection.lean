import Docstore.Service.Container
import Docstore.Store.Registry

/-!
# The connection to the remote service

A connection (`CosmosConnectionManager`) makes the client of the remote service when it is first
needed and holds it until it is closed.  Making a client that is held already gives the one that is
held.  What a connection holds changes in two places only: a client that was made is held, and one
that was closed is held no more; a client that could not be made or closed changes nothing, so that
either can be tried again.

Closing takes time: it begins with the client that is held then, and ends when the service has
answered.  Other calls may come between.

Main statements: a connection that holds a client makes no other (`Connection.connect_held`), and a
connection that holds none answers a check of its health without a call
(`Connection.healthCheck_of_none`).
-/

namespace Docstore

/-- How the remote service answers the calls that manage a client. -/
structure Remote where
  onConnect : Option Failure := none
  onRead : Option Failure := none
  onClose : Option Failure := none
  /-- What the client offers for the container of a name. -/
  container : String → ServiceContainer

/-- Where a connection leads, and how it is used. -/
structure Endpoint where
  url : String
  credential : Value
  options : Value
  database : String
  /-- How many point calls of a batch may be in flight. -/
  concurrency : Value := ServiceContainer.defaultConcurrency

namespace Endpoint

/-- The names that no option has, since the settings of an endpoint have them. -/
def takenNames : List String := ["self", "url", "credential", "database"]

/-- The option that is not handed to the client but bounds the calls in flight. -/
def concurrencyName : String := "max_bulk_concurrency"

/-- The endpoint of given settings.  Options have names, and among them may be the bound on calls in
flight, unless it is given apart. -/
def make (url : String) (credential : Value) (database : String) (concurrency : Option Value)
    (options : Value) : Except Fault Endpoint :=
  match options with
  | .dict entries =>
    let free := entries.all fun e => match e.1.text? with
      | some name => !takenNames.contains name
      | none => false
    let given := Value.lookup (.str concurrencyName) entries
    if free && !(given.isSome && concurrency.isSome) then
      let handed := entries.filter fun e => e.1.text? != some concurrencyName
      .ok ⟨url, credential, .dict handed, database,
        (given.or concurrency).getD ServiceContainer.defaultConcurrency⟩
    else .error (.wrongType none)
  | _ => .error (.wrongType none)

end Endpoint

/-- A connection: where it leads, the client that it holds, and how many clients it has made. -/
structure Connection where
  endpoint : Endpoint
  held : Option Nat := none
  made : Nat := 0

namespace Connection

def logger : String := Batch.logger

def notConnected : Refusal :=
  .configuration "Not connected; call connect() first" .null

/-- Whether a fault in the making of a client is the fault of its settings: an error of the service,
or a setting of a wrong type or content. -/
def isSettingsFault : Fault → Bool
  | .service _ | .flawed _ | .wrongType _ | .invalid .. => true
  | _ => false

/-- The failure to make a client as callers see it. -/
def connectFailure (e : Failure) : Failure :=
  if isSettingsFault e.fault then
    match e.fault.message with
    | .ok words =>
      ⟨.refusal (.configuration ("Cannot create Cosmos client: " ++ words) .null), some e.fault⟩
    | .error g => ⟨g, none⟩
  else e

/-- An outcome, unless there is a failure. -/
def unlessFailure {α : Type} (failure : Option Failure) (a : α) : Except Failure α :=
  match failure with
  | some e => .error e
  | none => .ok a

/-- The connection after a client was made. -/
def holding (c : Connection) : Connection :=
  { c with held := some c.made, made := c.made + 1 }

/-- The connection after the client that it held was closed. -/
def released (c : Connection) : Connection :=
  { c with held := none }

/-- Makes a client, unless one is held; gives the client that is held then. -/
def connect (r : Remote) (c : Connection) : Run Nat × Connection :=
  match c.held with
  | some client => (pure client, c)
  | none =>
    let opened : List Event :=
      [.client (.opened c.endpoint.url c.endpoint.credential c.endpoint.options)]
    match r.onConnect with
    | some e => (⟨.error (connectFailure e), opened⟩, c)
    | none => (⟨.ok c.made, opened⟩, c.holding)

def client (c : Connection) : Run Nat :=
  match c.held with
  | some client => pure client
  | none => Run.fail (Fault.refusal notConnected)

/-- The name of the database, which takes a client to be asked for. -/
def database (c : Connection) : Run String := do
  let _ ← c.client
  Run.emit (.client (.database c.endpoint.database))
  return c.endpoint.database

def container (r : Remote) (c : Connection) (name : String) : Run Container := do
  let _ ← c.database
  Run.emit (.client (.container name))
  return (r.container name).toContainer c.endpoint.concurrency

/-- A registry of containers by the names of models. -/
def registry (r : Remote) (c : Connection) (models : List (String × String))
    (usePlural : Bool) : Run Registry := do
  let entries ← models.mapM fun (model, name) => do
    return (model, Registered.container (← c.container r name))
  return ⟨entries, usePlural⟩

/-- The client that a close which begins now is about. -/
def beginClose (c : Connection) : Option Nat :=
  c.held

/-- The connection when a close ends as the service answers. -/
def endClose (failure : Option Failure) (c : Connection) : Connection :=
  match failure with
  | some _ => c
  | none => c.released

/-- Closes the client that is held, if there is one. -/
def close (r : Remote) (c : Connection) : Run Unit × Connection :=
  match c.beginClose with
  | none => (pure (), c)
  | some client => (⟨unlessFailure r.onClose (), [.client (.closed client)]⟩, c.endClose r.onClose)

def readDatabase (r : Remote) (c : Connection) : Run Unit := do
  let name ← c.database
  Run.emit (.client (.read name))
  (⟨unlessFailure r.onRead (), []⟩ : Run Unit)

/-- Whether the service answers.  Without a client it does not; an error that it reports is logged
and counts as no answer. -/
def healthCheck (r : Remote) (c : Connection) : Run Bool :=
  match c.held with
  | none => pure false
  | some _ =>
    let x := c.readDatabase r
    match x.outcome with
    | .ok _ => ⟨.ok true, x.events⟩
    | .error e => match e.fault with
      | .service s =>
        ⟨.ok false,
          x.events ++ [.log ⟨.warning, logger, "Cosmos health check failed: " ++ s.message⟩]⟩
      | _ => ⟨.error e, x.events⟩

theorem connect_held (r : Remote) {c : Connection} {client : Nat} (h : c.held = some client) :
    connect r c = (pure client, c) := by
  simp [connect, h]

theorem healthCheck_of_none (r : Remote) {c : Connection} (h : c.held = none) :
    healthCheck r c = pure false := by
  simp [healthCheck, h]

end Connection

end Docstore
