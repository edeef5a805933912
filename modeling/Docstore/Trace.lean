import Docstore.Bulk.Operation
import Docstore.Fault

/-!
# Runs and their traces

A run is what an operation comes to: a result or a failure, and the events that happened until then,
in order.  Events are the log records, the requests made of a store, the point calls of a batch, and
the calls that manage a client.

Main statements: a failed run ends the runs after it (`Run.bind_error`), and the events of two runs
in sequence follow each other (`Run.bind_ok`).
-/

namespace Docstore

inductive Level where
  | debug
  | warning
deriving DecidableEq, Repr

def Level.text : Level → String
  | debug => "DEBUG"
  | warning => "WARNING"

structure LogEntry where
  level : Level
  logger : String
  message : String
deriving DecidableEq, Repr

inductive Request where
  | create (body : Value)
  /-- A query, how many of its pages were handed out, and whether its stream was closed then. -/
  | query (statement : String) (parameters : List Value) (maxItems : Value) (pulled : Nat)
    (closed : Bool)
  | replace (item partitionKey body : Value)
  | delete (item partitionKey : Value)
  | bulk (operations : List Operation)

/-- Whether a request may change the store. -/
def Request.isWrite : Request → Bool
  | .query .. => false
  | _ => true

/-- A call that writes to a single document, as a batch makes them. -/
inductive PointCall where
  | replace (item body : Value)
  | delete (item partitionKey : Value)

/-- A call that manages the client of the remote service. -/
inductive ClientCall where
  /-- A client is made for an address, with credentials and options. -/
  | opened (url : String) (credential options : Value)
  | database (name : String)
  | container (name : String)
  | read (database : String)
  /-- A client, known by its number, is closed. -/
  | closed (client : Nat)

inductive Event where
  | log (entry : LogEntry)
  | request (store : String) (r : Request)
  | point (store : String) (c : PointCall)
  /-- A batch of a store ends that had at most so many point calls in flight. -/
  | batch (store : String) (peak : Nat)
  | client (c : ClientCall)

/-- The outcome of an operation and the events until then. -/
structure Run (α : Type) where
  outcome : Except Failure α
  events : List Event

namespace Run

variable {α β : Type}

/-- The run of one operation after another, which sees the result of the first. -/
def andThen (x : Run α) (f : α → Run β) : Run β :=
  match x.outcome with
  | .ok a => ⟨(f a).outcome, x.events ++ (f a).events⟩
  | .error e => ⟨.error e, x.events⟩

instance : Monad Run where
  pure a := ⟨.ok a, []⟩
  bind := andThen

def emit (e : Event) : Run Unit :=
  ⟨.ok (), [e]⟩

def fail (f : Failure) : Run α :=
  ⟨.error f, []⟩

def of (x : Except Fault α) : Run α :=
  ⟨x.mapError fun f => { fault := f }, []⟩

def log (level : Level) (logger message : String) : Run Unit :=
  emit (.log ⟨level, logger, message⟩)

@[simp] theorem bind_ok (a : α) (events : List Event) (f : α → Run β) :
    ((⟨.ok a, events⟩ : Run α) >>= f) = ⟨(f a).outcome, events ++ (f a).events⟩ := rfl

@[simp] theorem bind_error (e : Failure) (events : List Event) (f : α → Run β) :
    ((⟨.error e, events⟩ : Run α) >>= f) = ⟨.error e, events⟩ := rfl

end Run

end Docstore
