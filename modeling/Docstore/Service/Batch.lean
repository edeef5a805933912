import Docstore.Fault.Message
import Docstore.Trace

/-!
# Batches of point calls

The remote service has no request for a whole batch, so a batch (`execute_bulk`) runs as point calls,
one for each operation, of which a bounded number may be in flight.  Calls start in the order of the
operations, as soon as there is room.  Which of the calls in flight finishes next is up to the
service: a schedule says it, call by call.

A call that finishes settles its operation: with the expected status, with the status of the error
that the service reported, or with the status of a timeout.  Any other fault settles it too, and is
raised once all operations have settled; of several the one of the first operation.
-/

namespace Docstore.Batch

def logger : String := "cosmos_adapter.cosmos"

def timeoutStatus : Int := 408

/-- What a point call comes to: a status, which may be missing, or a fault that is none of the
service's. -/
abbrev Settlement := Except Failure Value

def call (o : Operation) : PointCall :=
  match o.kind with
  | .replace => .replace o.documentKey (o.payload.getD .null)
  | .delete => .delete o.documentKey o.partitionKey

/-- The log record of an operation that failed, with the words for how it failed.  A record that
cannot be put into words is not written. -/
def failureEvents (o : Operation) (how : Except Fault String) : List Event :=
  match o.documentKey.display, how with
  | .ok key, .ok words =>
    [.log ⟨.debug, logger, "Bulk " ++ o.kind.text ++ " of " ++ key ++ " failed" ++ words⟩]
  | _, _ => []

/-- How an operation settles when its point call ends (`_execute_one`). -/
def settle (o : Operation) (outcome : Except Failure Value) : Settlement × List Event :=
  match outcome with
  | .ok _ => (.ok (.int o.kind.expectedStatus), [])
  | .error e =>
    match e.fault with
    | .service (.response _ status _) =>
      (.ok (.int status), failureEvents o do
        let text ← (Value.int status).plainText
        return " with status " ++ text)
    | f =>
      if f.isTimeout then (.ok (.int timeoutStatus), [])
      else match f with
        | .service s =>
          (.ok ((s.status?.map Value.int).getD .null), failureEvents o (.ok (": " ++ s.message)))
        | _ => (.error e, [])

/-- An operation with its number. -/
abbrev Numbered := Nat × Operation

/-- The operations of a batch with their numbers. -/
def numbered (operations : List Operation) : List Numbered :=
  operations.zipIdx.map fun (o, number) => (number, o)

/-- What the point calls of a batch come to: equal operations are different calls. -/
abbrev Outcomes := Numbered → Except Failure Value

/-- A batch under way. -/
structure State where
  /-- The operations whose calls have not started, in order. -/
  waiting : List Numbered
  /-- The operations whose calls are in flight, the longest first. -/
  running : List Numbered
  /-- The operations that have settled, the first first. -/
  settled : List (Nat × Settlement)
  events : List Event
  /-- The highest number of calls that were in flight. -/
  peak : Nat

def State.initial (operations : List Operation) : State :=
  ⟨numbered operations, [], [], [], 0⟩

/-- Starts calls as long as there is room. -/
def State.start (store : String) (limit : Nat) (s : State) : State :=
  let room := limit - s.running.length
  let started := s.waiting.take room
  let running := s.running ++ started
  { s with
    waiting := s.waiting.drop room
    running := running
    events := s.events ++ started.map fun (_, o) => .point store (call o)
    peak := max s.peak running.length }

/-- Lets one call in flight finish, chosen by its place among them; none if there is none. -/
def State.finish (outcome : Outcomes) (choice : Nat) (s : State) : State :=
  let place := choice % s.running.length
  match s.running[place]? with
  | none => s
  | some (number, o) =>
    let (settlement, events) := settle o (outcome (number, o))
    { s with
      running := s.running.eraseIdx place
      settled := s.settled ++ [(number, settlement)]
      events := s.events ++ events }

/-- A round: one call finishes, and others start where there is room. -/
def State.round (store : String) (limit : Nat) (outcome : Outcomes) (s : State) (choice : Nat) :
    State :=
  (s.finish outcome choice).start store limit

/-- The batch after the rounds of a schedule. -/
def run (store : String) (limit : Nat) (outcome : Outcomes) (operations : List Operation)
    (schedule : List Nat) : State :=
  schedule.foldl (State.round store limit outcome)
    ((State.initial operations).start store limit)

/-- The settlements of a batch in the order of its operations. -/
def State.settlements (s : State) (count : Nat) : List Settlement :=
  (List.range count).filterMap fun number => s.settled.lookup number

/-- The statuses of settled operations, or the fault of the first that has one. -/
def statuses (settlements : List Settlement) : Except Failure (List Value) :=
  settlements.mapM id

/-- The schedule in which the call that has been in flight the longest finishes next. -/
def oldestFirst (operations : List Operation) : List Nat :=
  operations.map fun _ => 0

/-- A batch under a schedule, as a run. -/
def execute (store : String) (limit : Nat) (outcome : Outcomes) (operations : List Operation)
    (schedule : List Nat) : Run (List Value) :=
  let s := run store limit outcome operations schedule
  ⟨statuses (s.settlements operations.length), s.events ++ [.batch store s.peak]⟩

end Docstore.Batch
