import Docstore.Calendar.Reading
import Docstore.Number.Reading
import Docstore.Query.Violation

/-!
# Faults

Everything that can go wrong, by cause.

* `Refusal` is the library's own taxonomy, `CosmosAdapterError` and the classes under it: the errors
  that its operations promise to callers.
* `ServiceError` is what the client of the remote service reports.
* `Fault` joins these with the remaining causes: timeouts, values of the wrong type or content, keys
  that are not there.
* `Failure` is a fault together with the fault that it was explicitly made from.

What a fault says, in words and as data, is apart from this: it may be beyond saying.
-/

namespace Docstore

/-- A problem with a value of the right type. -/
inductive Flaw where
  /-- A text, shown as given, that is no integer numeral. -/
  | notNumeral (shown : String)
  | tooManyDigits (count : Nat)
  /-- An integer with too many digits to be written. -/
  | tooLongToWrite
  /-- Not-a-number where an integer is wanted; floating-point numbers are named as such. -/
  | nanAsInteger (floating : Bool)
  /-- A signaling number where a floating-point number is wanted. -/
  | signalingAsFloat
  /-- An entry of a mapping that is no pair. -/
  | entryLength (position length : Nat)
  | defaultLimit
  | negativeBound
  /-- A text, shown as given, that is no floating-point numeral. -/
  | notFloat (shown : String)
  /-- A text, shown as given, that names no date or timestamp. -/
  | notTime (shown : String) (m : Calendar.Misreading)
  | notIdentifier (m : Uuid.Misreading)
  /-- A text that is no sequence of octets, from a place on. -/
  | notOctets (place : Nat)
  /-- A value, as shown, that is no member of a vocabulary. -/
  | notMember (shown vocabulary : String)
  /-- A problem in someone else's words. -/
  | other (message : Option String)
deriving DecidableEq, Repr

/-- The library's own errors. -/
inductive Refusal where
  /-- An error of no particular kind. -/
  | plain (message : String)
  /-- A filter operator outside the supported ones, which are texts, and those of them that were
  meant perhaps. -/
  | unsupportedOperator (operator : Value) (valid suggestions : List Value)
  /-- A model without a usable container, or a client that cannot be had. -/
  | configuration (message : String) (model : Value)
  /-- The store rejected an action. -/
  | persistence (message detail action : Value)
  /-- The store did not answer an action in time. -/
  | storeTimeout (message detail action : Value)
  /-- A query input broke rules; the violations are given as data. -/
  | invalidQuery (message : String) (violations : List Value)

namespace Refusal

def kind : Refusal → String
  | plain _ => "CosmosAdapterError"
  | unsupportedOperator .. => "UnsupportedOperatorError"
  | configuration .. => "ConfigurationError"
  | persistence .. => "PersistenceError"
  | storeTimeout .. => "StoreTimeoutError"
  | invalidQuery .. => "InvalidQueryError"

/-- Whether the store rejected an action, in time or not. -/
def isPersistence : Refusal → Bool
  | persistence .. | storeTimeout .. => true
  | _ => false

end Refusal

/-- The errors that the client of the remote service reports. -/
inductive ServiceError where
  /-- A response with an error status; the service did not find the item or refused otherwise. -/
  | response (notFound : Bool) (status : Int) (message : Option String)
  /-- A response outside the database protocol, with a status if it had one. -/
  | http (status : Option Int) (message : Option String)
  | clientTimeout (message : Option String)
  /-- The request could not be sent, in time or at all. -/
  | request (timedOut : Bool) (status : Option Int) (message : Option String)
  /-- The response could not be read, in time or at all. -/
  | answer (timedOut : Bool) (status : Option Int) (message : Option String)
  | general (status : Option Int) (message : Option String)
deriving DecidableEq, Repr

namespace ServiceError

def status? : ServiceError → Option Int
  | response _ status _ => some status
  | http status _ | request _ status _ | answer _ status _ | general status _ => status
  | clientTimeout _ => none

/-- Whether the error says that time ran out: a timeout of the client, or the status for it. -/
def isTimeout : ServiceError → Bool
  | clientTimeout _ => true
  | request timedOut _ _ | answer timedOut _ _ => timedOut
  | response _ status _ => status == 408
  | _ => false

end ServiceError

/-- The sequences whose items are asked for by their places. -/
inductive Sequence where
  | list
  | tuple
  | text
  | octets
deriving DecidableEq, Repr

inductive Fault where
  /-- An error of the library's taxonomy. -/
  | refusal (r : Refusal)
  /-- An error of the remote service's client. -/
  | service (e : ServiceError)
  /-- Time ran out elsewhere. -/
  | timeout (message : Option String)
  /-- A failure of no particular kind. -/
  | runtime (message : Option String)
  /-- A query input broke rules. -/
  | invalid (subject : Subject) (violations : List Violation)
  /-- A value has a type that the operation has no use for. -/
  | wrongType (message : Option String)
  | noSuchPart
  /-- A value has the right type and a wrong content. -/
  | flawed (flaw : Flaw)
  /-- A mapping has no such key. -/
  | missingKey (key : Option Value)
  /-- A sequence has no such place. -/
  | outOfRange (sequence : Sequence)
  | placeTooLarge
  /-- An infinity where an integer is wanted; floating-point numbers are named as such. -/
  | infiniteInteger (floating : Bool)
  /-- An integer too large for a floating-point number. -/
  | integerTooLarge
  /-- A comparison with a signaling number, or an order asked of not-a-number. -/
  | refusedComparison
  | notDecimal (m : Number.Misreading)

namespace Fault

/-- Whether a fault says that time ran out, as `is_timeout_error` tells. -/
def isTimeout : Fault → Bool
  | service e => e.isTimeout
  | timeout _ => true
  | refusal (.storeTimeout ..) => true
  | _ => false

end Fault

/-- A fault, and the fault that it was explicitly made from. -/
structure Failure where
  fault : Fault
  cause : Option Fault := none

instance : Coe Fault Failure := ⟨fun f => { fault := f }⟩

end Docstore
