import Docstore.Fault.Message
import Docstore.Trace
import Docstore.Value.Mapping

/-!
# Tallies

A tally (`BulkResult`) tells which operations of a batch succeeded, by comparing the status of each
with the one expected of its kind.  Statuses are matched to operations by position; an operation
without a status has failed.  Failures are counted by document key, the last status standing for
each key, and are never raised.  What is raised is that a status cannot be compared or, among the
failures, not be written.
-/

namespace Docstore

/-- The outcome of a batch. -/
structure Tally where
  /-- The keys of the documents that were written, in the order of the operations. -/
  succeeded : List Value := []
  /-- The keys of the documents that were not written, with the status reported last. -/
  failed : List (Value × Value) := []

namespace Tally

def successCount (t : Tally) : Nat :=
  t.succeeded.length

def failureCount (t : Tally) : Nat :=
  t.failed.length

/-- Whether some operations failed and some succeeded. -/
def isPartial (t : Tally) : Bool :=
  !t.failed.isEmpty && 0 < t.successCount

def logger : String := "cosmos_adapter.bulk"

/-- Whether a status is the expected one. -/
def isExpected (kind : WriteKind) (status : Value) : Except Fault Bool :=
  match status.compare (.int kind.expectedStatus) with
  | .equal => .ok true
  | .different => .ok false
  | .refused => .error .refusedComparison

/-- The statuses that a store reported: how many, and each by its position. -/
structure Statuses where
  size : Nat
  part : Nat → Except Fault Value

def statusesOf (v : Value) : Except Fault Statuses :=
  return ⟨← v.size, fun place => v.part (.int place)⟩

/-- The status of the operation at a position; nothing if none was reported. -/
def Statuses.get (s : Statuses) (place : Nat) : Except Fault Value :=
  if place < s.size then s.part place else .ok .null

/-- Enters the operations from a position on. -/
def enter (statuses : Statuses) (t : Tally) :
    (place : Nat) → List Operation → Except Fault Tally
  | _, [] => .ok t
  | place, o :: rest => do
    let status ← statuses.get place
    if ← isExpected o.kind status then
      enter statuses { t with succeeded := t.succeeded ++ [o.documentKey] } (place + 1) rest
    else if o.documentKey.isKey then
      enter statuses { t with failed := Value.insert o.documentKey status t.failed } (place + 1) rest
    else .error (.wrongType none)

/-- The different texts of the statuses of failures, in ascending order. -/
def statusTexts (t : Tally) : Except Fault (List String) := do
  let texts ← t.failed.mapM fun e => e.2.plainText
  return Refusal.ascending texts.eraseDups

/-- The message about failures among operations. -/
def failureMessage (operations : List Operation) (t : Tally) : Except Fault String := do
  let texts ← t.statusTexts
  return "Bulk " ++ ((operations.head?.map (·.kind.text)).getD "") ++ ": "
    ++ Text.ofNat t.failureCount ++ " of " ++ Text.ofNat operations.length
    ++ " operations failed (statuses: " ++ (Value.list (texts.map .str)).spelling ++ ")"

/-- The tally of operations by the statuses that a store reported (`reduce`).  The warning about
failures is put into words in any case. -/
def reduce (operations : List Operation) (statuses : Value) : Run Tally := do
  let reported ← Run.of (statusesOf statuses)
  if reported.size ≠ operations.length then
    Run.log .warning logger
      ("Bulk batch returned " ++ Text.ofNat reported.size ++ " statuses for "
        ++ Text.ofNat operations.length ++ " operations")
  let t ← Run.of (enter reported {} 0 operations)
  if !t.failed.isEmpty then
    let words ← Run.of (failureMessage operations t)
    Run.log .warning logger words
  return t

/-- How many statuses are the expected one of a kind (`count_successes`). -/
def countSuccesses (kind : WriteKind) (statuses : Value) : Except Fault Nat := do
  let items ← statuses.elements
  let expected ← items.mapM (isExpected kind)
  return (expected.filter id).length

end Tally

end Docstore
