import Docstore.Fault
import Docstore.Sorting
import Docstore.Value.Display

/-!
# What faults say

The wording of each fault in one place, and the library's own errors as data (`to_dict`).  A wording
that shows a value fails if the value holds an integer that cannot be written; the fault of that
then takes the place of the fault that was to be put into words.
-/

namespace Docstore

/-- The wording of a text, shown as given, that names no date or timestamp. -/
def Calendar.Misreading.message (shown : String) : Calendar.Misreading → String
  | form => "Invalid isoformat string: " ++ shown
  | year number => "year " ++ Text.ofNat number ++ " is out of range"
  | month => "month must be in 1..12"
  | day => "day is out of range for month"
  | hour => "hour must be in 0..23"
  | minute => "minute must be in 0..59"
  | second => "second must be in 0..59"
  | offset span =>
    "offset must be a timedelta strictly between -timedelta(hours=24) and timedelta(hours=24), not "
      ++ Timestamp.spanText span ++ "."

/-- The wording of a text that is no identifier. -/
def Uuid.Misreading.message : Uuid.Misreading → String
  | length => "badly formed hexadecimal UUID string"
  | numeral shown =>
    "invalid literal for int() with base 16: " ++ String.ofList (shown.toList.take 200)

def Flaw.message : Flaw → String
  | notNumeral shown =>
    "invalid literal for int() with base 10: " ++ String.ofList (shown.toList.take 200)
  | tooManyDigits count =>
    "Exceeds the limit (4300 digits) for integer string conversion: value has " ++ Text.ofNat count
      ++ " digits; use sys.set_int_max_str_digits() to increase the limit"
  | tooLongToWrite =>
    "Exceeds the limit (4300 digits) for integer string conversion; use "
      ++ "sys.set_int_max_str_digits() to increase the limit"
  | nanAsInteger floating =>
    "cannot convert " ++ (if floating then "float " else "") ++ "NaN to integer"
  | signalingAsFloat => "cannot convert signaling NaN to float"
  | entryLength position length =>
    "dictionary update sequence element #" ++ Text.ofNat position ++ " has length "
      ++ Text.ofNat length ++ "; 2 is required"
  | defaultLimit => "default_limit must be a positive integer"
  | negativeBound => "Semaphore initial value must be >= 0"
  | notFloat shown => "could not convert string to float: " ++ shown
  | notTime shown m => m.message shown
  | notIdentifier m => m.message
  | notOctets place =>
    "non-hexadecimal number found in fromhex() arg at position " ++ Text.ofNat place
  | notMember shown vocabulary => shown ++ " is not a valid " ++ vocabulary
  | other message => message.getD ""

namespace Refusal

/-- The text of a value that is one. -/
def textOf (v : Value) : String :=
  v.text?.getD ""

def ascending (texts : List String) : List String :=
  Sorting.sort (fun s t => decide (s ≤ t)) texts

def arranged (texts : List Value) : List Value :=
  Sorting.sort (fun v w => decide (textOf v ≤ textOf w)) texts

def listed (texts : List Value) : String :=
  ", ".intercalate (texts.map textOf)

/-- A message followed by its detail, if there is one. -/
def withDetail (message detail : Value) : Except Fault String := do
  let words ← message.plainText
  if detail.isTruthy then return words ++ " " ++ (← detail.plainText) else return words

def message : Refusal → Except Fault String
  | plain message => .ok message
  | unsupportedOperator operator valid suggestions => do
    let name ← operator.plainText
    return "Unsupported operator: '" ++ name ++ "'."
      ++ (if suggestions.isEmpty then "" else " Did you mean: " ++ listed suggestions ++ "?")
      ++ " Valid operators: " ++ listed (arranged valid)
  | configuration message _ => .ok message
  | persistence message detail _ => withDetail message detail
  | storeTimeout message detail _ => withDetail message detail
  | invalidQuery message _ => .ok message

/-- An error as data. -/
def report (r : Refusal) : Value :=
  .dict <| match r with
  | plain message => [(.str "error", .str r.kind), (.str "message", .str message)]
  | unsupportedOperator operator valid suggestions =>
    [(.str "error", .str "UNSUPPORTED_OPERATOR"), (.str "operator", operator),
      (.str "suggestions", .list suggestions),
      (.str "valid_operators", .list (arranged valid))]
  | configuration message model =>
    [(.str "error", .str "CONFIGURATION_ERROR"), (.str "message", .str message),
      (.str "model", model)]
  | persistence message detail action =>
    [(.str "error", .str "PERSISTENCE_ERROR"), (.str "message", message),
      (.str "detail", detail), (.str "action", action)]
  | storeTimeout message detail action =>
    [(.str "error", .str "TIMEOUT"), (.str "message", message),
      (.str "detail", detail), (.str "action", action)]
  | invalidQuery message violations =>
    [(.str "error", .str "INVALID_QUERY"), (.str "message", .str message),
      (.str "errors", .list violations)]

end Refusal

namespace ServiceError

/-- The wording of an error of the service.  An error with a status has words from the start: there
is none whose status cannot be written. -/
def message : ServiceError → String
  | response _ status message =>
    "Status code: " ++ Text.ofInt status ++ "\n" ++ message.getD "None"
  | http _ message =>
    let given := message.getD ""
    if given.isEmpty then "Operation returned an invalid status 'None'" else given
  | clientTimeout message =>
    message.getD "The request failed to complete within the given timeout."
  | request _ _ message | answer _ _ message | general _ message => message.getD "None"

end ServiceError

/-- The wording when a sequence has no item at a place. -/
def Sequence.outOfRange : Sequence → String
  | list => "list index out of range"
  | tuple => "tuple index out of range"
  | text => "string index out of range"
  | octets => "index out of range"

namespace Fault

def message : Fault → Except Fault String
  | refusal r => r.message
  | service e => .ok e.message
  | timeout message | runtime message | wrongType message => .ok (message.getD "")
  | invalid .. | noSuchPart => .ok ""
  | flawed flaw => .ok flaw.message
  | missingKey key => match key with
    | some k => k.display
    | none => .ok ""
  | outOfRange sequence => .ok sequence.outOfRange
  | placeTooLarge => .ok "cannot fit 'int' into an index-sized integer"
  | infiniteInteger floating =>
    .ok (if floating then "cannot convert float infinity to integer"
      else "cannot convert Infinity to integer")
  | integerTooLarge => .ok "int too large to convert to float"
  | refusedComparison | notDecimal .outOfRange => .ok "[<class 'decimal.InvalidOperation'>]"
  | notDecimal .malformed => .ok "[<class 'decimal.ConversionSyntax'>]"

end Fault

end Docstore
