import Docstore.Fault.Message
import Docstore.Sorting.Greatest
import Docstore.Text.Similarity.Keyed
import Docstore.Value.Mapping
import Docstore.Value.Order

/-!
# Suggestions

The refusal of an operator (`UnsupportedOperatorError`) suggests the supported ones that are spelled
most like it.  An operator or a supported one that is no text is compared by what it consists of, so
the refusal may fail; and it fails in the end if what is supported is not all texts, since they are
listed in order.
-/

namespace Docstore.Refusal

open Similarity (Keyed Ratio)

def maxSuggestions : Nat := 3

/-- The texts suggested in place of a text. -/
def suggestions (s : String) (valid : List Value) : List Value :=
  Similarity.closest maxSuggestions s.toList textOf valid

/-- The refusal of a text that names no operator. -/
def ofOperatorText (s : String) (valid : List Value) : Refusal :=
  .unsupportedOperator (.str s) valid (suggestions s valid)

/-- What a value is enumerated into, which has to be possible keys. -/
def symbols (v : Value) : Except Fault (List Value) := do
  let parts ← v.elements
  if Value.areKeys parts then return parts else .error (.wrongType none)

/-- What a value gives at a place, which has to pass a test. -/
def symbolAt (isSymbol : Value → Bool) (v : Value) (place : Nat) : Except Fault Value := do
  let found ← v.part (.int place)
  if isSymbol found then return found else .error (.wrongType none)

/-- A supported operator as it is compared. -/
def candidate (v : Value) : Except Fault (Keyed Fault Value) := do
  return ⟨← v.size, symbols v, symbolAt Value.isKey v⟩

/-- Whether a value can be looked for in a set: a set is looked for as if it were frozen. -/
def isSought : Value → Bool
  | .set .. => true
  | v => v.isKey

/-- The refused operator as it is compared. -/
def target (v : Value) : Except Fault (Keyed Fault Value) := do
  return ⟨← v.size, symbols v, symbolAt isSought v⟩

/-- Whether one scored value goes before another: by likeness, then by the value. -/
def scoredBefore (x y : Ratio × Value) : Except Fault Bool :=
  if x.1.le y.1 && y.1.le x.1 then Value.itemsBefore [x.2] [y.2] else .ok (x.1.le y.1)

def scoredEqual (x y : Ratio × Value) : Bool :=
  x.1.le y.1 && y.1.le x.1 && x.2 == y.2

/-- The values suggested in place of an operator. -/
def closest (operator : Value) (options : List Value) : Except Fault (List Value) := do
  let scored ← (← target operator).scored candidate options
  let best ← Sorting.greatestThree scoredBefore scoredEqual scored
  return best.map (·.2)

def areTexts (values : List Value) : Bool :=
  values.all (·.text?.isSome)

/-- The refusal of an operator that is none of some values. -/
def ofOperator (operator valid : Value) : Except Fault Refusal := do
  let _ ← symbols operator
  let _ ← operator.size
  let options ← valid.elements
  match operator.text?, areTexts options with
  | some s, true => return .unsupportedOperator operator options (suggestions s options)
  | _, _ =>
    let close ← closest operator options
    let _ ← operator.plainText
    if !areTexts close then .error (.wrongType none)
    let _ ← Sorting.sortByRuns Value.before options
    if !areTexts options then .error (.wrongType none)
    return .unsupportedOperator operator options close

end Docstore.Refusal
