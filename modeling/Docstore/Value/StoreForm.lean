import Docstore.Sorting
import Docstore.Value.Display

/-!
# Store form

The store holds values of few types (`to_store_value`).  Dates, timestamps and identifiers become
texts, decimal numbers become floating-point numbers, tuples and sets become lists; the elements of
a set are put in the order of the texts that show them.  All other values stay, and so do the keys
of dictionaries.  A signaling number has no store form, and neither has a set with an element that
cannot be shown.

Which object a number is matters within the program, and the store form of a number that stays is
the same object.  What a query sends to the store is data, where objects do not show.

Main statement: `store_set_eq_ok` tells which sets have a store form, and which one.
-/

namespace Docstore.Value

/-- Items in the order of their sort texts. -/
def arranged (entries : List (String × Value)) : List Value :=
  (Sorting.sort (fun x y => decide (x.1 ≤ y.1)) entries).map (·.2)

mutual

def store : Value → Except Fault Value
  | .timestamp t => .ok (.str t.isoText)
  | .date d => .ok (.str d.isoText)
  | .uuid u => .ok (.str u.text)
  | .decimal d object => match d.toBinary64? with
    | some x => .ok (.float x (.ofDecimal object))
    | none => .error (.flawed .signalingAsFloat)
  | .list items | .tuple items => do
    let stored ← storeItems items
    return .list stored
  | .set _ items => do
    let shown ← displayAll items
    let stored ← storeItems items
    return .list (arranged (shown.zip stored))
  | .dict entries => do
    let stored ← storeEntries entries
    return .dict stored
  | v => .ok v

def storeItems : List Value → Except Fault (List Value)
  | [] => .ok []
  | v :: rest => do
    let stored ← store v
    let others ← storeItems rest
    return stored :: others

/-- The entries of a dictionary with the store forms of their values. -/
def storeEntries : List (Value × Value) → Except Fault (List (Value × Value))
  | [] => .ok []
  | (k, v) :: rest => do
    let stored ← store v
    let others ← storeEntries rest
    return (k, stored) :: others

end

variable {frozen : Bool} {items : List Value}

/-- A set has a store form exactly if its elements can be shown and have store forms. -/
theorem store_set_eq_ok {w : Value} : (set frozen items).store = .ok w ↔
    areWritable items = true ∧
      ∃ stored, storeItems items = .ok stored ∧ .list (arranged ((spellings items).zip stored)) = w := by
  rw [store]
  cases hshown : areWritable items with
  | false => simp [displayAll_of_not_areWritable hshown, bind, Except.bind]
  | true =>
    cases storeItems items <;>
      simp [displayAll_of_areWritable hshown, bind, Except.bind, pure, Except.pure]

theorem store_set_of_not_areWritable (h : areWritable items = false) :
    (set frozen items).store = .error (.flawed .tooLongToWrite) := by
  rw [store, displayAll_of_not_areWritable h]
  rfl

mutual

/-- A value as data, whatever objects the numbers in it are.  The keys of dictionaries stay as they
are. -/
def asData : Value → Value
  | .float x _ => .float x (.given 0)
  | .decimal d _ => .decimal d 0
  | .list items => .list (itemsAsData items)
  | .tuple items => .tuple (itemsAsData items)
  | .set frozen items => .set frozen (itemsAsData items)
  | .dict entries => .dict (entriesAsData entries)
  | .condition field operand op joined => .condition field operand.asData op joined
  | v => v

def itemsAsData : List Value → List Value
  | [] => []
  | v :: rest => v.asData :: itemsAsData rest

def entriesAsData : List (Value × Value) → List (Value × Value)
  | [] => []
  | (k, v) :: rest => (k, v.asData) :: entriesAsData rest

end

/-- What a value is stored as, as data. -/
def storedData (v : Value) : Except Fault Value :=
  v.store.map asData

/-- The store form of a document, which has to be a dictionary (`to_store_document`). -/
def storeDocument : Value → Except Fault Value
  | .dict entries => return .dict (← storeEntries entries)
  | _ => .error .noSuchPart

end Docstore.Value
