import Docstore.Value.Display
import Docstore.Value.Equality

/-!
# Values read as mappings and as sequences

A mapping is read from a dictionary, from anything that is enumerated into pairs, or from a
condition or sort key by its fields.  Entries are set in order, so that of equal keys the first key
and the last value stay.
-/

namespace Docstore.Value

/-- The elements of a value that can be enumerated; one that cannot is named by its type. -/
def elements (v : Value) : Except Fault (List Value) :=
  match v.elements? with
  | some items => .ok items
  | none => .error (.wrongType (some ("'" ++ v.fullTypeName ++ "' object is not iterable")))

/-- The pair that an item at a position is enumerated into. -/
def pairAt (position : Nat) (item : Value) : Except Fault (Value × Value) := do
  match ← item.elements with
  | [k, v] => if k.isKey then .ok (k, v) else .error (.wrongType none)
  | parts => .error (.flawed (.entryLength position parts.length))

/-- The entries of the items from a position on, set after those already there. -/
def readEntries (entries : List (Value × Value)) :
    (position : Nat) → List Value → Except Fault (List (Value × Value))
  | _, [] => .ok entries
  | position, item :: rest => do
    let (k, v) ← pairAt position item
    readEntries (insert k v entries) (position + 1) rest

/-- The entries of a value read as a mapping. -/
def mapping : Value → Except Fault (List (Value × Value))
  | .dict entries => .ok entries
  | v => do
    let items ← v.elements
    readEntries [] 0 items

def entries : Value → Except Fault (List (Value × Value))
  | .dict entries => .ok entries
  | _ => .error .noSuchPart

/-- The item of a sequence at an index, which counts from the front, or back from the end if it is
negative. -/
def itemAt {α : Type} (sequence : Sequence) (items : List α) (index : Int) : Except Fault α :=
  if index < -Int.pow 2 63 ∨ Int.pow 2 63 ≤ index then .error .placeTooLarge
  else match if index < 0 then index + items.length else index with
  | .ofNat n => match items[n]? with
    | some x => .ok x
    | none => .error (.outOfRange sequence)
  | .negSucc _ => .error (.outOfRange sequence)

/-- The items of a value that gives them by their places. -/
def sequence? : Value → Option (Sequence × List Value)
  | .list items => some (.list, items)
  | .tuple items => some (.tuple, items)
  | .bytes octets => some (.octets, octets.map fun o => .int o.toNat)
  | v => v.text?.map fun s => (.text, characters s)

/-- The part of a value under a key that it has to have: what a dictionary holds, or the item of a
sequence at an index. -/
def part (v key : Value) : Except Fault Value :=
  match v with
  | .dict entries =>
    if !key.isKey then .error (.wrongType none)
    else match lookup key entries with
      | some found => .ok found
      | none => .error (.missingKey (some key))
  | _ => match v.sequence?, key.whole? with
    | some (sequence, items), some index => itemAt sequence items index
    | _, _ => .error (.wrongType none)

def size : Value → Except Fault Nat
  | .condition .. | .sortKey .. => .error (.wrongType none)
  | v => return (← v.elements).length

/-- The character of an octet in ASCII, or the one that stands for unknown characters. -/
def asciiCharacter (octet : UInt8) : Char :=
  if octet.toNat < 0x80 then Char.ofNat octet.toNat else '\ufffd'

/-- The integer that a value is turned into: fractions are cut off, numerals are read, and an
identifier is the number of its bits.  Of octets that are no numeral the first two hundred are
shown. -/
def toInt (v : Value) : Except Fault Int :=
  let read := fun (digit : Char → Option Nat) (cs : List Char) (shown : String) =>
    match Text.readInt digit cs with
    | .number n => Except.ok n
    | .notNumeral => .error (Fault.flawed (.notNumeral shown))
    | .tooLong count => .error (.flawed (.tooManyDigits count))
  match v with
  | .bool b => .ok (if b then 1 else 0)
  | .int n => .ok n
  | .uuid u => .ok u.bits
  | .float x _ => match x.truncate? with
    | some n => .ok n
    | none => .error (if x = .nan then .flawed (.nanAsInteger true) else .infiniteInteger true)
  | .decimal d _ => match d, d.truncate? with
    | _, some n => .ok n
    | .infinity _, none => .error (.infiniteInteger false)
    | _, none => .error (.flawed (.nanAsInteger false))
  | .bytes octets =>
    read Text.asciiDigit? (octets.map asciiCharacter) (bytes (octets.take 200)).spelling
  | other => match other.text? with
    | some s => read Text.decimalDigit? s.toList v.spelling
    | none => .error (.wrongType none)

example : itemAt .list ["a", "b"] (-1) = .ok "b" := by rfl
example : (str "ab").part (.bool true) = .ok (.str "b") := by rfl
example : toInt (.float (Binary64.ofRatio true 5 2) (.given 0)) = .ok (-2) := by rfl

end Docstore.Value
