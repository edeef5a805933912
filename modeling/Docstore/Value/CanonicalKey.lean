import Docstore.Sorting.Runs
import Docstore.Value.Order
import Docstore.Value.StoreForm

/-!
# Canonical keys

The canonical key of a value (`canonical_key`) is its store form as compact JSON text, the entries of
each object in the order of their keys.  Values with the same key are interchangeable as literals of
a query.

The keys of one object have an order among themselves: mostly they are all texts, ordered by code
points.  A value that JSON has no form for, or a key that is neither text nor number nor truth value
nor nothing, has no canonical key.
-/

namespace Docstore

namespace Json

/-- One character of a JSON string. -/
def escaped (c : Char) : List Char :=
  if c = '"' then ['\\', '"']
  else if c = '\\' then ['\\', '\\']
  else if c = '\n' then ['\\', 'n']
  else if c = '\r' then ['\\', 'r']
  else if c = '\t' then ['\\', 't']
  else if c = '\x08' then ['\\', 'b']
  else if c = '\x0c' then ['\\', 'f']
  else if c.toNat < 0x20 then ['\\', 'u'] ++ Text.hex 4 c.toNat
  else [c]

def string (cs : List Char) : List Char :=
  '"' :: cs.flatMap escaped ++ ['"']

/-- The names of numbers without digits. -/
def names : Binary64.Names := ⟨"NaN", "Infinity"⟩

def float (x : Binary64) : List Char :=
  (x.textWith names).toList

/-- An integer, unless it has more digits than are ever written. -/
def int (n : Int) : Except Fault (List Char) :=
  if Text.isWritable n then .ok (Text.ofInt n).toList
  else .error (.flawed .tooLongToWrite)

def bool (b : Bool) : List Char :=
  if b then ['t', 'r', 'u', 'e'] else ['f', 'a', 'l', 's', 'e']

def null : List Char := ['n', 'u', 'l', 'l']

/-- The text of an object's key, before it is put into quotes. -/
def keyText (key : Value) : Except Fault (List Char) :=
  match key with
  | .null => .ok null
  | .bool b => .ok (bool b)
  | .int n => int n
  | .float x _ => .ok (float x)
  | k => match k.text? with
    | some s => .ok s.toList
    | none => .error (.wrongType none)

def commas : List (List Char) → List Char
  | [] => []
  | [only] => only
  | first :: rest => first ++ ',' :: commas rest

section Order

variable {β : Type}

/-- The entries of an object in the order of their keys. -/
def ordered (entries : List (Value × β)) : Except Fault (List (Value × β)) :=
  if entries.all (fun e => e.1.text?.isSome) then
    .ok (Sorting.sort
      (fun x y => decide (x.1.text?.getD "" ≤ y.1.text?.getD "")) entries)
  else Sorting.sortByRuns (fun x y => x.1.before y.1) entries

end Order

/-- The text of one entry, from its key and the text of its value. -/
def entry (key : Value) (text : Except Fault (List Char)) : Except Fault (List Char) := do
  let k ← keyText key
  let t ← text
  return string k ++ ':' :: t

mutual

def write : Value → Except Fault (List Char)
  | .null => .ok null
  | .bool b => .ok (bool b)
  | .int n => int n
  | .float x _ => .ok (float x)
  | .str s => .ok (string s.toList)
  | .operator op => .ok (string op.text.toList)
  | .connector c => .ok (string c.text.toList)
  | .direction d => .ok (string d.text.toList)
  | .list items | .tuple items => do
    let texts ← writeItems items
    return '[' :: commas texts ++ [']']
  | .dict entries => do
    let sorted ← ordered (writeEntries entries)
    let texts ← sorted.mapM fun e => entry e.1 e.2
    return '\x7b' :: commas texts ++ ['\x7d']
  | _ => .error (.wrongType none)

def writeItems : List Value → Except Fault (List (List Char))
  | [] => .ok []
  | v :: rest => do
    let text ← write v
    let others ← writeItems rest
    return text :: others

/-- The entries of an object with the JSON texts of their values. -/
def writeEntries : List (Value × Value) → List (Value × Except Fault (List Char))
  | [] => []
  | (k, v) :: rest => (k, write v) :: writeEntries rest

end

end Json

def Value.canonicalKey (v : Value) : Except Fault String := do
  let stored ← v.store
  let text ← Json.write stored
  return String.ofList text

end Docstore
