import Docstore.Value

/-!
# Equality of values

Numbers of all types are equal when they stand for the same number; texts are equal by content,
whatever type they have; lists, tuples, sets and dictionaries by their contents, where the order of
a set or a dictionary does not count.  A comparison with a signaling number is refused, so that a
comparison has three outcomes.

Containers compare their parts as objects first: not-a-number differs from itself, but within a
container the same object is equal to itself.  Sets and dictionaries are looked up and changed by
this equality of parts; the closing examples fix both across types.
-/

namespace Docstore

inductive Verdict where
  | equal
  | different
  | refused
deriving DecidableEq, Repr

namespace Verdict

/-- The outcome for two parts, the second looked at only if the first are equal. -/
def and (first : Verdict) (second : Verdict) : Verdict :=
  match first with
  | equal => second
  | other => other

/-- The outcome of a comparison that is never refused. -/
def ofBool (b : Bool) : Verdict :=
  if b then equal else different

end Verdict

namespace Number

/-- Compares two numbers; not-a-number values differ from everything, themselves included. -/
def compare : Number → Number → Verdict
  | .signaling, _ => .refused
  | _, .signaling => .refused
  | .nan, _ => .different
  | x, y => .ofBool (x == y)

end Number

namespace Value

/-- Compares two values that have no parts. -/
def compareAtoms (v w : Value) : Verdict :=
  match v.number?, w.number? with
  | some x, some y => x.compare y
  | _, _ =>
    match v.text?, w.text? with
    | some s, some t => .ofBool (s == t)
    | _, _ =>
      match v, w with
      | .null, .null => .equal
      | .timestamp s, .timestamp t => .ofBool (s.sameTime t)
      | .date c, .date d => .ofBool (c == d)
      | .uuid u, .uuid x => .ofBool (u == x)
      | .bytes xs, .bytes ys => .ofBool (xs == ys)
      | .sortKey f c, .sortKey g d => .ofBool (f == g && c == d)
      | _, _ => .different

/-- Whether two numbers are the same object. -/
def isOneObject : Value → Value → Bool
  | .float x object, .float y other => x == y && object == other
  | .decimal c object, .decimal d other => c == d && object == other
  | _, _ => false

/-- The outcome for two parts of containers, which are equal if they are the same object and
otherwise compared. -/
def asParts (v w : Value) (compared : Verdict) : Verdict :=
  if v.isOneObject w then .equal else compared

mutual

/-- Compares two values. -/
def compare : Value → Value → Verdict
  | .list xs, .list ys => if xs.length = ys.length then compareItems xs ys else .different
  | .tuple xs, .tuple ys => compareItems xs ys
  | .set _ xs, .set _ ys => if xs.length = ys.length then compareWithin xs ys else .different
  | .dict kvs, .dict lvs => if kvs.length = lvs.length then compareEntries kvs lvs else .different
  | .condition f v o c, .condition g w p d =>
    (Verdict.ofBool (f == g)).and ((asParts v w (compare v w)).and (.ofBool (o == p && c == d)))
  | .list _, _ | .tuple _, _ | .set _ _, _ | .dict _, _ | .condition .., _ => .different
  | v, w => compareAtoms v w

/-- Compares two sequences, item by item. -/
def compareItems : List Value → List Value → Verdict
  | [], [] => .equal
  | v :: vs, w :: ws => (asParts v w (compare v w)).and (compareItems vs ws)
  | _, _ => .different

/-- Whether every value is among others. -/
def compareWithin : List Value → List Value → Verdict
  | [], _ => .equal
  | v :: vs, ws =>
    (Verdict.ofBool (ws.any fun w => asParts v w (compare v w) == .equal)).and (compareWithin vs ws)

/-- Whether every entry is matched by one with an equal key and an equal value. -/
def compareEntries : List (Value × Value) → List (Value × Value) → Verdict
  | [], _ => .equal
  | (k, v) :: rest, others =>
    match others.find? fun (l, _) => asParts k l (compare k l) == .equal with
    | none => .different
    | some (_, w) => (asParts v w (compare v w)).and (compareEntries rest others)

end

/-- Compares two values as parts of containers. -/
def comparePart (v w : Value) : Verdict :=
  asParts v w (compare v w)

/-- Whether two values are equal as parts of containers. -/
def isEqual (v w : Value) : Bool :=
  comparePart v w == .equal

instance : BEq Value := ⟨isEqual⟩

@[simp] theorem isEqual_str (s t : String) : isEqual (.str s) (.str t) = (s == t) := by
  unfold isEqual comparePart asParts isOneObject compare compareAtoms
  simp only [number?, text?, Verdict.ofBool]
  cases s == t <;> rfl

/-! ## Dictionaries by key -/

/-- The value that a dictionary holds under a key. -/
def lookup (key : Value) (entries : List (Value × Value)) : Option Value :=
  (entries.find? fun (k, _) => isEqual k key).map (·.2)

/-- Sets a key: in its place if the dictionary has it, at the end otherwise.  The key that was there
first stays. -/
def insert (key value : Value) : List (Value × Value) → List (Value × Value)
  | [] => [(key, value)]
  | (k, v) :: rest => if isEqual k key then (k, value) :: rest else (k, v) :: insert key value rest

/-- A dictionary of the given entries, set in order. -/
def ofEntries (entries : List (Value × Value)) : List (Value × Value) :=
  entries.foldl (fun acc (k, v) => insert k v acc) []

/-- The elements of a set, given in order; of equal ones the first is kept. -/
def distinct (items : List Value) : List Value :=
  items.foldl (fun acc v => if acc.any (isEqual · v) then acc else acc ++ [v]) []

example : isEqual (.bool true) (.decimal (.finite false 10 (-1)) 0) = true := by decide +kernel
example : isEqual (.list [.int 1]) (.tuple [.int 1]) = false := by decide +kernel
example : compare (.decimal (.nan false true 0) 0) (.int 1) = .refused := by decide +kernel
example : compare (.decimal (.nan false true 0) 0) .null = .different := by decide +kernel
example : compare (.float .nan (.given 0)) (.float .nan (.given 0)) = .different := by
  decide +kernel
example : isEqual (.tuple [.float .nan (.given 0)]) (.tuple [.float .nan (.given 0)]) = true := by
  decide +kernel
example : isEqual (.tuple [.float .nan (.given 0)]) (.tuple [.float .nan (.given 1)]) = false := by
  decide +kernel

end Value

end Docstore
