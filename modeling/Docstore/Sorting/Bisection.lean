/-!
# Runs and bisection

Where an order leaves items incomparable, or refuses to compare them, the result of sorting depends
on the comparisons made.  Two steps of sorting fix theirs here: finding the items at the front that
already ascend, or strictly descend and are then turned around; and putting an item in its place
among sorted ones by bisection, to the right of its equals.  The first comparison that is refused
ends either.
-/

namespace Docstore.Sorting

variable {α ε : Type}

/-- How many items at the front ascend, after an item that went before. -/
def ascending (lt : α → α → Except ε Bool) (last : α) : List α → Except ε Nat
  | [] => .ok 0
  | x :: rest => do
    if ← lt x last then return 0
    return (← ascending lt x rest) + 1

/-- How many items at the front strictly descend, after an item that went before. -/
def descending (lt : α → α → Except ε Bool) (last : α) : List α → Except ε Nat
  | [] => .ok 0
  | x :: rest => do
    if ← lt x last then return (← descending lt x rest) + 1
    return 0

/-- The run at the front, in ascending order, and the items after it. -/
def splitRun (lt : α → α → Except ε Bool) : List α → Except ε (List α × List α)
  | x :: y :: rest => do
    if ← lt y x then
      let size := (← descending lt y rest) + 2
      return (((x :: y :: rest).take size).reverse, (x :: y :: rest).drop size)
    else
      let size := (← ascending lt y rest) + 2
      return ((x :: y :: rest).take size, (x :: y :: rest).drop size)
  | short => .ok (short, [])

/-- The place between two others where the items that come after something begin. -/
def bisect (isAfter : α → Except ε Bool) (items : Array α) :
    (fuel low high : Nat) → Except ε Nat
  | 0, low, _ => .ok low
  | fuel + 1, low, high =>
    if low < high then
      let middle := low + (high - low) / 2
      match items[middle]? with
      | some y => do
        if ← isAfter y then bisect isAfter items fuel low middle
        else bisect isAfter items fuel (middle + 1) high
      | none => .ok low
    else .ok low

/-- Puts an item in its place among sorted ones. -/
def placeByBisection (lt : α → α → Except ε Bool) (sorted : List α) (x : α) :
    Except ε (List α) := do
  let place ← bisect (lt x) sorted.toArray sorted.length 0 sorted.length
  return sorted.take place ++ x :: sorted.drop place

/-- Puts items in their places among sorted ones, one by one. -/
def placeAll (lt : α → α → Except ε Bool) (sorted items : List α) : Except ε (List α) :=
  items.foldlM (placeByBisection lt) sorted

/-- The outcome of placing numbers, of which none may be seven. -/
example : placeAll (fun m n : Nat => if n = 7 then Except.error n else .ok (decide (m < n)))
    [1, 3] [2, 3, 0] = .ok [0, 1, 2, 3, 3] := by
  rfl

end Docstore.Sorting
