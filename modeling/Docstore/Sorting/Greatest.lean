import Docstore.Sorting.Runs

/-!
# The greatest of many

The greatest items, three at most, in descending order.  Three items or fewer are sorted.  Of more,
three are kept with the least of them in front, and an item that goes after that one takes its
place; the three that remain are sorted.  Of equal items the earlier ones are kept, and listed
first.

Where the order leaves items incomparable, or refuses to compare them, the result depends on the
comparisons made, and they are fixed by this method.  The first comparison that is refused ends it.
-/

namespace Docstore.Sorting

variable {α ε : Type}

/-- The items sorted in descending order. -/
def sortDescending (lt : α → α → Except ε Bool) (items : List α) : Except ε (List α) := do
  let sorted ← sortByRuns lt items.reverse
  return sorted.reverse

/-- Whether one item goes before another, each with its place; of equal ones the later goes
first. -/
def placedBefore (lt : α → α → Except ε Bool) (same : α → α → Bool) (x y : α × Nat) :
    Except ε Bool :=
  if same x.1 y.1 then .ok (decide (y.2 < x.2)) else lt x.1 y.1

/-- Three items, of which the least comes first. -/
structure Podium (α : Type) where
  least : α
  second : α
  third : α

/-- Puts the least of three items in front, where the first of them stands in its own place if it
goes before the lesser one of the others. -/
def Podium.of (lt : α → α → Except ε Bool) (x y z : α) : Except ε (Podium α) := do
  if ← lt y z then
    if ← lt x y then return ⟨x, y, z⟩ else return ⟨y, x, z⟩
  else
    if ← lt x z then return ⟨x, y, z⟩ else return ⟨z, y, x⟩

/-- Lets an item take the place of the least one that is kept, if it goes after that one. -/
def Podium.offer (lt : α → α → Except ε Bool) (same : α → α → Bool) (p : Podium (α × Nat))
    (x : α × Nat) : Except ε (Podium (α × Nat)) := do
  if ← lt p.least.1 x.1 then Podium.of (placedBefore lt same) x p.second p.third else return p

/-- The greatest items in descending order, three at most. -/
def greatestThree (lt : α → α → Except ε Bool) (same : α → α → Bool) (items : List α) :
    Except ε (List α) :=
  match items.zipIdx with
  | x :: y :: z :: w :: rest => do
    let kept ← (w :: rest).foldlM (Podium.offer lt same) (← Podium.of (placedBefore lt same) x y z)
    let sorted ← sortDescending (placedBefore lt same) [kept.least, kept.second, kept.third]
    return sorted.map (·.1)
  | _ => sortDescending lt items

/-- The outcome for numbers, of which none may be seven. -/
example : greatestThree (fun m n : Nat => if n = 7 then Except.error n else .ok (decide (m < n)))
    (· == ·) [3, 1, 4, 1, 5] = .ok [5, 4, 3] := by
  rfl

end Docstore.Sorting
