import Docstore.Sorting.Bisection

/-!
# Merging runs

Two runs that ascend are merged into one from their fronts or from their backs, so that of items
that may stand either way those of the left run go first.  Items are compared one by one until one
run has won often enough; then its items are passed over in gallops, steps that double, as long as
that pays.  How often is enough is a threshold, which falls while galloping pays and rises when it
does not.

Where the order leaves items incomparable the result depends on which items are compared, and that
is fixed by this method.

Main statements: moving items keeps them all (`Merging.items_moveLeft`, `Merging.items_moveRight`).
-/

namespace Docstore.Sorting

variable {α ε : Type}

/-- Doubles a step away from a place while a test holds at the end of the step: the last two steps,
the longer one not beyond a limit.  `probe` gives the item at a distance. -/
def stride (holds : α → Except ε Bool) (probe : Nat → Option α) (limit : Nat) :
    (fuel last step : Nat) → Except ε (Nat × Nat)
  | 0, last, step => .ok (last, min step limit)
  | fuel + 1, last, step =>
    if step < limit then match probe step with
      | some y => do
        if ← holds y then stride holds probe limit fuel step (2 * step + 1)
        else return (last, step)
      | none => .ok (last, limit)
    else .ok (last, limit)

/-- The place where the items that come after something begin, looked for in gallops from a hint and
then by bisection. -/
def gallop (isAfter : α → Except ε Bool) (items : Array α) (hint : Nat) : Except ε Nat := do
  match items[hint]? with
  | none => return 0
  | some y =>
    if ← isAfter y then
      let (last, step) ← stride isAfter (fun n => items[hint - n]?) (hint + 1) items.size 0 1
      bisect isAfter items items.size (hint + 1 - step) (hint - last)
    else
      let isBefore := fun y => do return !(← isAfter y)
      let (last, step) ← stride isBefore (fun n => items[hint + n]?) (items.size - hint) items.size
        0 1
      bisect isAfter items items.size (hint + last + 1) (hint + step)

/-- The ends from which two runs are merged. -/
inductive Ends where
  | fronts
  | backs
deriving DecidableEq, Repr

/-- Two runs that are being merged: the items that were moved, the last one first, and those that
are left of each run, the next one first. -/
structure Merging (α : Type) where
  moved : List α
  left : List α
  right : List α

namespace Merging

/-- Two runs before anything is moved. -/
def start (left right : List α) : Ends → Merging α
  | .fronts => ⟨[], left, right⟩
  | .backs => ⟨[], left.reverse, right.reverse⟩

def moveLeft (count : Nat) (m : Merging α) : Merging α :=
  ⟨(m.left.take count).reverse ++ m.moved, m.left.drop count, m.right⟩

def moveRight (count : Nat) (m : Merging α) : Merging α :=
  ⟨(m.right.take count).reverse ++ m.moved, m.left, m.right.drop count⟩

def items (m : Merging α) : List α :=
  m.moved ++ m.left ++ m.right

theorem items_moveLeft (count : Nat) (m : Merging α) : (m.moveLeft count).items.Perm m.items := by
  unfold items moveLeft
  refine List.Perm.append_right _ ?_
  calc ((m.left.take count).reverse ++ m.moved ++ m.left.drop count).Perm
        (m.left.take count ++ m.moved ++ m.left.drop count) :=
        ((List.reverse_perm _).append_right _).append_right _
    _ |>.Perm (m.moved ++ m.left.take count ++ m.left.drop count) :=
        List.perm_append_comm.append_right _
    _ = m.moved ++ m.left := by rw [List.append_assoc, List.take_append_drop]

theorem items_moveRight (count : Nat) (m : Merging α) : (m.moveRight count).items.Perm m.items := by
  unfold items moveRight
  calc ((m.right.take count).reverse ++ m.moved ++ m.left ++ m.right.drop count).Perm
        (m.right.take count ++ (m.moved ++ m.left) ++ m.right.drop count) := by
        rw [List.append_assoc _ m.moved]
        exact ((List.reverse_perm _).append_right _).append_right _
    _ |>.Perm (m.moved ++ m.left ++ m.right.take count ++ m.right.drop count) :=
        List.perm_append_comm.append_right _
    _ = m.moved ++ m.left ++ m.right := by rw [List.append_assoc _ (List.take ..),
      List.take_append_drop]

/-- Whether nothing is left to compare: from the fronts, the last item of the left run is known to
stand behind all others, and from the backs the first item of the right run before all others. -/
def isOver (m : Merging α) : Ends → Bool
  | .fronts => m.left.tail.isEmpty || m.right.isEmpty
  | .backs => m.right.tail.isEmpty || m.left.isEmpty

def result (m : Merging α) : Ends → List α
  | .fronts => m.moved.reverse ++ m.right ++ m.left
  | .backs => m.right.reverse ++ m.left.reverse ++ m.moved

/-- How many of the next items of a run can be moved in one go: from the fronts those before the
place where the items after something begin, from the backs those behind it. -/
def reach (isAfter : α → Except ε Bool) (next : List α) : Ends → Except ε Nat
  | .fronts => gallop isAfter next.toArray 0
  | .backs => do
    return next.length - (← gallop isAfter next.reverse.toArray (next.length - 1))

variable (lt : α → α → Except ε Bool) (ends : Ends)

/-- Moves items one by one until the merge is over or one run has won as often in a row as the
threshold says. -/
def oneByOne (threshold : Nat) :
    (fuel leftWins rightWins : Nat) → Merging α → Except ε (Merging α)
  | 0, _, _, m => .ok m
  | fuel + 1, leftWins, rightWins, m =>
    match m.left, m.right with
    | x :: _, y :: _ => do
      let rightIsLess ← lt y x
      if rightIsLess == (ends == .fronts) then
        let after := m.moveRight 1
        if after.isOver ends || threshold ≤ rightWins + 1 then return after
        else oneByOne threshold fuel 0 (rightWins + 1) after
      else
        let after := m.moveLeft 1
        if after.isOver ends || threshold ≤ leftWins + 1 then return after
        else oneByOne threshold fuel (leftWins + 1) 0 after
    | _, _ => .ok m

/-- Moves the items of the left run that the next one of the right run allows, and that one; how
many they were. -/
def gallopLeft (m : Merging α) : Except ε (Nat × Merging α) :=
  match m.right with
  | [] => .ok (0, m)
  | y :: _ => do
    let count ← reach (fun x => lt y x) m.left ends
    let after := m.moveLeft count
    return (count, if after.isOver ends then after else after.moveRight 1)

/-- Moves the items of the right run that the next one of the left run allows, and that one; how
many they were. -/
def gallopRight (m : Merging α) : Except ε (Nat × Merging α) :=
  match m.left with
  | [] => .ok (0, m)
  | x :: _ => do
    let count ← reach (fun y => do return !(← lt y x)) m.right ends
    let after := m.moveRight count
    return (count, if after.isOver ends then after else after.moveLeft 1)

/-- The length of a gallop that pays. -/
def worthwhile : Nat := 7

/-- Gallops over both runs by turns until the merge is over or gallops do not pay any more; the
threshold after that. -/
def galloping : (fuel threshold : Nat) → Merging α → Except ε (Nat × Merging α)
  | 0, threshold, m => .ok (threshold, m)
  | fuel + 1, threshold, m => do
    let (leftCount, m) ← gallopLeft lt ends m
    if m.isOver ends then return (threshold, m)
    let (rightCount, m) ← gallopRight lt ends m
    if m.isOver ends then return (threshold, m)
    if worthwhile ≤ leftCount || worthwhile ≤ rightCount then
      galloping fuel (if 1 < threshold then threshold - 1 else threshold) m
    else return (threshold + 1, m)

/-- Merges what is left; the threshold after that, and the one run. -/
def finish : (fuel threshold : Nat) → Merging α → Except ε (Nat × List α)
  | 0, threshold, m => .ok (threshold, m.result ends)
  | fuel + 1, threshold, m =>
    if m.isOver ends then .ok (threshold, m.result ends)
    else do
      let m ← oneByOne lt ends threshold (m.left.length + m.right.length) 0 0 m
      if m.isOver ends then return (threshold, m.result ends)
      let (threshold, m) ← galloping lt ends (m.left.length + m.right.length) threshold m
      finish fuel threshold m

end Merging

/-- Merges two runs of which it is known that the first item of the right one goes before all of the
left one, and the last item of the left one behind all of the right one. -/
def mergeOverlap (lt : α → α → Except ε Bool) (threshold : Nat) (left right : List α) :
    Except ε (Nat × List α) :=
  let size := left.length + right.length
  if left.length ≤ right.length then
    Merging.finish lt .fronts size threshold ((Merging.start left right .fronts).moveRight 1)
  else Merging.finish lt .backs size threshold ((Merging.start left right .backs).moveLeft 1)

/-- Merges two runs; the threshold after that, and the one run.  The items at the outer ends that
stand in their places already stay out of it. -/
def mergeRuns (lt : α → α → Except ε Bool) (threshold : Nat) (left right : List α) :
    Except ε (Nat × List α) :=
  match right with
  | [] => .ok (threshold, left)
  | first :: _ => do
    let start ← gallop (fun x => lt first x) left.toArray 0
    match (left.drop start).getLast? with
    | none => return (threshold, left ++ right)
    | some last =>
      let stop ← gallop (fun y => do return !(← lt y last)) right.toArray (right.length - 1)
      if stop = 0 then return (threshold, left ++ right)
      let (threshold, merged) ← mergeOverlap lt threshold (left.drop start) (right.take stop)
      return (threshold, left.take start ++ merged ++ right.drop stop)

end Docstore.Sorting
