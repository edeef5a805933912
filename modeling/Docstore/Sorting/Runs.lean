import Docstore.Sorting.Merge

/-!
# Sorting by runs

Items are sorted by cutting them into runs and merging neighbouring runs.  A run is what ascends or
strictly descends at the front; a short one is filled up by bisection to a least length.  Which runs
are merged when follows from the power of the boundary between two runs: how often the whole has to
be halved until a cut falls between their middles.  Boundaries of greater power are merged away
first.

The first comparison that is refused ends the sorting.
-/

namespace Docstore.Sorting

variable {α ε : Type}

/-- The number of items below which a single run is made of all. -/
def shortest : Nat := 64

/-- The least length of a run: the number of items halved, rounding up once in the end, until it is
below `shortest`. -/
def leastRun : (fuel count : Nat) → (odd : Bool) → Nat
  | 0, count, _ => count
  | fuel + 1, count, odd =>
    if count < shortest then count + (if odd then 1 else 0)
    else leastRun fuel (count / 2) (odd || count % 2 == 1)

/-- The power of the boundary between two runs whose middles, doubled, are at `left` and `right`
among `total` items: the first binary digit in which the quotients by `total` differ. -/
def power (total : Nat) : (fuel left right : Nat) → Nat
  | 0, _, _ => 0
  | fuel + 1, left, right =>
    if total ≤ left then power total fuel (2 * (left - total)) (2 * (right - total)) + 1
    else if total ≤ right then 1
    else power total fuel (2 * left) (2 * right) + 1

/-- A run that waits to be merged: its place, its items, and the power of the boundary after it. -/
structure Pending (α : Type) where
  start : Nat
  items : List α
  power : Nat := 0

def Pending.join (lt : α → α → Except ε Bool) (threshold : Nat) (p q : Pending α) :
    Except ε (Nat × Pending α) := do
  let (threshold, merged) ← mergeRuns lt threshold p.items q.items
  return (threshold, ⟨p.start, merged, q.power⟩)

/-- Merges the last run with those before it as long as the boundaries between have more than a
given power; the runs are listed from the last to the first. -/
def collapse (lt : α → α → Except ε Bool) (power : Nat) :
    (threshold : Nat) → Pending α → List (Pending α) → Except ε (Nat × List (Pending α))
  | threshold, last, [] => .ok (threshold, [last])
  | threshold, last, p :: rest =>
    if power < p.power then do
      let (threshold, joined) ← p.join lt threshold last
      collapse lt power threshold joined rest
    else .ok (threshold, last :: p :: rest)

/-- Puts a new run behind others, of which some are merged before that. -/
def push (lt : α → α → Except ε Bool) (total threshold : Nat) (runs : List (Pending α))
    (items : List α) : Except ε (Nat × List (Pending α)) :=
  match runs with
  | [] => .ok (threshold, [⟨0, items, 0⟩])
  | last :: rest => do
    let middle := 2 * last.start + last.items.length
    let boundary := power total (2 * total) middle (middle + last.items.length + items.length)
    let fresh : Pending α := ⟨last.start + last.items.length, items, 0⟩
    let (threshold, runs) ← collapse lt boundary threshold last rest
    match runs with
    | [] => return (threshold, [fresh])
    | last :: rest => return (threshold, fresh :: { last with power := boundary } :: rest)

/-- Merges all runs, the shorter of two neighbours of a run first. -/
def collapseAll (lt : α → α → Except ε Bool) :
    (fuel threshold : Nat) → List (Pending α) → Except ε (List α)
  | _, _, [] => .ok []
  | _, _, [p] => .ok p.items
  | 0, _, _ => .ok []
  | fuel + 1, threshold, r :: q :: p :: rest => do
    if p.items.length < r.items.length then
      let (threshold, joined) ← p.join lt threshold q
      collapseAll lt fuel threshold (r :: joined :: rest)
    else
      let (threshold, joined) ← q.join lt threshold r
      collapseAll lt fuel threshold (joined :: p :: rest)
  | fuel + 1, threshold, [q, p] => do
    let (threshold, joined) ← p.join lt threshold q
    collapseAll lt fuel threshold [joined]

/-- Cuts items into runs, and merges those that can be merged already. -/
def collect (lt : α → α → Except ε Bool) (total least : Nat) :
    (fuel threshold : Nat) → List (Pending α) → List α → Except ε (Nat × List (Pending α))
  | 0, threshold, runs, _ => .ok (threshold, runs)
  | fuel + 1, threshold, runs, items =>
    if items.isEmpty then .ok (threshold, runs)
    else do
      let (run, rest) ← splitRun lt items
      let missing := least - run.length
      let filled ← placeAll lt run (rest.take missing)
      let (threshold, runs) ← push lt total threshold runs filled
      collect lt total least fuel threshold runs (rest.drop missing)

def sortByRuns (lt : α → α → Except ε Bool) (items : List α) : Except ε (List α) := do
  let total := items.length
  let (threshold, runs) ← collect lt total (leastRun total total false) total Merging.worthwhile []
    items
  collapseAll lt runs.length threshold runs

/-- The outcome of sorting numbers, of which none may be seven. -/
example : sortByRuns (fun m n : Nat => if n = 7 then Except.error n else .ok (decide (m < n)))
    [3, 1, 2, 3, 0] = .ok [0, 1, 2, 3, 3] := by
  rfl

end Docstore.Sorting
