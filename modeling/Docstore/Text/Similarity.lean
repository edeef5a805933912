import Docstore.Sorting

/-!
# Similar texts

How alike two texts are: twice the number of matched characters over the number of all characters.
Characters are matched by taking the longest common block, earliest in the first and then in the
second text, and matching what is left and right of it in the same way.  Any symbols may stand in
place of characters.

In a long second text a character that occurs very often is popular: no block starts the search from
it, though a block that was found is extended over it.

`closest` picks the candidates whose texts are nearest to a given one (`get_close_matches`).  Two
cheap bounds go before the exact count: the number of characters that the texts have in common, and
the length of the shorter one.
-/

namespace Docstore.Similarity

variable {α : Type} [BEq α]

/-- A block of equal characters: where it starts in either text, and its size. -/
structure Block where
  first : Nat
  second : Nat
  size : Nat
deriving DecidableEq, Repr

/-- Whether a character occurs so often in a long text that no block is searched from it. -/
def isPopular (text : List α) (c : α) : Bool :=
  200 ≤ text.length && text.length / 100 + 1 < text.count c

/-- The sizes of the runs of matching characters that end at each place of the second text, given
those for the character before. -/
def runs (rare : α → Bool) (c : α) (second : List α) (previous : List Nat) : List Nat :=
  if rare c then List.zipWith (fun d size => if d == c then size + 1 else 0) second (0 :: previous)
  else second.map fun _ => 0

/-- The longest run so far, given those that end at one place of the first text. -/
def bestOf (place : Nat) (sizes : List Nat) (best : Block) : Block :=
  (sizes.zipIdx).foldl
    (fun best (size, at') => if best.size < size then ⟨place + 1 - size, at' + 1 - size, size⟩
      else best) best

/-- The longest run over the characters of the first text that are left. -/
def longestRun (rare : α → Bool) (second : List α) :
    (place : Nat) → (left : List α) → (previous : List Nat) → (best : Block) → Block
  | _, [], _, best => best
  | place, c :: rest, previous, best =>
    let sizes := runs rare c second previous
    longestRun rare second (place + 1) rest sizes (bestOf place sizes best)

/-- How many characters two texts share from the start on. -/
def shared : List α → List α → Nat
  | c :: cs, d :: ds => if c == d then shared cs ds + 1 else 0
  | _, _ => 0

/-- A block extended as far as the texts agree on both sides of it. -/
def Block.extend (first second : List α) (b : Block) : Block :=
  let back := shared (first.take b.first).reverse (second.take b.second).reverse
  let ahead := shared (first.drop (b.first + b.size)) (second.drop (b.second + b.size))
  ⟨b.first - back, b.second - back, back + b.size + ahead⟩

/-- The longest common block of two texts. -/
def longestBlock (rare : α → Bool) (first second : List α) : Block :=
  (longestRun rare second 0 first (second.map fun _ => 0) ⟨0, 0, 0⟩).extend first second

/-- The number of matched characters; each round takes a character from the first text at least,
so that its length bounds the rounds. -/
def matchedIn (rare : α → Bool) : (fuel : Nat) → List α → List α → Nat
  | 0, _, _ => 0
  | fuel + 1, first, second =>
    let b := longestBlock rare first second
    if b.size = 0 then 0
    else
      matchedIn rare fuel (first.take b.first) (second.take b.second) + b.size
        + matchedIn rare fuel (first.drop (b.first + b.size)) (second.drop (b.second + b.size))

def matched (first second : List α) : Nat :=
  matchedIn (fun c => !isPopular second c) first.length first second

/-- The number of characters that two texts have in common, each counted as often as both have
it. -/
def common (first second : List α) : Nat :=
  match first with
  | [] => 0
  | c :: rest =>
    if second.contains c then common rest (second.erase c) + 1 else common rest second

/-- A likeness between none and full: twice `count` over `total`. -/
structure Ratio where
  count : Nat
  total : Nat
deriving DecidableEq, Repr

namespace Ratio

/-- The likeness of two texts that share `count` characters of `total`; two empty texts are fully
alike. -/
def of (count total : Nat) : Ratio :=
  if total = 0 then ⟨1, 2⟩ else ⟨count, total⟩

/-- Whether the likeness is three fifths at least. -/
def isClose (r : Ratio) : Bool :=
  3 * r.total ≤ 10 * r.count

def le (r s : Ratio) : Bool :=
  r.count * s.total ≤ s.count * r.total

end Ratio

def ratio (first second : List α) : Ratio :=
  .of (matched first second) (first.length + second.length)

/-- The likeness if all characters in common were matched. -/
def commonRatio (first second : List α) : Ratio :=
  .of (common first second) (first.length + second.length)

/-- The likeness of two texts of given lengths if the shorter one were matched as a whole. -/
def lengthRatio (first second : Nat) : Ratio :=
  .of (min first second) (first + second)

/-- Whether a candidate is close to a text; the cheap bounds are looked at first. -/
def isCandidate (text candidate : List α) : Bool :=
  (lengthRatio candidate.length text.length).isClose && (commonRatio candidate text).isClose
    && (ratio candidate text).isClose

/-- Whether one scored text goes before another: by likeness, then by the text, both
descending. -/
def before (x y : Ratio × String) : Bool :=
  if x.1.le y.1 then if y.1.le x.1 then decide (y.2 ≤ x.2) else false else true

/-- The best of scored candidates by their texts, `limit` of them at most. -/
def ranked {β : Type} (limit : Nat) (textOf : β → String) (scored : List (Ratio × β)) : List β :=
  let sorted := Sorting.sort (fun x y => before (x.1, textOf x.2) (y.1, textOf y.2)) scored
  (sorted.take limit).map (·.2)

/-- The candidates whose texts are close to a text, the closest first, `limit` of them at most. -/
def closest {β : Type} (limit : Nat) (text : List Char) (textOf : β → String)
    (candidates : List β) : List β :=
  ranked limit textOf <| candidates.filterMap fun x =>
    let candidate := (textOf x).toList
    if isCandidate text candidate then some (ratio candidate text, x) else none

example : closest 3 "gtee".toList id ["eq", "gt", "gte", "lte"] = ["gte", "gt"] := by
  decide +kernel

end Docstore.Similarity
