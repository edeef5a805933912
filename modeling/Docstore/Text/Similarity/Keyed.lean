import Docstore.Text.Similarity

/-!
# Similarity of what is looked up by number

What is compared need not be a text.  It enumerates symbols, and gives the symbol at a place when it
is asked for it.  The two need not agree: a dictionary enumerates its keys, and gives what it holds
under a number.

The cheap bounds look at the symbols as they are enumerated.  For the exact count, the first side is
asked for all of its places in turn; blocks are searched among the symbols that the second side
enumerates, and extended over the symbols that it gives at places.  Asking may fail, which ends the
comparison, so the order of asking is part of it: a block is extended to the left first and then to
the right, even if it is empty, and what is right of a block is matched before what is left of it.
-/

namespace Docstore.Similarity

variable {ε α : Type}

/-- What gives symbols: how many, which ones as they are enumerated, and the one at a place. -/
structure Keyed (ε α : Type) where
  size : Nat
  symbols : Except ε (List α)
  symbolAt : Nat → Except ε α

namespace Keyed

/-- The symbols at as many places as there are symbols. -/
def spelled (k : Keyed ε α) : Except ε (List α) :=
  (List.range k.size).mapM k.symbolAt

/-- How many symbols at places agree with a text, from a place on to the right, among those that are
left. -/
def ahead [BEq α] (k : Keyed ε α) :
    (place : Nat) → (text : List α) → (left : Nat) → Except ε Nat
  | place, c :: cs, left + 1 => do
    if c == (← k.symbolAt place) then return (← k.ahead (place + 1) cs left) + 1
    else return 0
  | _, _, _ => .ok 0

/-- How many symbols at places agree with a text that runs to the left, down to a place with `left`
symbols between. -/
def back [BEq α] (k : Keyed ε α) (start : Nat) :
    (text : List α) → (left : Nat) → Except ε Nat
  | c :: cs, left + 1 => do
    if c == (← k.symbolAt (start + left)) then return (← k.back start cs left) + 1
    else return 0
  | _, _ => .ok 0

/-- A block extended as far as a text and `size` symbols from a place on agree on both sides. -/
def extend [BEq α] (k : Keyed ε α) (first : List α) (start size : Nat) (b : Block) :
    Except ε Block := do
  let back ← k.back start (first.take b.first).reverse b.second
  let place := b.second + b.size
  let ahead ← k.ahead (start + place) (first.drop (b.first + b.size)) (size - place)
  return ⟨b.first - back, b.second - back, back + b.size + ahead⟩

/-- The number of symbols of a text that are matched with those enumerated from a place on. -/
def matchedIn [BEq α] (k : Keyed ε α) (rare : α → Bool) :
    (fuel : Nat) → (first : List α) → (start : Nat) → (second : List α) → Except ε Nat
  | 0, _, _, _ => .ok 0
  | fuel + 1, first, start, second => do
    let found := longestRun rare second 0 first (second.map fun _ => 0) ⟨0, 0, 0⟩
    let b ← k.extend first start second.length found
    if b.size = 0 then return 0
    else
      let place := b.second + b.size
      let right ← k.matchedIn rare fuel (first.drop (b.first + b.size)) (start + place)
        (second.drop place)
      let left ← k.matchedIn rare fuel (first.take b.first) start (second.take b.second)
      return left + b.size + right

/-- The number of symbols that are matched, if every place that is asked for is there. -/
def matched [BEq α] (first second : Keyed ε α) : Except ε Nat := do
  let symbols ← second.symbols
  let text ← first.spelled
  second.matchedIn (fun c => !isPopular symbols c) text.length text 0 symbols

/-- The likeness of two sides, if they are close; the cheap bounds are looked at first. -/
def score [BEq α] (first second : Keyed ε α) : Except ε (Option Ratio) := do
  let symbols ← second.symbols
  if !(lengthRatio first.size second.size).isClose then return none
  if !(commonRatio (← first.symbols) symbols).isClose then return none
  let ratio := Ratio.of (← first.matched second) (first.size + second.size)
  return if ratio.isClose then some ratio else none

/-- The candidates that are close to something, with their likeness.  They are read and compared one
after the other. -/
def scored [BEq α] {β : Type} (k : Keyed ε α) (read : β → Except ε (Keyed ε α)) :
    List β → Except ε (List (Ratio × β))
  | [] => .ok []
  | x :: rest => do
    let likeness ← (← read x).score k
    let others ← k.scored read rest
    return likeness.toList.map (fun ratio => (ratio, x)) ++ others

/-- Numbers that are spelled as given. -/
private def spelling (cs : List Nat) : Keyed Nat Nat :=
  ⟨cs.length, .ok cs, fun place => match cs[place]? with
    | some c => .ok c
    | none => .error place⟩

/-- Numbers that can be enumerated, and not asked for. -/
private def placeless (cs : List Nat) : Keyed Nat Nat :=
  ⟨cs.length, .ok cs, .error⟩

example : (spelling [5, 6]).matched (placeless [5, 6]) = .ok 2 := by rfl
example : (spelling [5, 6, 7]).matched (placeless [5, 6, 8]) = .error 2 := by rfl
example : (placeless [5, 6]).matched (spelling [5, 6]) = .error 0 := by rfl
example : (placeless [5]).score (spelling [6]) = .ok none := by rfl

end Keyed

end Docstore.Similarity
