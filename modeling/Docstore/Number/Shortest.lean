import Docstore.Number.Binary64
import Docstore.Text.Numeral

/-!
# The shortest decimal text of a floating-point number

Every finite number is written with the fewest decimal digits that read back as the same number, and
among those with the digits nearest to it; half way between two, with the even last digit.  The
reals that read back as `m · 2 ^ e` form an interval around it, whose ends belong to it when the
mantissa is even.  For each count of digits the two decimal neighbours of the number are tried in
exact arithmetic.
-/

namespace Docstore.Binary64

/-- The reals that round to a number, in quarters of its last binary place: the lower end, the
number, the upper end, and whether the ends belong. -/
structure Interval where
  low : Nat
  value : Nat
  high : Nat
  closed : Bool
  /-- The binary exponent of a quarter. -/
  exponent : Int

/-- The interval around `mantissa · 2 ^ exponent`; below a power of two the gap is half as wide. -/
def intervalOf (mantissa : Nat) (exponent : Int) : Interval :=
  { low :=
      if mantissa = Nat.pow 2 52 ∧ exponent ≠ -1074 then 4 * mantissa - 1 else 4 * mantissa - 2
    value := 4 * mantissa
    high := 4 * mantissa + 2
    closed := mantissa % 2 == 0
    exponent := exponent - 2 }

/-- How many decimal digits a natural number has. -/
def digitCount (n : Nat) : Nat :=
  (Nat.toDigits 10 n).length

/-- The power of ten of the first significant digit of a positive quotient. -/
def leadingPower (num den : Nat) : Int :=
  if den ≤ num then (digitCount (num / den) : Int) - 1
  else -(digitCount ((den - 1) / num) : Int)

/-- Decimal digits and a power of ten: `digits · 10 ^ power`. -/
structure Decimals where
  digits : Nat
  power : Int
deriving DecidableEq, Repr

/-- The number of the interval nearest to its value among the multiples of `10 ^ power`, if any
lies in the interval; half way between two, the even multiple. -/
def onGrid (i : Interval) (power : Int) : Option Decimals :=
  let up := Nat.pow 2 i.exponent.toNat * Nat.pow 10 (-power).toNat
  let down := Nat.pow 2 (-i.exponent).toNat * Nat.pow 10 power.toNat
  let below := i.value * up / down
  let holds := fun n : Nat =>
    if i.closed then i.low * up ≤ n * down ∧ n * down ≤ i.high * up
    else i.low * up < n * down ∧ n * down < i.high * up
  let lowerHolds : Bool := decide (holds below)
  let upperHolds : Bool := decide (holds (below + 1))
  let middle := (2 * below + 1) * down
  let lowerIsNearer : Bool :=
    decide (2 * i.value * up < middle ∨ (2 * i.value * up = middle ∧ below % 2 = 0))
  if lowerHolds && (lowerIsNearer || !upperHolds) then some ⟨below, power⟩
  else if upperHolds then some ⟨below + 1, power⟩
  else none

/-- The first grid that has a number of the interval, from `count` digits on. -/
def firstOnGrid (i : Interval) (leading : Int) : (fuel count : Nat) → Decimals
  | 0, count => ⟨i.value, leading - count⟩
  | fuel + 1, count =>
    match onGrid i (leading + 1 - count) with
    | some d => d
    | none => firstOnGrid i leading fuel (count + 1)

/-- The shortest decimal digits of `mantissa · 2 ^ exponent`; seventeen always suffice. -/
def shortest (mantissa : Nat) (exponent : Int) : Decimals :=
  if mantissa = 0 then ⟨0, 0⟩
  else
    let i := intervalOf mantissa exponent
    let leading :=
      leadingPower (i.value * Nat.pow 2 i.exponent.toNat) (Nat.pow 2 (-i.exponent).toNat)
    firstOnGrid i leading 17 1

def dropFinalZeros (ds : List Char) : List Char :=
  (ds.reverse.dropWhile (· == '0')).reverse

/-- Digits with the point after the first `places` of them, and one digit at least on both
sides. -/
def positional (ds : List Char) (places : Int) : List Char :=
  if places ≤ 0 then
    ['0', '.'] ++ List.replicate (-places).toNat '0' ++ ds
  else
    let whole := places.toNat
    let front := ds.take whole ++ List.replicate (whole - ds.length) '0'
    let back := ds.drop whole
    front ++ ['.'] ++ (if back.isEmpty then ['0'] else back)

/-- Digits with the point after the first and a power of ten with its sign and two digits at
least. -/
def scientific (ds : List Char) (power : Int) : List Char :=
  let front := match ds with
    | [] => []
    | [d] => [d]
    | d :: rest => d :: '.' :: rest
  let size := Nat.toDigits 10 power.natAbs
  front ++ ['e', if power < 0 then '-' else '+'] ++ (if size.length < 2 then '0' :: size else size)

/-- The text of a finite magnitude: positional from `0.0001` on and below `10 ^ 16`, scientific
otherwise. -/
def magnitudeText (mantissa : Nat) (exponent : Int) : List Char :=
  if mantissa = 0 then ['0', '.', '0']
  else
    let d := shortest mantissa exponent
    let all := Nat.toDigits 10 d.digits
    let ds := dropFinalZeros all
    let power := d.power + all.length - 1
    if -4 ≤ power ∧ power < 16 then positional ds (power + 1) else scientific ds power

/-- The names of the numbers that have no digits. -/
structure Names where
  nan : String
  infinity : String

/-- The text of a number, given the names of those without digits. -/
def textWith (names : Names) : Binary64 → String
  | .nan => names.nan
  | .infinity negative => if negative then "-" ++ names.infinity else names.infinity
  | .finite negative mantissa exponent _ =>
    let body := magnitudeText mantissa exponent
    String.ofList (if negative then '-' :: body else body)

/-- The names in messages and in plain text. -/
def plainNames : Names := ⟨"nan", "inf"⟩

def text (x : Binary64) : String :=
  textWith plainNames x

example : (ofRatio false 1 10).text = "0.1" := by decide +kernel
example : (ofRatio true (10 ^ 23) 1).text = "-1e+23" := by decide +kernel
example : (ofRatio false 1 (10 ^ 5)).text = "1e-05" := by decide +kernel
example : (ofRatio false 5 (10 ^ 324)).text = "5e-324" := by decide +kernel

end Docstore.Binary64
