import Docstore.Number.Decimal

/-!
# Exact numbers

Integers, binary and decimal numbers are compared by the number they stand for, whatever their
format.  A finite number has one normal form: a sign, a core that neither two nor five divides, and
the powers of two and of five.  Equality of numbers is then equality of data, also where writing
the number out would take a million digits.
-/

namespace Docstore

/-- The number `± core · 2 ^ twos · 5 ^ fives`. -/
structure Exact where
  negative : Bool
  core : Nat
  twos : Int
  fives : Int
deriving DecidableEq, Repr

namespace Exact

/-- Takes the factor `p` out of a number: what is left, and how often it was there. -/
def extract (p : Nat) : (fuel n : Nat) → Nat × Nat
  | 0, n => (n, 0)
  | fuel + 1, n =>
    if n % p = 0 then
      let (rest, count) := extract p fuel (n / p)
      (rest, count + 1)
    else (n, 0)

/-- The normal form of `± n · 2 ^ twos · 5 ^ fives`. -/
def ofScaled (negative : Bool) (n : Nat) (twos fives : Int) : Exact :=
  if n = 0 then ⟨false, 0, 0, 0⟩
  else
    let fuel := Nat.log2 n + 1
    let (odd, twoCount) := extract 2 fuel n
    let (core, fiveCount) := extract 5 fuel odd
    ⟨negative, core, twos + twoCount, fives + fiveCount⟩

def ofInt (n : Int) : Exact :=
  ofScaled (n < 0) n.natAbs 0 0

/-- An exponent of a power of two that a magnitude other than zero reaches: five is more than the
65/28th and less than the 72/31st power of two. -/
def reached (x : Exact) : Int :=
  x.core.log2 + x.twos + (if 0 ≤ x.fives then 65 * x.fives / 28 else 72 * x.fives / 31)

/-- An exponent of a power of two that a magnitude does not reach. -/
def unreached (x : Exact) : Int :=
  x.core.log2 + x.twos + (if 0 ≤ x.fives then 72 * x.fives / 31 else 65 * x.fives / 28) + 2

/-- Whether one magnitude is less than another.  Only where their powers of two do not tell are the
numbers written out. -/
def magnitudeLt (x y : Exact) : Bool :=
  if x.core = 0 ∨ y.core = 0 then x.core < y.core
  else if x.unreached ≤ y.reached then true
  else if y.unreached ≤ x.reached then false
  else
    let left := x.core * Nat.pow 2 (x.twos - y.twos).toNat * Nat.pow 5 (x.fives - y.fives).toNat
    let right := y.core * Nat.pow 2 (y.twos - x.twos).toNat * Nat.pow 5 (y.fives - x.fives).toNat
    left < right

/-- Whether one number is less than another. -/
def lt (x y : Exact) : Bool :=
  match x.negative, y.negative with
  | true, false => true
  | false, true => false
  | false, false => magnitudeLt x y
  | true, true => magnitudeLt y x

end Exact

/-- What a numeric value stands for. -/
inductive Number where
  | nan
  /-- Not a number, and refusing to be compared. -/
  | signaling
  | infinity (negative : Bool)
  | exact (x : Exact)
deriving DecidableEq, Repr

namespace Number

def ofBinary64 : Binary64 → Number
  | .nan => .nan
  | .infinity negative => .infinity negative
  | .finite negative mantissa exponent _ => .exact (.ofScaled negative mantissa exponent 0)

def ofDecimal : Decimal → Number
  | .nan _ loud _ => if loud then .signaling else .nan
  | .infinity negative => .infinity negative
  | .finite negative coefficient exponent =>
    .exact (.ofScaled negative coefficient exponent exponent)

def isNan : Number → Bool
  | .nan | .signaling => true
  | _ => false

/-- Whether one number is less than another; not-a-number values are less than nothing. -/
def lt : Number → Number → Bool
  | .exact x, .exact y => x.lt y
  | .infinity true, .infinity true => false
  | .infinity true, .exact _ => true
  | .infinity true, .infinity false => true
  | .exact _, .infinity false => true
  | _, _ => false

def isNegative : Number → Bool
  | .exact x => x.negative
  | .infinity negative => negative
  | _ => false

def isNonpositive : Number → Bool
  | .exact x => x.negative || x.core == 0
  | .infinity negative => negative
  | _ => false

example : ofBinary64 (Binary64.ofRatio false 3 2) = ofDecimal (.finite false 150 (-2)) := by
  decide +kernel
example : ofBinary64 (Binary64.ofRatio false 1 10) ≠ ofDecimal (.finite false 1 (-1)) := by
  decide +kernel
example : Number.exact (.ofInt 1000) = ofDecimal (.finite false 1 3) := by decide +kernel
example : (Exact.ofInt 3).lt (.ofScaled false 1 999999999 999999999) = true := by decide +kernel

end Number

end Docstore
