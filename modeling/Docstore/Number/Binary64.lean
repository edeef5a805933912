/-!
# Binary floating-point numbers

A finite number is a sign, a mantissa and a binary exponent in their one canonical form, so two
finite numbers are the same exactly when they are equal as data.  Quotients of natural numbers are
rounded to the nearest number, ties to an even mantissa, and overflow to an infinity.

The closing examples fix the rounding of a whole number, truncation towards zero and overflow.
-/

namespace Docstore

/-- The mantissas and exponents of finite numbers: 53 bits, the top one set unless the exponent is
the least. -/
structure Binary64.Canonical (mantissa : Nat) (exponent : Int) : Prop where
  fits : mantissa < Nat.pow 2 53
  least : -1074 ≤ exponent
  greatest : exponent ≤ 971
  normal : Nat.pow 2 52 ≤ mantissa ∨ exponent = -1074

instance (mantissa : Nat) (exponent : Int) : Decidable (Binary64.Canonical mantissa exponent) :=
  decidable_of_iff
    (mantissa < Nat.pow 2 53 ∧ -1074 ≤ exponent ∧ exponent ≤ 971 ∧
      (Nat.pow 2 52 ≤ mantissa ∨ exponent = -1074))
    ⟨fun ⟨a, b, c, d⟩ => ⟨a, b, c, d⟩, fun ⟨a, b, c, d⟩ => ⟨a, b, c, d⟩⟩

inductive Binary64 where
  | nan
  | infinity (negative : Bool)
  /-- The number `± mantissa · 2 ^ exponent`. -/
  | finite (negative : Bool) (mantissa : Nat) (exponent : Int)
      (canonical : Binary64.Canonical mantissa exponent)
deriving DecidableEq, Repr

namespace Binary64

def zero (negative : Bool) : Binary64 :=
  .finite negative 0 (-1074) (by decide)

instance : Inhabited Binary64 := ⟨zero false⟩

/-- The number with this mantissa and exponent; out of range it is an infinity. -/
def ofScaled (negative : Bool) (mantissa : Nat) (exponent : Int) : Binary64 :=
  if h : Canonical mantissa exponent then .finite negative mantissa exponent h
  else .infinity negative

/-- A quotient rounded to the nearest natural number, ties to the even one. -/
def roundDiv (num den : Nat) : Nat :=
  let q := num / den
  let r := num % den
  if den < 2 * r ∨ (2 * r = den ∧ q % 2 = 1) then q + 1 else q

/-- The two sides of `num / den / 2 ^ exponent`. -/
def scaled (num den : Nat) (exponent : Int) : Nat × Nat :=
  (num * Nat.pow 2 (-exponent).toNat, den * Nat.pow 2 exponent.toNat)

/-- The exponent that gives the quotient a mantissa of 53 bits, or the least exponent. -/
def exponentFor (num den : Nat) : Int :=
  let guess := (Nat.log2 num : Int) - Nat.log2 den - 52
  let (n, d) := scaled num den guess
  max (-1074) (if n < d * Nat.pow 2 52 then guess - 1 else guess)

/-- The number nearest to a quotient of natural numbers, the divisor not being zero. -/
def ofRatio (negative : Bool) (num den : Nat) : Binary64 :=
  if num = 0 then zero negative
  else
    let exponent := exponentFor num den
    let (n, d) := scaled num den exponent
    let mantissa := roundDiv n d
    if mantissa = Nat.pow 2 53 then ofScaled negative (Nat.pow 2 52) (exponent + 1)
    else ofScaled negative mantissa exponent

def isZero : Binary64 → Bool
  | .finite _ 0 _ _ => true
  | _ => false

/-- The whole part of a finite number, towards zero. -/
def truncate? : Binary64 → Option Int
  | .finite negative mantissa exponent _ =>
    let magnitude := mantissa * Nat.pow 2 exponent.toNat / Nat.pow 2 (-exponent).toNat
    some (if negative then -(magnitude : Int) else magnitude)
  | _ => none

/-- Whether a finite number has no fractional part. -/
def isWhole : Binary64 → Bool
  | .finite _ mantissa exponent _ => mantissa % Nat.pow 2 (-exponent).toNat == 0
  | _ => false

example : ofRatio false 1 1 = .finite false (2 ^ 52) (-52) (by decide) := by decide +kernel
example : (ofRatio true 5 2).truncate? = some (-2) := by decide +kernel
example : ofRatio false (2 ^ 1024) 1 = .infinity false := by decide +kernel

end Binary64

end Docstore
