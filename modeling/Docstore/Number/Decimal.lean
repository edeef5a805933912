import Docstore.Number.Binary64
import Docstore.Text.Numeral

/-!
# Decimal numbers

Decimal numbers of any length: a sign, a coefficient and a power of ten, which keep the final zeros
they were written with; infinities; and not-a-number values, quiet or signaling, with the digits
they carry along.
-/

namespace Docstore

inductive Decimal where
  /-- The number `± coefficient · 10 ^ exponent`. -/
  | finite (negative : Bool) (coefficient : Nat) (exponent : Int)
  | infinity (negative : Bool)
  /-- Not a number; a signaling one refuses to be compared or converted. -/
  | nan (negative signaling : Bool) (payload : Nat)
deriving DecidableEq, Repr

namespace Decimal

/-- The text of a finite magnitude: positional while the power of ten is not positive and the first
digit stands at most six places behind the point, scientific otherwise. -/
def magnitudeText (coefficient : Nat) (exponent : Int) : List Char :=
  let ds := Nat.toDigits 10 coefficient
  let left := exponent + ds.length
  if exponent ≤ 0 ∧ -6 < left then
    if left ≤ 0 then ['0', '.'] ++ List.replicate (-left).toNat '0' ++ ds
    else if exponent = 0 then ds
    else ds.take left.toNat ++ ['.'] ++ ds.drop left.toNat
  else
    let front := match ds with
      | d :: e :: rest => d :: '.' :: e :: rest
      | short => short
    let power := left - 1
    front ++ (if power = 0 then [] else
      ['E', if power < 0 then '-' else '+'] ++ Nat.toDigits 10 power.natAbs)

def text (d : Decimal) : String :=
  let signed := fun (negative : Bool) (body : List Char) =>
    String.ofList (if negative then '-' :: body else body)
  match d with
  | .finite negative coefficient exponent => signed negative (magnitudeText coefficient exponent)
  | .infinity negative => signed negative "Infinity".toList
  | .nan negative signaling payload =>
    signed negative ((if signaling then "sNaN" else "NaN").toList
      ++ if payload = 0 then [] else Nat.toDigits 10 payload)

def isZero : Decimal → Bool
  | .finite _ 0 _ => true
  | _ => false

/-- Whether a comparison with the number is refused. -/
def isSignaling : Decimal → Bool
  | .nan _ signaling _ => signaling
  | _ => false

/-- The floating-point number nearest to `± coefficient · 10 ^ exponent`.  Numbers far outside the
range are not expanded. -/
def nearest (negative : Bool) (coefficient : Nat) (exponent : Int) : Binary64 :=
  let size := exponent + (Nat.toDigits 10 coefficient).length
  if coefficient = 0 then Binary64.zero negative
  else if 400 < size then .infinity negative
  else if size < -400 then Binary64.zero negative
  else Binary64.ofRatio negative (coefficient * Nat.pow 10 exponent.toNat)
    (Nat.pow 10 (-exponent).toNat)

/-- The floating-point number nearest to a decimal number; a signaling one has none. -/
def toBinary64? : Decimal → Option Binary64
  | .finite negative coefficient exponent => some (nearest negative coefficient exponent)
  | .infinity negative => some (.infinity negative)
  | .nan _ signaling _ => if signaling then none else some .nan

/-- The whole part of a finite number, towards zero. -/
def truncate? : Decimal → Option Int
  | .finite negative coefficient exponent =>
    some (Text.signed negative (coefficient * Nat.pow 10 exponent.toNat /
      Nat.pow 10 (-exponent).toNat))
  | _ => none

/-- Whether a finite number has no fractional part. -/
def isWhole : Decimal → Bool
  | .finite _ coefficient exponent => coefficient % Nat.pow 10 (-exponent).toNat == 0
  | _ => false

example : (finite false 150 (-2)).text = "1.50" := by decide
example : (finite true 0 2).text = "-0E+2" := by decide
example : (finite false 1 (-7)).text = "1E-7" := by decide
example : (finite true 199 (-2)).truncate? = some (-1) := by decide

end Decimal

end Docstore
