import Docstore.Number.Decimal

/-!
# Reading numbers

Reads the texts of decimal and of floating-point numbers: a sign, digits of any script with an
optional point and an optional power of ten, or one of the names of infinity and not-a-number in
any mixture of capitals, with blanks around the text.

In the text of a decimal number underscores are passed over wherever they stand, and separators of
records count as blanks; a floating-point number takes single underscores between two digits only.
A decimal number whose power of ten cannot be represented is out of range.
-/

namespace Docstore.Number

/-- The digits at the front and what follows them. -/
def spanDigits : List Char → List Nat × List Char
  | [] => ([], [])
  | c :: rest =>
    match Text.decimalDigit? c with
    | some d => let (ds, after) := spanDigits rest; (d :: ds, after)
    | none => ([], c :: rest)

/-- A power of ten: nothing, or `e` with a signed number, up to the end. -/
def power? : List Char → Option Int
  | [] => some 0
  | c :: rest =>
    if c = 'e' ∨ c = 'E' then
      let (negative, body) := Text.splitSign rest
      match spanDigits body with
      | ([], _) => none
      | (ds, []) => some (Text.signed negative (Text.ofDigits ds))
      | _ => none
    else none

/-- The digits behind a point at the front, if there is one, and what follows them. -/
def spanFraction : List Char → List Nat × List Char
  | '.' :: rest => spanDigits rest
  | cs => ([], cs)

/-- A coefficient and its power of ten. -/
def unsigned? (cs : List Char) : Option (Nat × Int) :=
  let (whole, rest) := spanDigits cs
  let (fraction, rest) := spanFraction rest
  if whole.isEmpty && fraction.isEmpty then none
  else (power? rest).map fun p =>
    (Text.ofDigits (whole ++ fraction), p - fraction.length)

def lowered (cs : List Char) : List Char :=
  cs.map Char.toLower

/-- Why a text is no decimal number. -/
inductive Misreading where
  | malformed
  | outOfRange
deriving DecidableEq, Repr

/-- The greatest power of ten of a first digit. -/
def topPower : Int := 999999999999999999

/-- The least power of ten of a last digit. -/
def bottomPower : Int := -1999999999999999997

/-- A finite decimal number, if its powers of ten are in range. -/
def ranged (negative : Bool) (coefficient : Nat) (exponent : Int) : Except Misreading Decimal :=
  let first := exponent + (Nat.toDigits 10 coefficient).length - 1
  if first ≤ topPower ∧ bottomPower ≤ exponent then .ok (.finite negative coefficient exponent)
  else .error .outOfRange

/-- Whether a character is passed over at the ends of a decimal number: a blank, or a separator of
records. -/
def isSeparator (c : Char) : Bool :=
  Text.isBlank c || (0x1C ≤ c.toNat && c.toNat ≤ 0x1F)

/-- A value that is no number, with the digits behind its name. -/
def carried (negative signaling : Bool) (digits : List Char) : Except Misreading Decimal :=
  match spanDigits digits with
  | (ds, []) => .ok (.nan negative signaling (Text.ofDigits ds))
  | _ => .error .malformed

/-- A decimal number from its text without a sign. -/
def unsignedDecimal (negative : Bool) (body : List Char) : Except Misreading Decimal :=
  match lowered body with
  | 'i' :: 'n' :: 'f' :: [] => .ok (.infinity negative)
  | 's' :: 'n' :: 'a' :: 'n' :: digits => carried negative true digits
  | 'n' :: 'a' :: 'n' :: digits => carried negative false digits
  | name =>
    if name = "infinity".toList then .ok (.infinity negative)
    else match unsigned? body with
      | some (c, p) => ranged negative c p
      | none => .error .malformed

def decimal (s : String) : Except Misreading Decimal :=
  let bare := ((s.toList.dropWhile isSeparator).reverse.dropWhile isSeparator).reverse
  let (negative, body) := Text.splitSign (bare.filter (· != '_'))
  unsignedDecimal negative body

/-- A text without its underscores, which have to stand between two digits each; `afterDigit` says
whether a digit went before. -/
def dropUnderscores? : (afterDigit : Bool) → List Char → Option (List Char)
  | _, [] => some []
  | afterDigit, c :: rest =>
    if c = '_' then match rest with
      | d :: _ =>
        if afterDigit && (Text.decimalDigit? d).isSome then dropUnderscores? false rest else none
      | [] => none
    else (dropUnderscores? (Text.decimalDigit? c).isSome rest).map (c :: ·)

/-- A floating-point number from its text without a sign. -/
def unsignedBinary64? (negative : Bool) (body : List Char) : Option Binary64 :=
  let name := lowered body
  if name = "nan".toList then some .nan
  else if name = "inf".toList ∨ name = "infinity".toList then some (.infinity negative)
  else (unsigned? body).map fun (c, p) => Decimal.nearest negative c p

def binary64? (s : String) : Option Binary64 := do
  let bare ← dropUnderscores? false (Text.trim s.toList)
  let (negative, body) := Text.splitSign bare
  unsignedBinary64? negative body

example : decimal " -1__0.50e2 " = .ok (.finite true 1050 0) := by rfl
example : decimal "sNaN7" = .ok (.nan false true 7) := by rfl
example : decimal "1e1000000000000000000" = .error .outOfRange := by rfl
example : binary64? "1_e5" = none := by rfl

end Docstore.Number
