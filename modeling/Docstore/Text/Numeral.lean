import Docstore.Text.Blank
import Docstore.Text.Digit

/-!
# Numerals

Decimal numerals as text, and the two ways of reading whole numbers back: the liberal reading takes
the decimal digits of every script, the strict reading ASCII digits only.  Both allow blanks around
the numeral, a sign, and single underscores between digits.

The digits are counted before it is looked at what follows them, so that a numeral with too many
digits is refused as such whatever follows.
-/

namespace Docstore.Text

def ofNat (n : Nat) : String :=
  String.ofList (Nat.toDigits 10 n)

/-- A whole number in decimal digits, with a sign if it is negative. -/
def ofInt (n : Int) : String :=
  if n < 0 then "-" ++ ofNat n.natAbs else ofNat n.natAbs

/-- A number in decimal digits, filled up with zeros on the left to a width. -/
def padded (width n : Nat) : String :=
  let digits := Nat.toDigits 10 n
  String.ofList (List.replicate (width - digits.length) '0' ++ digits)

/-- The digits at the front of a text, most significant first, and what follows them.  Single
underscores may stand between digits: while one is `pending`, a digit has to come next. -/
def leadingDigits? (digit : Char → Option Nat) :
    (pending : Bool) → List Char → Option (List Nat × List Char)
  | pending, [] => if pending then none else some ([], [])
  | pending, c :: rest =>
    if c = '_' then if pending then none else leadingDigits? digit true rest
    else match digit c with
      | some d => (leadingDigits? digit false rest).map fun (ds, left) => (d :: ds, left)
      | none => if pending then none else some ([], c :: rest)

/-- The number that digits stand for, most significant first. -/
def ofDigits (ds : List Nat) : Nat :=
  ds.foldl (fun n d => 10 * n + d) 0

/-- Splits a sign off the front: whether it is a minus, and what follows. -/
def splitSign : List Char → Bool × List Char
  | '-' :: rest => (true, rest)
  | '+' :: rest => (false, rest)
  | cs => (false, cs)

def signed (negative : Bool) (n : Nat) : Int :=
  if negative then -(n : Int) else n

/-- What a text says as a whole number. -/
inductive Reading where
  /-- The number that the numeral stands for. -/
  | number (n : Int)
  | notNumeral
  /-- The numeral has more digits than are read. -/
  | tooLong (digits : Nat)
deriving DecidableEq, Repr

/-- The greatest number of digits that is read, or written where the length of a text is limited. -/
def maxDigits : Nat := 4300

/-- Whether an integer has few enough digits to be written where the length of a text is limited. -/
def isWritable (n : Int) : Bool :=
  (Nat.toDigits 10 n.natAbs).length ≤ maxDigits

/-- Reads a whole number written in the digits that `digit` knows. -/
def readInt (digit : Char → Option Nat) (cs : List Char) : Reading :=
  let (negative, body) := splitSign (cs.dropWhile isBlank)
  match leadingDigits? digit true body with
  | none => .notNumeral
  | some (ds, rest) =>
    if ds.length > maxDigits then .tooLong ds.length
    else if rest.all isBlank then .number (signed negative (ofDigits ds))
    else .notNumeral

example : readInt decimalDigit? " -1_0 ".toList = .number (-10) := by decide
example : readInt decimalDigit? "1__0".toList = .notNumeral := by decide
example : readInt asciiDigit? "+ 5".toList = .notNumeral := by decide

end Docstore.Text
