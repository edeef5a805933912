import Docstore.Text.Numeral

/-!
# Padded numerals

Whole numbers as people type them into a form: blanks around the number, a sign, zeros in front of
it, single underscores inside it, and a point with zeros behind it.

A plain numeral, which is an optional minus and digits, is read as it stands; its digits are counted
before it is looked at what follows them, and too many are told apart from what is no numeral.  Any
other text is stripped first and read then.  Underscores among the leading zeros go away with them.
A minus may also stand behind the leading zeros, unless one stands in front of them.
-/

namespace Docstore.Text

/-- Whether a character is one of the digits `1` to `9`. -/
def isLeadingDigit (c : Char) : Bool :=
  '1' ≤ c && c ≤ '9'

/-- What is left after leading zeros, of which the last character was `last`.  That character stays
in front of a point and at the end; anything but a digit, a minus or a point must not follow. -/
def skipZeros (last : Char) : List Char → Option (List Char)
  | [] => some [last]
  | c :: rest =>
    if c = '0' ∨ c = '_' then skipZeros c rest
    else if isLeadingDigit c ∨ c = '-' then some (c :: rest)
    else if c = '.' then some (last :: c :: rest)
    else none

def dropZeros : List Char → Option (List Char)
  | [] => none
  | c :: rest =>
    if c = '0' then skipZeros c rest
    else if isLeadingDigit c then some (c :: rest)
    else none

/-- A numeral without a point and the zeros behind it. -/
def dropZeroFraction (cs : List Char) : List Char :=
  match cs.dropWhile (· != '.') with
  | _ :: fraction =>
    if !fraction.isEmpty && fraction.all (· == '0') then cs.takeWhile (· != '.') else cs
  | [] => cs

/-- Whether underscores stand one at a time and at neither end. -/
def hasSingleUnderscores : List Char → Bool
  | [] => true
  | '_' :: _ => false
  | [_] => true
  | _ :: '_' :: rest => !rest.isEmpty && hasSingleUnderscores rest
  | _ :: rest => hasSingleUnderscores rest

/-- Reads digits up to the end, without a zero in front of others. -/
def readDigits (negative : Bool) (cs : List Char) : Reading :=
  let digits := cs.takeWhile Char.isDigit
  match digits.filterMap asciiDigit? with
  | [] | 0 :: _ :: _ => .notNumeral
  | ds =>
    if ds.length > maxDigits then .tooLong ds.length
    else if ds.length = cs.length then .number (signed negative (ofDigits ds))
    else .notNumeral

/-- Reads a numeral that has nothing around its digits but a minus in front. -/
def readPlain : List Char → Reading
  | '-' :: rest => readDigits true rest
  | cs => readDigits false cs

/-- Reads a numeral after what may stand around its digits is taken away. -/
def readStripped (cs : List Char) : Reading :=
  let (negative, body) := splitSign (trim cs)
  match dropZeros body with
  | none => .notNumeral
  | some bare =>
    let whole := dropZeroFraction bare
    match if hasSingleUnderscores whole then whole.filter (· != '_') else whole with
    | '-' :: rest => if negative then .notNumeral else readDigits true rest
    | digits => readDigits negative digits

/-- Reads a padded numeral.  Only a plain numeral is too long; any other that is as long is none. -/
def readPadded (cs : List Char) : Reading :=
  match readPlain cs with
  | .notNumeral => match readStripped cs with
    | .tooLong _ => .notNumeral
    | r => r
  | r => r

example : readPadded " +0_0__8.00 ".toList = .number 8 := by decide +kernel
example : readPadded "0-_3".toList = .number (-3) := by decide +kernel
example : readPadded "+0-3".toList = .number (-3) := by decide +kernel
example : readPadded "-0-3".toList = .notNumeral := by decide +kernel
example : readPadded "0-03".toList = .notNumeral := by decide +kernel
example : readPadded "1__0".toList = .notNumeral := by decide +kernel
example : readPadded "0_".toList = .notNumeral := by decide +kernel

end Docstore.Text
