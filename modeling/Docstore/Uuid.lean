import Docstore.Text.Numeral
import Docstore.Text.Quoted

/-!
# Identifiers of 128 bits

An identifier is written as 32 hexadecimal digits in groups of 8, 4, 4, 4 and 12.  Reading passes
over case, hyphens, braces around the identifier and the words that announce such a name.  The 32
characters that are left are read as a numeral, which may spend some of them on blanks, a sign, a
mark for its base and underscores.
-/

namespace Docstore

structure Uuid where
  bits : Nat
deriving DecidableEq, Repr

namespace Uuid

/-- The identifier in small hexadecimal digits and hyphens. -/
def text (u : Uuid) : String :=
  let ds := Text.hex 32 u.bits
  let group := fun start size => (ds.drop start).take size
  String.ofList (group 0 8 ++ '-' :: group 8 4 ++ '-' :: group 12 4 ++ '-' :: group 16 4
    ++ '-' :: group 20 12)

def hexDigit? (c : Char) : Option Nat :=
  if '0' ≤ c ∧ c ≤ '9' then some (c.toNat - '0'.toNat)
  else if 'a' ≤ c ∧ c ≤ 'f' then some (c.toNat - 'a'.toNat + 10)
  else if 'A' ≤ c ∧ c ≤ 'F' then some (c.toNat - 'A'.toNat + 10)
  else none

/-- Why a text is no identifier. -/
inductive Misreading where
  | length
  /-- The characters that are left are no numeral. -/
  | numeral (shown : String)
deriving DecidableEq, Repr

/-- The value of a hexadecimal digit, or of a decimal digit of any script. -/
def anyDigit? (c : Char) : Option Nat :=
  (hexDigit? c).or (Text.decimalDigit? c)

/-- The text without a plus at its front. -/
def dropPlus : List Char → List Char
  | '+' :: rest => rest
  | cs => cs

/-- The text without the mark for base sixteen, which is a zero of any script and an `x`, and
without an underscore behind it. -/
def dropMark : List Char → List Char
  | zero :: x :: rest =>
    if Text.decimalDigit? zero = some 0 ∧ (x = 'x' ∨ x = 'X') then match rest with
      | '_' :: after => after
      | _ => rest
    else zero :: x :: rest
  | cs => cs

def number? (cs : List Char) : Option Nat :=
  match Text.leadingDigits? anyDigit? true (dropMark (dropPlus (cs.dropWhile Text.isBlank))) with
  | some (ds, rest) =>
    if rest.all Text.isBlank then some (ds.foldl (fun n d => 16 * n + d) 0) else none
  | none => none

/-- The text without the places where a word stands, which are looked for from the front.  Of the
place that was found last, `passed` characters are still passed over. -/
def dropWord (word : List Char) : (passed : Nat) → List Char → List Char
  | _, [] => []
  | passed + 1, _ :: rest => dropWord word passed rest
  | 0, c :: rest =>
    if word.isPrefixOf (c :: rest) then dropWord word (word.length - 1) rest
    else c :: dropWord word 0 rest

/-- A brace, which may stand around an identifier. -/
def isBrace (c : Char) : Bool :=
  c == '\x7b' || c == '\x7d'

/-- The characters of an identifier that count. -/
def bare (s : String) : List Char :=
  let named := dropWord "uuid:".toList 0 (dropWord "urn:".toList 0 s.toList)
  let inner := ((named.dropWhile isBrace).reverse.dropWhile isBrace).reverse
  inner.filter (· != '-')

/-- Reads an identifier. -/
def ofText (s : String) : Except Misreading Uuid :=
  let cs := bare s
  if cs.length ≠ 32 then .error .length
  else match number? cs with
    | some n => .ok ⟨n⟩
    | none => .error (.numeral (Text.quoted (String.ofList cs)))

example : number? "\u0660x_1F".toList = some 0x1f := by decide +kernel
example : number? "1x1F".toList = none := by decide +kernel
example : bare "\x7burn:uuurn:id:a-b\x7d" = "ab".toList := by decide +kernel

end Uuid

end Docstore
