import Docstore.Value.Display

/-!
# Reading values

Values that have a plain form are read from it: numbers, dates and timestamps, identifiers, octets
in hexadecimal, and the members of the three vocabularies of queries.  The plain form is a text;
numbers are read from whole numbers and truth values too.  Each reading names its own cause when it
fails.
-/

namespace Docstore.Value

/-- Reads a value from its text, if it is one. -/
def readText (read : String → Except Fault Value) : Value → Except Fault Value
  | .str s => read s
  | _ => .error (.wrongType none)

/-- The floating-point number nearest to a whole number. -/
def nearestFloat (n : Int) : Except Fault Binary64 :=
  match Binary64.ofRatio (n < 0) n.natAbs 1 with
  | .infinity _ => .error .integerTooLarge
  | x => .ok x

/-- Reads a floating-point number, as an object of the given number. -/
def readFloat (object : Nat) (v : Value) : Except Fault Value :=
  match v.whole? with
  | some n => return .float (← nearestFloat n) (.given object)
  | none => v.readText fun s => match Number.binary64? s with
    | some x => .ok (.float x (.given object))
    | none => .error (.flawed (.notFloat (Text.quoted s)))

/-- Reads a decimal number, as an object of the given number. -/
def readDecimal (object : Nat) (v : Value) : Except Fault Value :=
  match v.whole? with
  | some n => .ok (.decimal (.finite (n < 0) n.natAbs 0) object)
  | none => v.readText fun s => match Number.decimal s with
    | .ok d => .ok (.decimal d object)
    | .error m => .error (.notDecimal m)

def readTimestamp (v : Value) : Except Fault Value :=
  v.readText fun s => match Calendar.readTimestamp s with
    | .ok t => .ok (.timestamp t)
    | .error m => .error (.flawed (.notTime (Text.quoted s) m))

def readDate (v : Value) : Except Fault Value :=
  v.readText fun s => match Calendar.readDate s with
    | .ok d => .ok (.date d)
    | .error m => .error (.flawed (.notTime (Text.quoted s) m))

/-- Reads an identifier; there has to be something to read it from. -/
def readUuid : Value → Except Fault Value
  | .null => .error (.wrongType none)
  | .str s => match Uuid.ofText s with
    | .ok u => .ok (.uuid u)
    | .error m => .error (.flawed (.notIdentifier m))
  | _ => .error .noSuchPart

/-- Whether a character may stand between the octets of a text. -/
def isGap (c : Char) : Bool :=
  c == ' ' || (0x09 ≤ c.toNat && c.toNat ≤ 0x0D)

/-- The octets that pairs of hexadecimal digits stand for, or the place of the first character that
is out of place.  A gap may go before a pair; `place` counts the characters passed. -/
def octetsFrom (place : Nat) : List Char → Except Nat (List UInt8)
  | [] => .ok []
  | c :: rest =>
    if isGap c then octetsFrom (place + 1) rest
    else match Uuid.hexDigit? c, rest with
      | none, _ => .error place
      | some _, [] => .error (place + 1)
      | some high, d :: after =>
        match Uuid.hexDigit? d with
        | none => .error (place + 1)
        | some low => (octetsFrom (place + 2) after).map ((16 * high + low).toUInt8 :: ·)

/-- Reads octets, from a text that must not hold a character beyond ASCII anywhere. -/
def readOctets (v : Value) : Except Fault Value :=
  v.readText fun s =>
    let outcome : Except Nat (List UInt8) := match s.toList.findIdx? fun c => 0x80 ≤ c.toNat with
      | some place => .error place
      | none => octetsFrom 0 s.toList
    match outcome with
    | .ok octets => .ok (.bytes octets)
    | .error place => .error (.flawed (.notOctets place))

/-- Reads a member of a vocabulary, which is named by its text. -/
def readMember {α : Type} (vocabulary : String) (member? : String → Option α) (v : Value) :
    Except Fault α :=
  match v.text?.bind member? with
  | some a => .ok a
  | none => do
    let shown ← v.display
    .error (.flawed (.notMember shown vocabulary))

def readOperator (v : Value) : Except Fault Operator :=
  readMember "FilterOperator" Operator.ofText? v

def readConnector (v : Value) : Except Fault Connector :=
  readMember "Connector" Connector.ofText? v

def readDirection (v : Value) : Except Fault Direction :=
  readMember "SortDirection" Direction.ofText? v

example : (octetsFrom 0 "00 fF".toList).toOption = some [0x00, 0xff] := by decide +kernel
example : octetsFrom 0 "00f".toList = .error 3 := by rfl

end Docstore.Value
