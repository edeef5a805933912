import Docstore.Text.Printable

/-!
# Quoted text

Text in quotes, as messages show it.  The quotes are single ones unless the text holds a single
quote and no double one.  The quote in use and the backslash are escaped; the characters that are
not printable are written by their code points.
-/

namespace Docstore.Text

/-- A number in a fixed count of hexadecimal digits. -/
def hex (width n : Nat) : List Char :=
  let digits := Nat.toDigits 16 n
  List.replicate (width - digits.length) '0' ++ digits

/-- The quote that a text is put into. -/
def quoteFor (cs : List Char) : Char :=
  if '\'' ∈ cs ∧ '"' ∉ cs then '"' else '\''

/-- One character of quoted text. -/
def escaped (quote c : Char) : List Char :=
  if c = quote ∨ c = '\\' then ['\\', c]
  else if c = '\n' then ['\\', 'n']
  else if c = '\r' then ['\\', 'r']
  else if c = '\t' then ['\\', 't']
  else if isPrintable c then [c]
  else if c.toNat < 0x100 then ['\\', 'x'] ++ hex 2 c.toNat
  else if c.toNat < 0x10000 then ['\\', 'u'] ++ hex 4 c.toNat
  else ['\\', 'U'] ++ hex 8 c.toNat

/-- A text in quotes. -/
def quoted (s : String) : String :=
  let cs := s.toList
  let quote := quoteFor cs
  String.ofList (quote :: cs.flatMap (escaped quote) ++ [quote])

/-- One octet of quoted octets: outside ASCII all are written by their codes. -/
def escapedOctet (quote : Char) (octet : UInt8) : List Char :=
  let c := Char.ofNat octet.toNat
  if octet.toNat < 0x7F then escaped quote c else ['\\', 'x'] ++ hex 2 octet.toNat

/-- Octets in quotes, after the letter that tells them from text. -/
def quotedOctets (octets : List UInt8) : String :=
  let quote := quoteFor (octets.map fun o => Char.ofNat o.toNat)
  String.ofList ('b' :: quote :: octets.flatMap (escapedOctet quote) ++ [quote])

end Docstore.Text
