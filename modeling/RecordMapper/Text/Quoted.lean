import RecordMapper.Text.Digit
import RecordMapper.Text.PrintableTable

/-!
A text between quotes, as messages show it. The quote is the apostrophe, unless the text has an apostrophe and no
double quote; the quote itself, the backslash and what cannot be printed are escaped.
-/
namespace RecordMapper.Text

/-- Whether a text shows the character as it is. -/
def isPrintable (c : Char) : Bool :=
  !unprintableRanges.any fun (first, last) => first ≤ c.toNat && c.toNat ≤ last

/-- The quote that needs the fewest escapes: the apostrophe unless only it occurs. -/
def quoteFor (s : List Char) : Char :=
  if s.contains '\'' && !s.contains '"' then '"' else '\''

/-- An unprintable code point, in the shortest of the three escapes that holds it. -/
def escapePoint (n : Nat) : List Char :=
  if n < 0x100 then '\\' :: 'x' :: hex 2 n
  else if n < 0x10000 then '\\' :: 'u' :: hex 4 n
  else '\\' :: 'U' :: hex 8 n

/-- One character between quotes. -/
def quoteChar (quote c : Char) : List Char :=
  if c == quote || c == '\\' then ['\\', c]
  else if c == '\t' then ['\\', 't']
  else if c == '\n' then ['\\', 'n']
  else if c == '\r' then ['\\', 'r']
  else if 32 ≤ c.toNat && c.toNat < 127 then [c]
  else if isPrintable c && 127 < c.toNat then [c]
  else escapePoint c.toNat

/-- The text between quotes. -/
def quoted (s : String) : String :=
  let quote := quoteFor s.toList
  String.ofList (quote :: s.toList.flatMap (quoteChar quote) ++ [quote])

/-- One octet between quotes. -/
def quoteOctet (quote : Char) (b : UInt8) : List Char :=
  if 32 ≤ b.toNat && b.toNat < 127 || b == 9 || b == 10 || b == 13 then quoteChar quote (Char.ofNat b.toNat)
  else escapePoint b.toNat

/-- Octets between quotes, marked by a leading `b`. -/
def quotedOctets (octets : List UInt8) : String :=
  let quote := quoteFor (octets.map fun b => Char.ofNat b.toNat)
  String.ofList ('b' :: quote :: octets.flatMap (quoteOctet quote) ++ [quote])

end RecordMapper.Text
