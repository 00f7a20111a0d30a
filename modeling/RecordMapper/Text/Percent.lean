import RecordMapper.Text.Digit
import RecordMapper.Text.Utf8

/-!
Percent encoding. Every character but ASCII letters, digits and `_.-~` is written as its octets, and reading gives
back what was written.
-/
namespace RecordMapper.Text

/-- The characters that stand for themselves. -/
def isUnreserved (c : Char) : Bool := c.isAlphanum || c == '_' || c == '.' || c == '-' || c == '~'

/-- One octet, with capital digits. -/
def percentOctet (b : UInt8) : List Char := '%' :: (hex 2 b.toNat).map Char.toUpper

/-- One character. -/
def percentChar (c : Char) : List Char :=
  if isUnreserved c then [c] else (Utf8.encode c.toString).flatMap percentOctet

/-- The text in percent encoding. -/
def percentEncode (s : List Char) : List Char := s.flatMap percentChar

/-- The octets of an ASCII text in percent encoding; a percent sign without two digits behind it stays. -/
def percentOctets : List Char → List UInt8
  | '%' :: a :: b :: rest =>
    match hexDigit? a, hexDigit? b with
    | some hi, some lo => (hi * 16 + lo).toUInt8 :: percentOctets rest
    | _, _ => 37 :: percentOctets (a :: b :: rest)
  | c :: rest => c.toNat.toUInt8 :: percentOctets rest
  | [] => []

/-- Reads a text part by part: `run` is the ASCII part before, backwards. Octets of different parts never make up
one character. -/
def percentDecodeFrom (run : List Char) : List Char → List Char
  | [] => Utf8.decodeLossy (percentOctets run.reverse)
  | c :: rest =>
    if c.toNat < 128 then percentDecodeFrom (c :: run) rest
    else Utf8.decodeLossy (percentOctets run.reverse) ++ c :: percentDecodeFrom [] rest

/-- The text that a percent encoding stands for. -/
def percentDecode (s : List Char) : List Char := percentDecodeFrom [] s

end RecordMapper.Text
