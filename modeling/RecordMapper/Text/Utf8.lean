/-!
Octets as text. `decode?` refuses what is not UTF-8; `decodeLossy` shows each part that starts like a character
and does not end as one by a single replacement character, and each other bad octet by one.
-/
namespace RecordMapper.Text.Utf8

/-- The octets of a text. -/
def encode (s : String) : List UInt8 := s.toUTF8.toList

/-- The text that the octets spell, if they are UTF-8. -/
def decode? (octets : List UInt8) : Option String :=
  String.fromUTF8? ⟨octets.toArray⟩

/-- Where a reader stands inside a character: how many octets it still owes, the range of the next one, and the
bits so far. -/
structure Pending where
  owed : Nat
  low : Nat
  high : Nat
  bits : Nat

/-- What a first octet starts: a whole character, or one that owes more octets. -/
def first? (b : Nat) : Option (Nat ⊕ Pending) :=
  if b ≤ 0x7F then some (.inl b)
  else if 0xC2 ≤ b && b ≤ 0xDF then some (.inr ⟨1, 0x80, 0xBF, b - 0xC0⟩)
  else if b == 0xE0 then some (.inr ⟨2, 0xA0, 0xBF, 0⟩)
  else if b == 0xED then some (.inr ⟨2, 0x80, 0x9F, 0xD⟩)
  else if 0xE1 ≤ b && b ≤ 0xEF then some (.inr ⟨2, 0x80, 0xBF, b - 0xE0⟩)
  else if b == 0xF0 then some (.inr ⟨3, 0x90, 0xBF, 0⟩)
  else if 0xF1 ≤ b && b ≤ 0xF3 then some (.inr ⟨3, 0x80, 0xBF, b - 0xF0⟩)
  else if b == 0xF4 then some (.inr ⟨3, 0x80, 0x8F, 4⟩)
  else none

/-- Shown for what is not UTF-8. -/
def replacement : Char := '\uFFFD'

/-- Reads octets from between two characters or from inside one. -/
def decodeFrom : Option Pending → List UInt8 → List Char
  | none, [] => []
  | some _, [] => [replacement]
  | none, b :: rest =>
    match first? b.toNat with
    | some (.inl n) => Char.ofNat n :: decodeFrom none rest
    | some (.inr p) => decodeFrom (some p) rest
    | none => replacement :: decodeFrom none rest
  | some p, b :: rest =>
    if p.low ≤ b.toNat && b.toNat ≤ p.high then
      let bits := p.bits * 64 + (b.toNat - 0x80)
      if p.owed ≤ 1 then Char.ofNat bits :: decodeFrom none rest
      else decodeFrom (some ⟨p.owed - 1, 0x80, 0xBF, bits⟩) rest
    else
      match first? b.toNat with
      | some (.inl n) => replacement :: Char.ofNat n :: decodeFrom none rest
      | some (.inr p) => replacement :: decodeFrom (some p) rest
      | none => replacement :: replacement :: decodeFrom none rest

/-- The text that the octets spell, with replacement characters where they are not UTF-8. -/
def decodeLossy (octets : List UInt8) : List Char := decodeFrom none octets

end RecordMapper.Text.Utf8
