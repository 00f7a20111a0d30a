import RecordMapper.Text.Digit
import RecordMapper.Text.Split

/-!
Which texts are addresses of the Internet protocol: four decimal octets, or eight groups of hexadecimal digits of
which one run of zeros may be left out, with the last two groups possibly as octets and a zone behind a percent sign.
-/
namespace RecordMapper.IpAddress

open RecordMapper.Text

/-- A decimal number below 256 without leading zeros. -/
def isOctet (s : List Char) : Bool :=
  !s.isEmpty && s.all Char.isDigit && s.length ≤ 3 && (s == ['0'] || s.head? != some '0') &&
    s.foldl (fun n c => 10 * n + (c.toNat - 48)) 0 ≤ 255

/-- Four octets with points between them. -/
def isVersion4 (s : List Char) : Bool :=
  let parts := splitWhere (· == '.') s
  parts.length == 4 && parts.all isOctet

/-- One to four hexadecimal digits. -/
def isGroup (s : List Char) : Bool :=
  !s.isEmpty && s.length ≤ 4 && s.all fun c => (hexDigit? c).isSome

/-- The groups of an address, octets at the end turned into two groups; `none` if the octets are wrong. -/
def groups? (s : List Char) : Option (List (List Char)) :=
  let parts := splitWhere (· == ':') s
  if parts.length < 3 then none
  else match parts.getLast? with
    | some final =>
      if final.contains '.' then (if isVersion4 final then some (parts.dropLast ++ [['0'], ['0']]) else none)
      else some parts
    | none => none

/-- Groups on one side of the run that is left out: empty if the run stands at the end of the address. -/
def isSide (groups : List (List Char)) : Bool := groups == [[]] || groups.all isGroup

/-- The number of groups on one side. -/
def sideLength (groups : List (List Char)) : Nat := if groups == [[]] then 0 else groups.length

/-- Whether groups make an address. -/
def areGroups (parts : List (List Char)) : Bool :=
  if parts.length > 9 then false
  else
    let inner := (parts.drop 1).dropLast
    match inner.findIdx? List.isEmpty with
    | none => parts.length == 8 && parts.all isGroup
    | some i =>
      let high := parts.take (i + 1)
      let low := parts.drop (i + 2)
      (inner.filter List.isEmpty).length == 1 && isSide high && isSide low && sideLength high + sideLength low < 8

/-- An address in groups, with or without a zone. -/
def isVersion6 (s : List Char) : Bool :=
  if s.contains '/' then false
  else
    let (body, zoned) :=
      match cut? '%' s with
      | some (body, zone) => (body, !zone.isEmpty && !zone.contains '%')
      | none => (s, true)
    zoned && ((groups? body).map areGroups).getD false

end RecordMapper.IpAddress
