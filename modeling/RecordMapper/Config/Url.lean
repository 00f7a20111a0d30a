import RecordMapper.Config.IpAddress
import RecordMapper.Fault.Failure
import RecordMapper.Json.Reader
import RecordMapper.Number.Numeral
import RecordMapper.Text.Letter
import RecordMapper.Text.Percent

/-!
URLs in six parts. A URL is cut from the left: the scheme before the first colon, the authority behind two slashes,
then the fragment, the query and the parameters from the right of what is left. `Url.text` puts the parts together
again, and user, password, host and port are read from the authority.
-/
namespace RecordMapper

open RecordMapper.Text

/-- The parts of a URL; a part that is not there is empty. -/
structure Url where
  scheme : List Char
  authority : List Char
  path : List Char
  parameters : List Char
  query : List Char
  fragment : List Char
  deriving Repr, DecidableEq, Inhabited

/-- Why a text is no URL, or has no port. -/
inductive UrlError where
  | unbalancedBrackets
  | futureAddress
  | version4InBrackets
  | noAddress (host : String)
  | compatibility (authority : String)
  | portNotNumber (port : String)
  | portOutOfRange
  | portTooLong (digits : Nat)
  deriving Repr, DecidableEq

/-- The message of an error. -/
def UrlError.message : UrlError → String
  | unbalancedBrackets => "Invalid IPv6 URL"
  | futureAddress => "IPvFuture address is invalid"
  | version4InBrackets => "An IPv4 address cannot be in brackets"
  | noAddress host => Text.quoted host ++ " does not appear to be an IPv4 or IPv6 address"
  | compatibility authority =>
    "netloc '" ++ authority ++ "' contains invalid characters under NFKC normalization"
  | portNotNumber port => "Port could not be cast to integer value as " ++ Text.quoted port
  | portOutOfRange => "Port out of range 0-65535"
  | portTooLong digits => Json.ReadProblem.message (.tooLong digits)

def UrlError.failure (e : UrlError) : Failure := .ofPlain .value e.message

namespace Url

/-- Characters of a scheme. -/
def isSchemeChar (c : Char) : Bool := c.isAlphanum || c == '+' || c == '-' || c == '.'

/-- The scheme in small letters, if there is one, and the rest. -/
def splitScheme (s : List Char) : List Char × List Char :=
  match cut? ':' s with
  | some (c :: before, after) =>
    if c.isAlpha && (c :: before).all isSchemeChar then ((c :: before).map Char.toLower, after) else ([], s)
  | _ => ([], s)

/-- Where an authority ends. -/
def endsAuthority (c : Char) : Bool := c == '/' || c == '?' || c == '#'

/-- The authority behind two slashes, and the rest. -/
def splitAuthority : List Char → List Char × List Char
  | '/' :: '/' :: rest => (rest.takeWhile (!endsAuthority ·), rest.dropWhile (!endsAuthority ·))
  | s => ([], s)

/-- What stands behind the first `mark`, and what before it. -/
def splitBehind (mark : Char) (s : List Char) : List Char × List Char := (cut? mark s).getD (s, [])

/-- Schemes with parameters behind the path. -/
def parameterSchemes : List String :=
  ["", "ftp", "hdl", "prospero", "http", "imap", "https", "shttp", "rtsp", "rtspu", "sip", "sips", "mms", "sftp",
   "tel"]

/-- Path and parameters: these begin at the first semicolon of the last step of the path. -/
def splitParameters (s : List Char) : List Char × List Char :=
  match cutLast? '/' s with
  | some (before, final) =>
    match cut? ';' final with
    | some (step, parameters) => (before ++ '/' :: step, parameters)
    | none => (s, [])
  | none => splitBehind ';' s

/-- An address of a version to come: `v`, hexadecimal digits, a point, and anything. -/
def isFutureAddress (s : List Char) : Bool :=
  let rest := s.drop 1
  let digits := rest.takeWhile fun c => (hexDigit? c).isSome
  !digits.isEmpty &&
    match rest.drop digits.length with
    | '.' :: _ :: _ => true
    | _ => false

/-- What stands before the last `@` of an authority, if there is one, and what behind it. -/
def splitUser (authority : List Char) : Option (List Char) × List Char :=
  match cutLast? '@' authority with
  | some (user, located) => (some user, located)
  | none => (none, authority)

/-- The host of an authority behind its user. Brackets around it have nothing before them, and at most a port
behind them. -/
def bracketedHost? (located : List Char) : Option (List Char) :=
  match cut? '[' located with
  | some (before, bracketed) =>
    let (host, rest) := splitBehind ']' bracketed
    if before.isEmpty && (rest.isEmpty || rest.head? == some ':') then some host else none
  | none => some (splitBehind ':' located).1

/-- What stands in brackets is an address of version 6 or later. -/
def checkBracketedHost (host : List Char) : Except UrlError Unit :=
  if host.head? == some 'v' then (if isFutureAddress host then .ok () else .error .futureAddress)
  else if IpAddress.isVersion4 host then .error .version4InBrackets
  else if IpAddress.isVersion6 host then .ok ()
  else .error (.noAddress (String.ofList host))

/-- Brackets must come in both sorts and stand around the host. -/
def checkBrackets (authority : List Char) : Except UrlError Unit :=
  let opened := authority.contains '['
  let closed := authority.contains ']'
  if opened != closed then .error .unbalancedBrackets
  else if !opened then .ok ()
  else match bracketedHost? (splitUser authority).2 with
    | some host => checkBracketedHost host
    | none => .error .unbalancedBrackets

/-- Characters that are equivalent to texts with one of the characters that structure a URL. -/
def compatibilityPoints : List Nat :=
  [0x2047, 0x2048, 0x2049, 0x2100, 0x2101, 0x2105, 0x2106, 0x2A74, 0xFE13, 0xFE16, 0xFE55, 0xFE56, 0xFE5F, 0xFE6B,
   0xFF03, 0xFF0F, 0xFF1A, 0xFF1F, 0xFF20]

/-- An authority must not hide such a character. -/
def checkCompatibility (authority : List Char) : Except UrlError Unit :=
  if authority.any fun c => compatibilityPoints.contains c.toNat then
    .error (.compatibility (String.ofList authority))
  else .ok ()

/-- Characters that are dropped wherever they stand. -/
def isDropped (c : Char) : Bool := c == '\t' || c == '\r' || c == '\n'

/-- The text that is cut: without controls and spaces in front, and without tabs and line ends. -/
def cleaned (s : List Char) : List Char := (s.dropWhile fun c => c.toNat ≤ 32).filter (!isDropped ·)

/-- Reads a URL. -/
def parse (s : String) : Except UrlError Url := do
  let (scheme, rest) := splitScheme (cleaned s.toList)
  let (authority, rest) := splitAuthority rest
  checkBrackets authority
  let (rest, fragment) := splitBehind '#' rest
  let (rest, query) := splitBehind '?' rest
  checkCompatibility authority
  let (path, parameters) :=
    if parameterSchemes.contains (String.ofList scheme) then splitParameters rest else (rest, [])
  return ⟨scheme, authority, path, parameters, query, fragment⟩

/-- Schemes whose URLs show an authority even where it is empty. -/
def authoritySchemes : List String :=
  ["", "ftp", "http", "gopher", "nntp", "telnet", "imap", "wais", "file", "mms", "https", "shttp", "snews", "prospero",
   "rtsp", "rtspu", "rsync", "svn", "svn+ssh", "sftp", "nfs", "git", "git+ssh", "ws", "wss"]

/-- A part with its mark in front, if there is anything to mark. -/
def marked (mark : Char) (part : List Char) : List Char := if part.isEmpty then [] else mark :: part

/-- The text of a URL. -/
def text (u : Url) : List Char :=
  let path := u.path ++ marked ';' u.parameters
  let shown := !u.authority.isEmpty ||
    (!u.scheme.isEmpty && authoritySchemes.contains (String.ofList u.scheme)) || path.take 2 == ['/', '/']
  let path :=
    if shown then
      '/' :: '/' :: u.authority ++ (if !path.isEmpty && path.head? != some '/' then '/' :: path else path)
    else path
  (if u.scheme.isEmpty then [] else u.scheme ++ [':']) ++ path ++ marked '?' u.query ++ marked '#' u.fragment

/-- What stands before the last `@` of the authority, if there is one, and what behind it. -/
def userAndHost (u : Url) : Option (List Char) × List Char := splitUser u.authority

/-- The user; empty if there is none. -/
def user (u : Url) : List Char :=
  match u.userAndHost.1 with
  | some info => (splitBehind ':' info).1
  | none => []

/-- The password; empty if there is none. -/
def password (u : Url) : List Char :=
  match u.userAndHost.1 with
  | some info => (splitBehind ':' info).2
  | none => []

/-- Host and port as they are written. -/
def hostAndPort (u : Url) : List Char × List Char :=
  let info := u.userAndHost.2
  match cut? '[' info with
  | some (_, bracketed) =>
    let (host, rest) := splitBehind ']' bracketed
    (host, (splitBehind ':' rest).2)
  | none => splitBehind ':' info

/-- The host in small letters, but for a zone; empty if there is none. -/
def host (u : Url) : List Char :=
  let written := u.hostAndPort.1
  match cut? '%' written with
  | some (name, zone) => smallText name ++ '%' :: zone
  | none => smallText written

/-- The port, if there is one. -/
def port (u : Url) : Except UrlError (Option Nat) :=
  let written := u.hostAndPort.2
  if written.isEmpty then .ok none
  else if !written.all Char.isDigit then .error (.portNotNumber (String.ofList written))
  else match Numeral.readInt written with
    | .error (.tooLong digits) => .error (.portTooLong digits)
    | .error .malformed => .error (.portNotNumber (String.ofList written))
    | .ok n => if n ≤ 65535 then .ok (some n.toNat) else .error .portOutOfRange

/-- The URL with its password masked. -/
def redacted (u : Url) : Url :=
  { u with authority := replaceFirst (':' :: u.password ++ ['@']) ":***@".toList u.authority }

end Url

end RecordMapper
