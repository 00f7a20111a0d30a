import RecordMapper.Fault.Basic

/-!
Failures: how a call ends that does not return. A failure is a fault of the library or an error of any other kind,
and a fault may name the error that it was made from. Errors of the system carry a number, which decides the kind,
a text, and the files that they are about.
-/
namespace RecordMapper

/-- The kinds of errors that are no faults. -/
inductive ErrorKind where
  | general
  | value
  | runtime
  | os
  | connection
  | connectionReset
  | connectionRefused
  | connectionAborted
  | brokenPipe
  | timeout
  | permission
  | fileNotFound
  | fileExists
  | isDirectory
  | notDirectory
  | interrupted
  | noProcess
  | noChild
  | wouldBlock
  | driver
  | overflow
  | zeroDivision
  | decode
  | encode
  | wrongKind
  | missingAttribute
  | recursion
  deriving Repr, DecidableEq, Inhabited

namespace ErrorKind

def name : ErrorKind → String
  | general => "Exception"
  | value => "ValueError"
  | runtime => "RuntimeError"
  | os => "OSError"
  | connection => "ConnectionError"
  | connectionReset => "ConnectionResetError"
  | connectionRefused => "ConnectionRefusedError"
  | connectionAborted => "ConnectionAbortedError"
  | brokenPipe => "BrokenPipeError"
  | timeout => "TimeoutError"
  | permission => "PermissionError"
  | fileNotFound => "FileNotFoundError"
  | fileExists => "FileExistsError"
  | isDirectory => "IsADirectoryError"
  | notDirectory => "NotADirectoryError"
  | interrupted => "InterruptedError"
  | noProcess => "ProcessLookupError"
  | noChild => "ChildProcessError"
  | wouldBlock => "BlockingIOError"
  | driver => "DriverError"
  | overflow => "OverflowError"
  | zeroDivision => "ZeroDivisionError"
  | decode => "UnicodeDecodeError"
  | encode => "UnicodeEncodeError"
  | wrongKind => "TypeError"
  | missingAttribute => "AttributeError"
  | recursion => "RecursionError"

/-- All kinds. -/
def all : List ErrorKind :=
  [general, value, runtime, os, connection, connectionReset, connectionRefused, connectionAborted, brokenPipe,
    timeout, permission, fileNotFound, fileExists, isDirectory, notDirectory, interrupted, noProcess, noChild,
    wouldBlock, driver, overflow, zeroDivision, decode, encode, wrongKind, missingAttribute, recursion]

/-- The kind with a name. -/
def ofName? (s : String) : Option ErrorKind := all.find? fun k => k.name == s

/-- Errors of a connection between two parties. -/
def isConnection : ErrorKind → Bool
  | connection | connectionReset | connectionRefused | connectionAborted | brokenPipe => true
  | _ => false

/-- Errors of the system, those of connections and waits included. -/
def isSystem : ErrorKind → Bool
  | os | timeout | permission | fileNotFound | fileExists | isDirectory | notDirectory | interrupted | noProcess
  | noChild | wouldBlock => true
  | k => k.isConnection

/-- The kinds that system error numbers have of their own. -/
def byNumber : List (Int × ErrorKind) :=
  [(1, permission), (2, fileNotFound), (3, noProcess), (4, interrupted), (10, noChild), (11, wouldBlock),
   (13, permission), (17, fileExists), (20, notDirectory), (21, isDirectory), (32, brokenPipe),
   (103, connectionAborted), (104, connectionReset), (108, brokenPipe), (110, timeout), (111, connectionRefused),
   (114, wouldBlock), (115, wouldBlock)]

end ErrorKind

/-- An error that is no fault: its kind, its arguments, a code that the one who raised it gave it, and the files
that it names. -/
structure PlainError where
  kind : ErrorKind
  args : List Value
  code : Option Value := none
  files : List Value := []
  deriving Inhabited

namespace PlainError

/-- An error with a message. -/
def ofMessage (kind : ErrorKind) (message : String) : PlainError := { kind, args := [.text message] }

/-- Number and text of a system error with two to five arguments; the third and the fifth are files. -/
def numbered? (kind : ErrorKind) : List Value → Option (Value × Value)
  | n :: t :: rest => if kind.isSystem && rest.length ≤ 3 then some (n, t) else none
  | _ => none

/-- The kind that a system error's number has of its own. -/
def kindOfNumber? : Value → Option ErrorKind
  | .int n => ErrorKind.byNumber.lookup n
  | .bool b => ErrorKind.byNumber.lookup (if b then 1 else 0)
  | _ => none

/-- The kind of an error with these arguments: a system error with a number is of the number's own kind. -/
def refine (kind : ErrorKind) (args : List Value) : ErrorKind :=
  if kind = .os then ((numbered? kind args).bind fun (n, _) => kindOfNumber? n).getD .os else kind

/-- The files among the arguments of an error of this kind: none without the first, and where an operation would
wait, a number in its place tells how much has been done. -/
def filesOf (kind : ErrorKind) (args : List Value) : List Value :=
  match (numbered? kind args).isSome, args.drop 2 with
  | true, file :: rest =>
    if file.isNull || (kind = .wouldBlock && file.toNumber?.isSome) then []
    else file :: (rest.drop 1).filter (!·.isNull)
  | _, _ => []

/-- The error with given arguments; where it names files, it keeps but number and text of them. -/
def make (kind : ErrorKind) (args : List Value) (code : Option Value) : PlainError :=
  let kind := refine kind args
  let files := filesOf kind args
  ⟨kind, if files.isEmpty then args else args.take 2, code, files⟩

/-- The number of a system error. -/
def number (e : PlainError) : Value := ((numbered? e.kind e.args).map Prod.fst).getD .null

/-- The files of an error as its text shows them. -/
def filesShown (files : List Value) : String :=
  if files.isEmpty then "" else ": " ++ " -> ".intercalate (files.map Value.quoted)

/-- The text of an error. -/
def text (e : PlainError) : String :=
  match numbered? e.kind e.args, e.args with
  | some (n, t), _ => "[Errno " ++ n.shown ++ "] " ++ t.shown ++ filesShown e.files
  | none, [] => ""
  | none, [v] => v.shown
  | none, args => Value.tupleShown args

end PlainError

/-- What a call can end with instead of a result. -/
inductive Error where
  | fault (f : Fault)
  | plain (e : PlainError)
  deriving Inhabited

namespace Error

def kindName : Error → String
  | fault f => f.kindName
  | plain e => e.kind.name

def text : Error → String
  | fault f => f.text
  | plain e => e.text

/-- The text of an error, or the name of its kind if the text is empty. -/
def reason (e : Error) : String := if e.text.isEmpty then e.kindName else e.text

end Error

/-- An error and the one that it was made from. -/
structure Failure where
  error : Error
  cause : Option Error
  deriving Inhabited

namespace Failure

def ofError (e : Error) : Failure := ⟨e, none⟩

def ofFault (f : Fault) : Failure := ⟨.fault f, none⟩

def ofPlain (kind : ErrorKind) (message : String) : Failure := ⟨.plain (.ofMessage kind message), none⟩

def chained (f : Fault) (cause : Error) : Failure := ⟨.fault f, some cause⟩

end Failure

end RecordMapper
