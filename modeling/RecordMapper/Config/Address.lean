import RecordMapper.Config.Url
import RecordMapper.Text.Blank

/-!
Where a store is: host, port, user, password and database of a server, or the path of a file.
-/
namespace RecordMapper

/-- Where a server is and how to get in; what is empty is not given. -/
structure ServerAddress where
  host : String
  port : Nat
  user : Option String
  password : Option String
  database : Option String
  deriving Repr, DecidableEq, Inhabited

/-- The text, unless it is empty. -/
def nonEmpty? (s : List Char) : Option String := if s.isEmpty then none else some (String.ofList s)

namespace ServerAddress

/-- The port of a server that names none. -/
def defaultPort : Nat := 3306

/-- The address that a URL gives; port zero is no port. -/
def ofUrl (text : String) : Except UrlError ServerAddress := do
  let u ← Url.parse text
  let port ← u.port
  return {
    host := (nonEmpty? u.host).getD "localhost"
    port := match port with
      | none | some 0 => defaultPort
      | some n => n
    user := (nonEmpty? u.user).map fun s => String.ofList (Text.percentDecode s.toList)
    password := (nonEmpty? u.password).map fun s => String.ofList (Text.percentDecode s.toList)
    database := nonEmpty? (Text.trimWhile (· == '/') u.path) }

end ServerAddress

/-- The path of a database that is kept in memory. -/
def memoryPath : String := ":memory:"

/-- The path of a database file that a URL gives. A text without the scheme is a path itself. -/
def filePath (url : String) : String :=
  let path :=
    match Text.after? "sqlite:///".toList url.toList, Text.after? "sqlite://".toList url.toList with
    | some path, _ => path
    | none, some path => path
    | none, none => (Text.removeAll "sqlite:".toList 0 url.toList).dropWhile (· == '/')
  (nonEmpty? path).getD memoryPath

end RecordMapper
