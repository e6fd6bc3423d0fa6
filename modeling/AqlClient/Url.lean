import AqlClient.Text.Percent
import AqlClient.Timing.TimeLimit

/-!
# Paths and URLs

The paths of the server's resources, and how they are joined to its address. Slashes at the
seams are not doubled. Names of databases and collections are percent-encoded, so that
a name never reaches beyond its own segment of a path.
-/

namespace AqlClient

namespace Url

/-- A text without the slashes in front. -/
def trimStart (s : String) : String := String.ofList (s.toList.dropWhile (· == '/'))

/-- A text without the slashes at its end. -/
def trimEnd (s : String) : String :=
  String.ofList (s.toList.reverse.dropWhile (· == '/')).reverse

/-- A text without the slashes at both ends. -/
def trim (s : String) : String := trimEnd (trimStart s)

/-- An address with a path behind it, either of which may be empty. -/
def base (address path : String) : String :=
  trimEnd ("/".intercalate ([address, path].filter (· != "")))

/-- A URL with a further path, if there is one. -/
def extended (url : String) (path : Option String) : String :=
  match named path with
  | some p => trimEnd url ++ "/" ++ trimStart p
  | none => url

end Url

/-! ### The paths of resources -/

namespace Resource

/-- The path of a database. -/
def database (name : String) : String := "_db/" ++ Percent.encode name

/-- The path of the version of the server. -/
def version : String := "_api/version"

/-- The path to which credentials are sent for a token. -/
def login : String := "_open/auth"

/-- The path of the databases that a user may access. -/
def accessibleDatabases : String := "_api/database/user"

/-- The path of all databases, within the system database. -/
def allDatabases : String := database "_system" ++ "/_api/database"

/-- The path of the information on a database, within the database. -/
def currentDatabase : String := "_api/database/current"

/-- The path of the collections, within a database. -/
def collections : String := "_api/collection"

/-- The path of a collection, within its database. -/
def collection (name : String) : String := collections ++ "/" ++ Percent.encode name

/-- The path of the number of documents of a collection, within its database. -/
def documentCount (name : String) : String := collection name ++ "/count"

/-- The path to which queries are sent, within a database. -/
def cursors : String := "_api/cursor"

/-- The path of a cursor, within its database. -/
def cursor (id : String) : String := cursors ++ "/" ++ id

end Resource

end AqlClient
