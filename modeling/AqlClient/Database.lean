import AqlClient.Cursor.Draining
import AqlClient.Session

/-!
# Databases

A database is a name within a session (`Database`); making one sends nothing. Queries are run
in a database. `Database.cursor` submits a query and leaves the reading to the caller;
`Database.query` reads all results and releases the cursor, under one deadline for all of its
requests.
-/

namespace AqlClient

/-- A database of a session. -/
structure Database where
  session : Session
  name : String

namespace Database

variable {α : Type}

/-- The database of a session with a given name, or the default one. -/
def ofSession (s : Session) (name : Option String) : Database :=
  ⟨s, name.getD s.options.defaultDatabase⟩

/-- The gateway of a database. -/
def gateway (d : Database) : Gateway := d.session.gateway.withPath (Resource.database d.name)

/-- The query service of a database. -/
def service (d : Database) : QueryService := ⟨d.gateway, d.name, d.session.mode⟩

/-- The description of a database. -/
def description (d : Database) : String :=
  d.session.mode.leadingWord ++ "Database(name=\"" ++ d.name ++ "\", api_endpoint=\"" ++
    d.session.address ++ "\")"

/-- Whether two databases are the same one of the same session. -/
def sameAs (d e : Database) : Bool := d.session.serial == e.session.serial && d.name == e.name

/-- Asks for a resource of the database. -/
def get (d : Database) (path : String) (params : Entries) (request timeout : Option Int) :
    Program Entries :=
  d.gateway.request d.session.mode
    ⟨"GET", .null, some path, params, d.session.limit request timeout⟩

/-- What is known about the database. -/
def info (d : Database) (request timeout : Option Int) : Program DatabaseInfo := do
  d.session.report ("getting info for database '" ++ d.name ++ "'")
  let envelope ← d.get Resource.currentDatabase [] request timeout
  d.session.report ("finished getting info for database '" ++ d.name ++ "'")
  let fields ← Program.ofExcept (envelope.required "result" [.dict] Value.dict?)
  Program.ofExcept (DatabaseInfo.ofValue (.dict fields))

/-- The parameter that leaves out system collections. -/
def systemParameter (excludeSystem : Bool) : Entries :=
  [(.str "excludeSystem", .str (if excludeSystem then "true" else "false"))]

/-- The collections in an envelope, without those of the system if they are not wanted. -/
def collectionsOf (envelope : Entries) (excludeSystem : Bool) :
    Except Failure (List CollectionInfo) := do
  let items ← envelope.required "result" [.list] Value.list?
  let infos ← items.mapM CollectionInfo.ofValue
  return infos.filter fun info => !(excludeSystem && info.isSystem)

/-- The collections of the database. -/
def collections (d : Database) (excludeSystem : Bool) (request timeout : Option Int) :
    Program (List CollectionInfo) := do
  d.session.report ("listing collections in '" ++ d.name ++ "'")
  let envelope ← d.get Resource.collections (systemParameter excludeSystem) request timeout
  d.session.report ("finished listing collections in '" ++ d.name ++ "'")
  Program.ofExcept (collectionsOf envelope excludeSystem)

/-- **Submits a query.** The limit for the submission holds for every further request of the
cursor too. -/
def cursor (d : Database) (q : Query) (mapper : Mapper α) (request timeout : Option Int) :
    Program (Cursor α) := do
  let limit := d.session.limit request timeout
  let first ← d.service.submit q limit
  Cursor.opened d.service mapper limit.request d.session.options.timeouts.general first

/-- **All results of a query.** Its requests share one deadline, and each is under the limit
for a single one. -/
def query (d : Database) (q : Query) (mapper : Mapper α) (general request timeout : Option Int) :
    Program (List α) := do
  let timeouts := d.session.options.timeouts
  let requestLimit := (request.map Value.int).getD timeouts.request
  let deadline ← Program.ofExcept (Deadline.starting (← Program.now)
    (timeouts.overall general timeout) (some generalTimeoutLabel))
  let limit ← Program.ofExcept
    (deadline.remaining (← Program.now) requestLimit (some requestTimeoutLabel))
  let first ← d.service.submit q limit
  let c ← Cursor.opened d.service mapper requestLimit .null first
  c.closing do
    -- what is left of the deadline is the limit for the rest of the reading
    let rest ← Program.ofExcept (deadline.remaining (← Program.now) .null none)
    c.toListWithin ((limiting rest.request).getD (.int 0))

end Database

end AqlClient
