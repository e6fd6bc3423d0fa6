import AqlClient.Database

/-!
# Collections

A collection is a name within a database (`Collection`). What is known about it and the
number of its documents are single requests; reading all documents is a query.
-/

namespace AqlClient

/-- A collection of a database. -/
structure Collection where
  database : Database
  name : String

namespace Collection

variable {α : Type}

/-- The description of a collection. -/
def description (c : Collection) : String :=
  c.database.session.mode.leadingWord ++ "Collection(name=\"" ++ c.name ++ "\", database=\"" ++
    c.database.name ++ "\")"

/-- Whether two collections are the same one of the same database. -/
def sameAs (c d : Collection) : Bool := c.database.sameAs d.database && c.name == d.name

/-- What is known about the collection. -/
def info (c : Collection) (request timeout : Option Int) : Program CollectionInfo := do
  c.database.session.report ("getting info for collection '" ++ c.name ++ "'")
  let envelope ← c.database.get (Resource.collection c.name) [] request timeout
  c.database.session.report ("finished getting info for collection '" ++ c.name ++ "'")
  Program.ofExcept (CollectionInfo.ofValue (.dict envelope))

/-- The number of documents in the collection. -/
def count (c : Collection) (request timeout : Option Int) : Program Int := do
  c.database.session.report ("counting documents in '" ++ c.name ++ "'")
  let envelope ← c.database.get (Resource.documentCount c.name) [] request timeout
  c.database.session.report ("finished counting documents in '" ++ c.name ++ "'")
  Program.ofExcept (envelope.required "count" [.int] Value.int?)

/-- The query for all documents, in batches of a given size unless it is null. -/
def allQuery (c : Collection) (batchSize : Value) : Except Failure Query := do
  let q ← Query.make (Query.Draft.ofText (.str "FOR d IN @@collection RETURN d"))
  let q ← q.changed (.bindVar (.str "@collection") (.str c.name))
  match batchSize with
  | .null => return q
  | v => q.changed (.batchSize v)

/-- A cursor over all documents. -/
def all (c : Collection) (batchSize : Value) (mapper : Mapper α) (request timeout : Option Int) :
    Program (Cursor α) := do
  c.database.cursor (← Program.ofExcept (c.allQuery batchSize)) mapper request timeout

end Collection

end AqlClient
