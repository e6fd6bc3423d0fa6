import AqlClient.Envelope

/-!
# What the server tells about itself

The objects that carry information: the version of the server, a database, a collection,
and the statistics and warnings of a query. Their fields are taken over as they come, with
defaults for those that may be missing; only a few have to be there
(`Info.requiredField`).

Where information is expected, the server may send a value that is no object. Looking for a
name in a list or a text is still a meaningful question, and its answer is that the name is
missing, unless it is found there, where it leads nowhere; any other value cannot be asked
at all.
-/

namespace AqlClient

namespace Info

/-- Whether a text occurs inside another one. -/
def occursIn (needle : List Char) : List Char → Bool
  | [] => needle.isEmpty
  | c :: rest => needle.isPrefixOf (c :: rest) || occursIn needle rest

/-- The value of a name that has to be there. -/
def requiredField (subject name : String) (source : Value) : Except Failure Value :=
  let missing : Except Failure Value := .error (.malformed (.incomplete subject name source))
  let found (inside : Bool) : Except Failure Value := if inside then .error .wrongType else missing
  match source with
  | .dict entries =>
    match Entries.get? entries name with
    | some value => .ok value
    | none => missing
  | .list items | .tuple items => found (items.any fun item => item.str? == some name)
  | .str s => found (occursIn name.toList s.toList)
  | _ => .error .wrongType

/-- The value of a name, with a default for a missing one. -/
def fieldOr (entries : Entries) (name : String) (default : Value) : Value :=
  (entries.get? name).getD default

/-- The warnings among the additional data of a query: none if there are none, else what
going through them yields. -/
def warnings (extra : Entries) : Except Failure (List Value) :=
  let value := fieldOr extra "warnings" .null
  if value.truthy then
    match value.elements? with
    | some items => .ok items
    | none => .error .wrongType
  else .ok []

end Info

/-- The execution statistics of a query. -/
structure QueryStats where
  writesExecuted : Value
  writesIgnored : Value
  scannedFull : Value
  scannedIndex : Value
  filtered : Value
  fullCount : Value
  httpRequests : Value
  executionTime : Value
  peakMemoryUsage : Value
  source : Value

/-- The statistics in a value, none in null. -/
def QueryStats.ofValue (source : Value) : Except Failure (Option QueryStats) :=
  match source with
  | .null => .ok none
  | _ => do
    let fields ← source.members
    return some
      { writesExecuted := Info.fieldOr fields "writesExecuted" (.int 0)
        writesIgnored := Info.fieldOr fields "writesIgnored" (.int 0)
        scannedFull := Info.fieldOr fields "scannedFull" (.int 0)
        scannedIndex := Info.fieldOr fields "scannedIndex" (.int 0)
        filtered := Info.fieldOr fields "filtered" (.int 0)
        fullCount := Info.fieldOr fields "fullCount" .null
        httpRequests := Info.fieldOr fields "httpRequests" (.int 0)
        executionTime := Info.fieldOr fields "executionTime" .null
        peakMemoryUsage := Info.fieldOr fields "peakMemoryUsage" .null
        source := source }

/-- The additional data of a query: statistics, warnings and profile. -/
structure QueryExtra where
  stats : Option QueryStats
  warnings : List Value
  profile : Value

/-- The additional data in a value, none in null. -/
def QueryExtra.ofValue (source : Value) : Except Failure (Option QueryExtra) :=
  match source with
  | .null => .ok none
  | _ => do
    let fields ← source.members
    let stats ← QueryStats.ofValue (Info.fieldOr fields "stats" .null)
    let warnings ← Info.warnings fields
    return some { stats, warnings, profile := Info.fieldOr fields "profile" .null }

/-- The product, version and licence of a server. -/
structure ServerVersion where
  server : Value
  version : Value
  license : Value

/-- The version in a value. -/
def ServerVersion.ofValue (source : Value) : Except Failure ServerVersion := do
  let server ← Info.requiredField "server version" "server" source
  let version ← Info.requiredField "server version" "version" source
  let fields ← source.members
  return { server, version, license := Info.fieldOr fields "license" .null }

/-- What is known about a database. -/
structure DatabaseInfo where
  name : Value
  id : Value
  path : Value
  isSystem : Bool
  source : Value

/-- The information on a database in a value. -/
def DatabaseInfo.ofValue (source : Value) : Except Failure DatabaseInfo := do
  let name ← Info.requiredField "database info" "name" source
  let id ← Info.requiredField "database info" "id" source
  let fields ← source.members
  return { name, id
           path := Info.fieldOr fields "path" .null
           isSystem := (Info.fieldOr fields "isSystem" (.bool false)).truthy
           source }

/-- What is known about a collection. -/
structure CollectionInfo where
  name : Value
  id : Value
  type : Value
  status : Value
  isSystem : Bool
  globallyUniqueId : Value
  source : Value

/-- The information on a collection in a value. -/
def CollectionInfo.ofValue (source : Value) : Except Failure CollectionInfo := do
  let name ← Info.requiredField "collection info" "name" source
  let id ← Info.requiredField "collection info" "id" source
  let type ← Info.requiredField "collection info" "type" source
  let fields ← source.members
  return { name, id, type
           status := Info.fieldOr fields "status" .null
           isSystem := (Info.fieldOr fields "isSystem" (.bool false)).truthy
           globallyUniqueId := Info.fieldOr fields "globallyUniqueId" .null
           source }

/-- The codes of the types of collections. -/
inductive CollectionType where
  | document
  | edge

/-- The code of a type of collections. -/
def CollectionType.code : CollectionType → Int
  | .document => 2
  | .edge => 3

end AqlClient
