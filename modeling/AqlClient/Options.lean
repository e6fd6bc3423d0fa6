import AqlClient.Caller
import AqlClient.Credentials
import AqlClient.Headers
import AqlClient.Timing.TimeLimit

/-!
# Options

All settings that say how the client talks to the server (`Options`). They are handed down
from the client to its sessions, databases and collections, and each level may override
some of them (`OptionsOverride`). An override replaces what it sets, with two exceptions
that add to what is there already: headers are laid over the inherited ones, and the names
of headers to hide are joined with the inherited names (`Options.overriddenBy`).

Descriptions show the settings that are set. The value of a header whose name is to be
hidden is replaced, where the name is spelled exactly as in the list.
-/

namespace AqlClient

/-! ### Sets of names -/

/-- A set of names, each once, in the order in which they were added. -/
abbrev NameSet := List String

namespace NameSet

/-- Two sets joined. -/
def union (names others : NameSet) : NameSet :=
  names ++ others.filter fun name => !names.contains name

/-- The set of the names in a list. -/
def ofList (names : List String) : NameSet := names.eraseDups

/-- Whether two sets have the same names. -/
def same (names others : NameSet) : Bool :=
  names.all others.contains && others.all names.contains

/-- The literal of a set. -/
def literal : NameSet → String
  | [] => "set()"
  | names => "\x7b" ++ Value.commas (names.map Quoted.text) ++ "\x7d"

end NameSet

/-! ### Timeouts -/

/-- Time limits that override others where they are supplied. -/
structure TimeoutOverride where
  request : Option Value
  general : Option Value

/-- The limits in effect after an override. -/
def TimeoutSettings.overriddenBy (s : TimeoutSettings) (o : TimeoutOverride) :
    TimeoutSettings where
  request := o.request.getD s.request
  general := o.general.getD s.general

/-- The two limits with their names. -/
def TimeoutOverride.members (o : TimeoutOverride) : String :=
  "(request_timeout_ms=" ++ (o.request.getD .unset).literal ++
    ", general_method_timeout_ms=" ++ (o.general.getD .unset).literal ++ ")"

/-! ### Options -/

/-- All settings of a level. -/
structure Options where
  callers : List Caller
  headers : HeaderWishes
  redacted : NameSet
  credentials : Credentials
  defaultDatabase : String
  timeouts : TimeoutSettings
  /-- The release of the client, which is no setting and stays what it is. -/
  release : String

/-- Some settings, to override others. -/
structure OptionsOverride where
  callers : Option (List Caller)
  headers : Option HeaderWishes
  redacted : Option NameSet
  credentials : Option Credentials
  defaultDatabase : Option String
  timeouts : Option TimeoutOverride

/-- Some settings as a caller gives them. -/
structure OptionsChoice where
  callers : Option (List Caller)
  headers : Option HeaderWishes
  redacted : Option (List String)
  credentials : CredentialsChoice
  defaultDatabase : Option String
  timeouts : Option TimeoutOverride

/-- **The override that is given.** The credentials are those that the given ones stand for, and the
names to hide are kept once each. -/
def OptionsChoice.override (c : OptionsChoice) : Except Failure OptionsOverride := do
  let credentials ← c.credentials.credentials?
  return { callers := c.callers, headers := c.headers
           redacted := c.redacted.map NameSet.ofList
           credentials, defaultDatabase := c.defaultDatabase, timeouts := c.timeouts }

namespace OptionsOverride

/-- No settings. -/
def none : OptionsOverride := ⟨.none, .none, .none, .none, .none, .none⟩

/-- The literal of a header map, with the values of some names hidden. -/
def headersLiteral (redacted : NameSet) (headers : HeaderWishes) : String :=
  "\x7b" ++ Value.commas (headers.map fun entry =>
    Quoted.text entry.1 ++ ": " ++
      Caller.optionalText (if redacted.contains entry.1 then some redactedValue else entry.2))
    ++ "\x7d"

/-- The descriptions of the settings that are set; the kind of the limits is named by the
caller. -/
def members (o : OptionsOverride) (limits : String) : Except Failure (List String) := do
  let credentials ← o.credentials.mapM Credentials.description
  return [o.callers.map fun callers => "callers=" ++ Caller.literals callers,
    o.headers.map fun headers =>
      "database_additional_headers=" ++ headersLiteral (o.redacted.getD []) headers,
    o.redacted.map fun names => "redacted_header_names=" ++ names.literal,
    credentials.map fun text => "auth=" ++ text,
    o.defaultDatabase.map fun name => "default_database=" ++ name,
    o.timeouts.map fun t => "timeout_options=" ++ limits ++ t.members].filterMap id

/-- The description of an override. -/
def description (o : OptionsOverride) : Except Failure String := do
  return "APIOptions(" ++ Value.commas (← o.members "TimeoutOptions") ++ ")"

end OptionsOverride

namespace Options

/-- The settings of a client in some release to which nothing is said. -/
def standard (release : String) : Options where
  callers := []
  headers := []
  redacted := []
  credentials := .anonymous
  defaultDatabase := "_system"
  timeouts := ⟨.int 10000, .int 30000⟩
  release := release

/-- **The settings after an override.** -/
def overriddenBy (s : Options) (o : OptionsOverride) : Options where
  callers := o.callers.getD s.callers
  -- these two add to what is there, and a header without a value is kept as such
  headers := s.headers.merge (o.headers.getD [])
  redacted := s.redacted.union (o.redacted.getD [])
  credentials := o.credentials.getD s.credentials
  defaultDatabase := o.defaultDatabase.getD s.defaultDatabase
  timeouts := (o.timeouts.map s.timeouts.overriddenBy).getD s.timeouts
  release := s.release

/-- The settings after an override, or as they are where there is none. -/
def withOverride (s : Options) (o : Option OptionsOverride) : Options :=
  (o.map s.overriddenBy).getD s

/-- The settings after several overrides, one after the other. -/
def overriddenByAll (s : Options) (overrides : List OptionsOverride) : Options :=
  overrides.foldl overriddenBy s

/-- All settings as an override that sets every one. -/
def asOverride (s : Options) : OptionsOverride where
  callers := some s.callers
  headers := some s.headers
  redacted := some s.redacted
  credentials := some s.credentials
  defaultDatabase := some s.defaultDatabase
  timeouts := some ⟨some s.timeouts.request, some s.timeouts.general⟩

/-- The description of settings. -/
def description (s : Options) : Except Failure String := do
  return "FullAPIOptions(" ++ Value.commas (← s.asOverride.members "FullTimeoutOptions") ++ ")"

/-- Whether two levels have the same settings. -/
def sameAs (s t : Options) : Bool :=
  s.callers == t.callers && s.headers.agrees t.headers && s.redacted.same t.redacted &&
    s.credentials.sameAs t.credentials && s.defaultDatabase == t.defaultDatabase &&
    s.timeouts.sameAs t.timeouts

end Options

end AqlClient
