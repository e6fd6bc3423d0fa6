import AqlClient.Timing.TimeLimit
import AqlClient.Value.Display

/-!
# Callers

Requests are made on behalf of applications, each with a name and a version, and either may
be missing. They are named in front of the client itself in the header that identifies the
sender (`Caller.userAgent`), the outermost first; a caller without a name is left out.
-/

namespace AqlClient

/-- An application on whose behalf requests are made. -/
structure Caller where
  name : Option String
  version : Option String
  deriving DecidableEq, Repr

namespace Caller

/-- The client itself, in the release that is installed. -/
def client (release : String) : Caller := ⟨some "arangopy", some release⟩

/-- The identification of one caller. -/
def identification (c : Caller) : Option String :=
  (named c.name).map fun name =>
    match named c.version with
    | some version => name ++ "/" ++ version
    | none => name

/-- The identification of several callers. -/
def userAgent (callers : List Caller) : Option String :=
  match callers.filterMap identification with
  | [] => none
  | pieces => some (" ".intercalate pieces)

/-- The literal of an optional text. -/
def optionalText : Option String → String
  | some s => Quoted.text s
  | none => Value.null.literal

/-- The literal of a list of callers. -/
def literals (callers : List Caller) : String :=
  "[" ++ Value.commas (callers.map fun c =>
    "(" ++ Value.commas [optionalText c.name, optionalText c.version] ++ ")") ++ "]"

end Caller

end AqlClient
