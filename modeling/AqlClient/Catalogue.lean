/-!
# The error catalogue

A few well-known numbers of the server's error catalogue, by name. They serve to recognise an
error; a number that is not listed here is as good as any other.
-/

namespace AqlClient

/-- Errors that a caller may want to recognise. -/
inductive KnownError where
  | unauthorized
  | forbidden
  | notFound
  | databaseNotFound
  | dataSourceNotFound
  | queryParse
  | bindParameterMissing
  | resourceLimit
  | cursorNotFound
  | cursorBusy
  deriving DecidableEq, Repr

namespace KnownError

/-- All errors of the catalogue. -/
def all : List KnownError :=
  [.unauthorized, .forbidden, .notFound, .databaseNotFound, .dataSourceNotFound, .queryParse,
    .bindParameterMissing, .resourceLimit, .cursorNotFound, .cursorBusy]

/-- The number of an error. -/
def number : KnownError → Int
  | .unauthorized => 401
  | .forbidden => 11
  | .notFound => 404
  | .databaseNotFound => 1228
  | .dataSourceNotFound => 1203
  | .queryParse => 1501
  | .bindParameterMissing => 1551
  | .resourceLimit => 32
  | .cursorNotFound => 1600
  | .cursorBusy => 1601

/-- The name of an error in the catalogue. -/
def name : KnownError → String
  | .unauthorized => "HTTP_UNAUTHORIZED"
  | .forbidden => "FORBIDDEN"
  | .notFound => "HTTP_NOT_FOUND"
  | .databaseNotFound => "ARANGO_DATABASE_NOT_FOUND"
  | .dataSourceNotFound => "ARANGO_DATA_SOURCE_NOT_FOUND"
  | .queryParse => "QUERY_PARSE"
  | .bindParameterMissing => "QUERY_BIND_PARAMETER_MISSING"
  | .resourceLimit => "QUERY_RESOURCE_LIMIT"
  | .cursorNotFound => "CURSOR_NOT_FOUND"
  | .cursorBusy => "CURSOR_BUSY"

end KnownError

end AqlClient
