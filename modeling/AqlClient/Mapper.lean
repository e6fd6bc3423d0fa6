import AqlClient.Failure

/-!
# Mapping items

A mapper makes what the caller wants of a raw item (`Mapper`). It may reject an item, which
is reported as a malformed answer that names the item by its position in the whole result,
or abort, which passes through as it is (`MapperFault`).

`Mapper.convert` maps the items of a batch: all of them or none, and the first item that is
not accepted decides the failure. The ready-made mappers build a record from the fields of
an item, take one of its fields, or check it.
-/

namespace AqlClient

/-- Why a mapper makes nothing of an item. -/
inductive MapperFault where
  | rejected (reason : String)
  | aborted (reason : String)
  deriving DecidableEq, Repr

/-- What makes a value of a raw item. -/
abbrev Mapper (α : Type) := Value → Except MapperFault α

/-- A record built from the fields of an item. -/
structure Record where
  kind : String
  fields : Named Value

namespace Mapper

/-- The raw item. -/
def raw : Mapper Value := .ok

/-- A mapper with something done to what it makes. -/
def map {α β : Type} (f : α → β) (mapper : Mapper α) : Mapper β :=
  fun item => (mapper item).map f

/-- The item itself, if it passes a check. -/
def checked (accepts : Value → Bool) (reason : String) : Mapper Value :=
  fun item => if accepts item then .ok item else .error (.rejected reason)

/-- A field of a dictionary. -/
def field (name reason : String) : Mapper Value :=
  fun item =>
    match item.dict?.bind fun fields => fields.get? name with
    | some value => .ok value
    | none => .error (.rejected reason)

/-- The item itself, but for one text, at which it aborts. -/
def abortingAt (last reason : String) : Mapper Value :=
  fun item => if item.str? = some last then .error (.aborted reason) else .ok item

/-- The value of a declared field, the default standing in for a missing one. -/
def recordField (given : Entries) (declared : String × Option Value) : Option (String × Value) :=
  ((given.get? declared.1).or declared.2).map fun value => (declared.1, value)

/-- A record with declared fields, some of them with defaults. The item has to be a
dictionary without any other key. -/
def record (kind : String) (declared : List (String × Option Value)) : Mapper Record :=
  fun item =>
    match item with
    | .dict given =>
      if given.all fun entry => declared.any fun d => entry.1.str? == some d.1 then
        match declared.mapM (recordField given) with
        | some fields => .ok ⟨kind, fields⟩
        | none => .error (.rejected "<constructor arguments>")
      else .error (.rejected "<constructor arguments>")
    | _ => .error (.rejected ("cannot build " ++ kind ++ " from a " ++ item.kind.name))

/-- The failure that a fault of the mapper turns into, at a position in the result. -/
def failureAt (index : Int) (item : Value) : MapperFault → Failure
  | .rejected reason => .malformed (.unconverted index reason item)
  | .aborted reason => .aborted reason

/-- The mapped items of a batch whose first item has a given position. -/
def convert {α : Type} (mapper : Mapper α) (offset : Int) :
    List Value → Except Failure (List α)
  | [] => .ok []
  | item :: rest =>
    match mapper item with
    | .error fault => .error (failureAt offset item fault)
    | .ok a => (convert mapper (offset + 1) rest).map (a :: ·)

/-- What going through a value yields, mapped. -/
def convertIn {α : Type} (mapper : Mapper α) (offset : Int) (v : Value) :
    Except Failure (List α) :=
  match v.elements? with
  | some items => convert mapper offset items
  | none => .error .wrongType

end Mapper

end AqlClient
