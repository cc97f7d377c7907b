import ModelRegistry.Json.Printer
import ModelRegistry.Json.Schema

/-!
# Records

What the registry holds: versions of models, pipelines and resource paths.  Each kind of record has
a schema, which fixes the order and the names of its members, what may be absent when it is read,
and what messages call it.
-/

namespace ModelRegistry

/-- One registered version of a model. -/
structure ModelRecord where
  name : String
  path : String
  version : UInt32
  active : Bool
  description : String
  appInfo : String
  deriving DecidableEq, Repr

/-- A named pipeline. -/
structure PipelineRecord where
  name : String
  description : String
  deriving DecidableEq, Repr

/-- One path registered under a resource's name. -/
structure ResourceRecord where
  name : String
  path : String
  description : String
  appInfo : String
  deriving DecidableEq, Repr

open Json (PlainField Values Kind)

namespace ModelRecord

def fields : List PlainField :=
  [.text "name", .text "path", .version "version", .flag "active", .optionalText "description",
    .optionalText "app_info"]

def ofValues : Values fields → ModelRecord
  | (name, path, version, active, description, appInfo, ()) =>
    { name, path, version, active, description, appInfo }

def values (r : ModelRecord) : Values fields :=
  (r.name, r.path, r.version, r.active, r.description, r.appInfo, ())

def toJson (r : ModelRecord) : Json := .object (Json.toMembers Kind.toJson fields r.values)

/-- The text of the record. -/
def text (r : ModelRecord) : String := r.toJson.compact

def reader : Json.Reader ModelRecord :=
  (Json.recordReader Kind.read "struct ModelRecord" fields).map ofValues

def decode (document : Bytes) : Except Json.Failure ModelRecord := Json.document reader document

/-- The text of several records. -/
def listText (rs : List ModelRecord) : String := (Json.array (rs.map toJson)).compact

def decodeList (document : Bytes) : Except Json.Failure (List ModelRecord) :=
  Json.document (Json.listReader reader) document

end ModelRecord

namespace PipelineRecord

def fields : List PlainField := [.text "name", .text "description"]

def ofValues : Values fields → PipelineRecord
  | (name, description, ()) => { name, description }

def values (r : PipelineRecord) : Values fields := (r.name, r.description, ())

def toJson (r : PipelineRecord) : Json := .object (Json.toMembers Kind.toJson fields r.values)

def text (r : PipelineRecord) : String := r.toJson.compact

def reader : Json.Reader PipelineRecord :=
  (Json.recordReader Kind.read "struct PipelineRecord" fields).map ofValues

def decode (document : Bytes) : Except Json.Failure PipelineRecord := Json.document reader document

end PipelineRecord

namespace ResourceRecord

def fields : List PlainField :=
  [.text "name", .text "path", .optionalText "description", .optionalText "app_info"]

def ofValues : Values fields → ResourceRecord
  | (name, path, description, appInfo, ()) => { name, path, description, appInfo }

def values (r : ResourceRecord) : Values fields := (r.name, r.path, r.description, r.appInfo, ())

def toJson (r : ResourceRecord) : Json := .object (Json.toMembers Kind.toJson fields r.values)

def text (r : ResourceRecord) : String := r.toJson.compact

def reader : Json.Reader ResourceRecord :=
  (Json.recordReader Kind.read "struct ResourceRecord" fields).map ofValues

def decode (document : Bytes) : Except Json.Failure ResourceRecord := Json.document reader document

end ResourceRecord
end ModelRegistry
