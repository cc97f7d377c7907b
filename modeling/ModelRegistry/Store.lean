import ModelRegistry.Call
import ModelRegistry.Record
import ModelRegistry.Table

/-!
# The store

`Store` holds the records of one registry, and `Store.backend` answers the nine calls from it.

* The versions of a model are kept under its name, a new one in front, and listed in the order of
  registration.  Numbers start at 1 for each name and the last one handed out is kept apart, so it
  survives deletion.
* Registering an active version, or activating one, deactivates all others of the name.
* A version is sought from the oldest one on, and so is the active one.  Numbers have 32 bits and
  begin again when they run out; a number that is there twice stands for the older record.
* The checks that a name, path or description is not empty belong to the calls that write.  Lookups
  and deletion have none: an empty name is there just a name that holds nothing.
-/

namespace ModelRegistry

/-- The records of a registry. -/
structure Store where
  /-- The versions of each model, the latest first; a name without versions is absent. -/
  models : Table (List ModelRecord)
  /-- The last version handed out for each name. -/
  lastVersion : Table UInt32
  pipelines : Table PipelineRecord
  /-- The resources, the latest first. -/
  resources : List ResourceRecord
  deriving DecidableEq, Repr

namespace Store

def empty : Store := ⟨.empty, .empty, .empty, []⟩

/-- The versions of a model, the latest first. -/
def newestFirst (s : Store) (name : String) : List ModelRecord := (s.models.find? name).getD []

/-- The versions of a model, in the order of registration. -/
def versions (s : Store) (name : String) : List ModelRecord := (s.newestFirst name).reverse

/-- One version of a model, the oldest record with its number. -/
def version? (s : Store) (name : String) (version : UInt32) : Option ModelRecord :=
  (s.versions name).find? fun m => m.version = version

/-- The description of a pipeline. -/
def pipeline? (s : Store) (name : String) : Option PipelineRecord := s.pipelines.find? name

/-- The resources registered under a name, in order. -/
def resourcesOf (s : Store) (name : String) : List ResourceRecord :=
  (s.resources.filter fun r => r.name = name).reverse

/-- How many versions there are of all models. -/
def modelCount (s : Store) : Nat := s.models.toList.flatten.length

/-! ## Refusals -/

/-- The refusal of an empty argument. -/
def emptyArgument (field : String) : Refusal := .invalidParameter (field ++ " cannot be empty")

def noModel (name : String) : Refusal := .notFound ("no model named '" ++ name ++ "'")

def noVersion (name : String) (version : UInt32) : Refusal :=
  .notFound ("no model '" ++ name ++ "' with version " ++ toString version.toNat)

def noActive (name : String) : Refusal := .notFound ("no active version of '" ++ name ++ "'")

def versionActive (name : String) (version : UInt32) : Refusal :=
  ⟨.busy, "model '" ++ name ++ "' version " ++ toString version.toNat ++ " is active"⟩

/-! ## The calls -/

/-- Register the next version of a model. -/
def register (name path : String) (active : Bool) (description appInfo : String) (s : Store) :
    Except Refusal UInt32 × Store :=
  if name = "" then (.error (emptyArgument "name"), s)
  else if path = "" then (.error (emptyArgument "path"), s)
  else
    let version := (s.lastVersion.find? name).getD 0 + 1
    let others := s.newestFirst name
    let others := if active then others.map fun m => { m with active := false } else others
    let record := { name, path, version, active, description, appInfo }
    (.ok version,
      { s with
        lastVersion := s.lastVersion.set name version
        models := s.models.set name (record :: others) })

/-- Change the first record of one version. -/
def change (version : UInt32) (f : ModelRecord → ModelRecord) :
    List ModelRecord → List ModelRecord
  | [] => []
  | m :: ms => if m.version = version then f m :: ms else m :: change version f ms

/-- Replace the description of one version. -/
def describe (name : String) (version : UInt32) (description : String) (s : Store) :
    Except Refusal Unit × Store :=
  if name = "" then (.error (emptyArgument "name"), s)
  else if (s.version? name version).isNone then (.error (noVersion name version), s)
  else
    let ms := change version (fun m => { m with description }) (s.versions name)
    (.ok (), { s with models := s.models.set name ms.reverse })

/-- Make one version the active one. -/
def activate (name : String) (version : UInt32) (s : Store) : Except Refusal Unit × Store :=
  if name = "" then (.error (emptyArgument "name"), s)
  else if (s.version? name version).isNone then (.error (noVersion name version), s)
  else
    let ms := (s.newestFirst name).map fun m => { m with active := m.version = version }
    (.ok (), { s with models := s.models.set name ms })

/-- The record of one version. -/
def get (name : String) (version : UInt32) (s : Store) : Except Refusal ModelRecord :=
  if s.versions name = [] then .error (noModel name)
  else
    match s.version? name version with
    | none => .error (noVersion name version)
    | some m => .ok m

/-- The record of the active version, the oldest one that is active. -/
def getActive (name : String) (s : Store) : Except Refusal ModelRecord :=
  if s.versions name = [] then .error (noModel name)
  else
    match (s.versions name).find? (·.active) with
    | none => .error (noActive name)
    | some m => .ok m

/-- The records of all versions. -/
def getAll (name : String) (s : Store) : Except Refusal (List ModelRecord) :=
  if s.versions name = [] then .error (noModel name) else .ok (s.versions name)

/-- Delete one version. -/
def delete (name : String) (version : UInt32) (force : Bool) (s : Store) :
    Except Refusal Unit × Store :=
  match s.version? name version with
  | none => (.error (noVersion name version), s)
  | some m =>
    if m.active && !force then (.error (versionActive name version), s)
    else
      let ms := (s.newestFirst name).filter fun m => m.version ≠ version
      let models := if ms = [] then s.models.erase name else s.models.set name ms
      (.ok (), { s with models })

/-- Set or replace the description of a pipeline. -/
def setPipeline (name description : String) (s : Store) : Except Refusal Unit × Store :=
  if name = "" then (.error (emptyArgument "name"), s)
  else if description = "" then (.error (emptyArgument "description"), s)
  else (.ok (), { s with pipelines := s.pipelines.set name { name, description } })

/-- Register one more path of a resource. -/
def addResource (name path description appInfo : String) (s : Store) :
    Except Refusal Unit × Store :=
  if name = "" then (.error (emptyArgument "name"), s)
  else if path = "" then (.error (emptyArgument "path"), s)
  else
    (.ok (), { s with resources := { name, path, description, appInfo } :: s.resources })

/-- The store as a backend: records are answered as texts. -/
def backend : Backend Store
  | .register name path active description appInfo, s =>
    s.register name path active description appInfo
  | .describe name version description, s => s.describe name version description
  | .activate name version, s => s.activate name version
  | .get name version, s => ((s.get name version).map ModelRecord.text, s)
  | .getActive name, s => ((s.getActive name).map ModelRecord.text, s)
  | .getAll name, s => ((s.getAll name).map ModelRecord.listText, s)
  | .delete name version force, s => s.delete name version force
  | .setPipeline name description, s => s.setPipeline name description
  | .addResource name path description appInfo, s => s.addResource name path description appInfo

end Store
end ModelRegistry
