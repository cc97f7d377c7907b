import ModelRegistry.Files
import ModelRegistry.Toml.Reader

/-!
# Packages

The installer asks a source about a package and gets four answers, each of which can fail by itself.
`PackageDb` is a source of descriptors in a directory, one TOML file for each package.  The name of
the file is made from the id of the package; an id that could lead out of the directory is refused
before any file is looked at.
-/

namespace ModelRegistry

/-- Why something is not known about a package. -/
inductive PackageError
  | invalidId (pkgId : String)
  | notFound (pkgId : String)
  | unreadable (pkgId detail : String)
  | missingField (pkgId field : String)
  deriving DecidableEq, Repr

namespace PackageError

def message : PackageError → String
  | invalidId id => "Invalid package id '" ++ id ++ "'"
  | notFound id => "Package '" ++ id ++ "' not found"
  | unreadable id detail => "Failed to read package info for '" ++ id ++ "': " ++ detail
  | missingField id field => "Package '" ++ id ++ "' has no " ++ field

end PackageError

/-- What a source says about one package. -/
structure Package where
  packageType : Except PackageError String
  rootPath : Except PackageError Path
  resType : Except PackageError String
  resVersion : Except PackageError String

/-- Where packages are looked up. -/
abbrev PackageSource := String → Except PackageError Package

/-- The directory of the descriptors. -/
structure PackageDb where
  directory : Path
  deriving DecidableEq, Repr

namespace PackageDb

/-- Whether an id can be part of the name of a file. -/
def isValidId (pkgId : String) : Bool :=
  pkgId ≠ "" && pkgId ≠ "." && pkgId ≠ ".." &&
    pkgId.toList.all fun c => c ≠ '/' && c ≠ '\\' && c ≠ '\x00'

/-- The file that describes a package, if the id is valid. -/
def descriptorPath? (db : PackageDb) (pkgId : String) : Option Path :=
  if isValidId pkgId then some (db.directory.join (.ofText (pkgId ++ ".toml"))) else none

/-- The fields of a descriptor that matter; other keys are ignored. -/
def fieldNames : List String := ["type", "root_path", "res_type", "res_version"]

/-- One field of a descriptor; a value that is not a text makes the descriptor unreadable. -/
def field? (members : Toml.Members) (name : String) : Except String (Option String) :=
  match Toml.find? members name with
  | none => .ok none
  | some value =>
    match value.text? with
    | some s => .ok (some s)
    | none => .error ("invalid type for key '" ++ name ++ "', expected a string")

/-- The fields of a descriptor by name. -/
def fields (content : Bytes) : Except String (String → Option String) :=
  match Text.ofBytes? content with
  | none => .error (IoFault.notText.message)
  | some document =>
    match Toml.parse document with
    | none => .error "TOML parse error"
    | some members => do
      let values ← fieldNames.mapM fun name => do pure (name, ← field? members name)
      pure fun name => (values.lookup name).join

/-- What a descriptor says. -/
def package (pkgId : String) (value? : String → Option String) : Package :=
  let get (name : String) : Except PackageError String :=
    match value? name with
    | some s => .ok s
    | none => .error (.missingField pkgId name)
  { packageType := get "type"
    rootPath := (get "root_path").map Path.ofText
    resType := get "res_type"
    resVersion := get "res_version" }

/-- Look a package up among the files. -/
def source (db : PackageDb) (files : Files) : PackageSource := fun pkgId =>
  match db.descriptorPath? pkgId with
  | none => .error (.invalidId pkgId)
  | some path =>
    match files.read path with
    | .error .notFound => .error (.notFound pkgId)
    | .error fault => .error (.unreadable pkgId fault.message)
    | .ok content =>
      match fields content with
      | .error detail => .error (.unreadable pkgId detail)
      | .ok value? => .ok (package pkgId value?)

end PackageDb
end ModelRegistry
