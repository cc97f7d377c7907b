import ModelRegistry.Json.Fault
import ModelRegistry.IoFault
import ModelRegistry.Path
import ModelRegistry.Status
import ModelRegistry.Text.Blank

/-!
# Manifests: categories, faults and reports

A manifest is a JSON object.  Its keys name a `Category`, in the singular or the plural and in any
case, and each value holds the entries of that category.  A problem with the document as a whole
is a `ManifestError`; a problem with one entry is an `EntryFault`, which costs that entry only.
A `Report` counts what became of the entries.
-/

namespace ModelRegistry

/-- What a manifest can register. -/
inductive Category
  | model
  | pipeline
  | resource
  deriving DecidableEq, Repr

namespace Category

/-- The category in the singular. -/
def name : Category → String
  | model => "model"
  | pipeline => "pipeline"
  | resource => "resource"

def all : List Category := [model, pipeline, resource]

/-- The spellings of a category, up to case. -/
def spellings (c : Category) : List String := [c.name, c.name ++ "s"]

/-- The category that a key names. -/
def ofKey? (key : String) : Option Category :=
  all.find? fun c => c.spellings.any fun s => Text.sameLetters s key

end Category

namespace Manifest

/-- Why an entry is skipped. -/
inductive EntryFault
  | notAnObject
  | missingField (name : String)
  | noPath
  deriving DecidableEq, Repr

namespace EntryFault

def message : EntryFault → String
  | notAnObject => "entry is not an object"
  | missingField name => "missing required field '" ++ name ++ "'"
  | noPath => "no resource path"

end EntryFault

/-- How many entries were registered, skipped and refused. -/
structure Report where
  models : Nat
  pipelines : Nat
  resources : Nat
  /-- Entries, or single paths of a resource, without what a registration needs. -/
  skipped : Nat
  /-- Registrations that the backend refused. -/
  failed : Nat
  deriving DecidableEq, Repr

namespace Report

def empty : Report := ⟨0, 0, 0, 0, 0⟩

/-- How many registrations were accepted. -/
def registered (r : Report) : Nat := r.models + r.pipelines + r.resources

def toJson (r : Report) : Json :=
  let count (n : Nat) : Json := .number (.integer n)
  .object
    [("models", count r.models), ("pipelines", count r.pipelines),
      ("resources", count r.resources), ("skipped", count r.skipped), ("failed", count r.failed),
      ("registered", count r.registered)]

/-- One more registration of a category. -/
def accept (r : Report) : Category → Report
  | .model => { r with models := r.models + 1 }
  | .pipeline => { r with pipelines := r.pipelines + 1 }
  | .resource => { r with resources := r.resources + 1 }

/-- One more unit skipped. -/
def skip (r : Report) : Report := { r with skipped := r.skipped + 1 }

/-- One more registration refused. -/
def refuse (r : Report) : Report := { r with failed := r.failed + 1 }

end Report
end Manifest

/-- Why a manifest as a whole is rejected. -/
inductive ManifestError
  | notFound (path : Path)
  | notRegularFile (path : Path)
  | unreadable (path : Path) (fault : IoFault)
  | malformed (document : Bytes) (failure : Json.Failure)
  | notAnObject
  | unknownCategory (key : String)
  deriving DecidableEq, Repr

namespace ManifestError

def message : ManifestError → String
  | notFound path => "Manifest not found: " ++ path.text
  | notRegularFile path => "Manifest is not a regular file: " ++ path.text
  | unreadable path fault => "Failed to read manifest " ++ path.text ++ ": " ++ fault.message
  | malformed document failure => "Invalid manifest JSON: " ++ failure.report document
  | notAnObject => "Manifest root must be a JSON object"
  | unknownCategory key => "Unknown manifest category '" ++ key ++ "'"

end ManifestError
end ModelRegistry
