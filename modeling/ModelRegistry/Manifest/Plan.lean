import ModelRegistry.Call
import ModelRegistry.Json.Reader
import ModelRegistry.Manifest.Basic

/-!
# The plan of a manifest

What a manifest asks for depends on its text alone.  A `Plan` is the list of tasks in the order of
the document, up to the first key that names no category.  A task is a registration, or an entry or
a path that is skipped, with the reason.

The members of the root are taken with each name once, in its first place and with its last value;
a field of an entry holds the last value written for it.
-/

namespace ModelRegistry
namespace Manifest

/-- One unit of a manifest. -/
inductive Task
  | model (name path : String) (active : Bool) (description : String)
  | pipeline (name description : String)
  | resource (name path description : String)
  /-- An entry that registers nothing. -/
  | skipEntry (category : Category) (fault : EntryFault)
  /-- One path of a resource that is not a text. -/
  | skipPath (name : String) (index : Nat)
  deriving DecidableEq, Repr

namespace Task

/-- The registration that a task asks for, if it asks for one. -/
def call? (appInfo : String) : Task → Option Call
  | model name path active description => some (.register name path active description appInfo)
  | pipeline name description => some (.setPipeline name description)
  | resource name path description => some (.addResource name path description appInfo)
  | skipEntry .. | skipPath .. => none

end Task

/-! ## Entries -/

/-- A field that holds a text. -/
def textField? (entry : List (String × Json)) (name : String) : Option String :=
  (Json.field? entry name).bind Json.text?

/-- A field that must hold a text. -/
def required (entry : List (String × Json)) (name : String) : Except EntryFault String :=
  match textField? entry name with
  | some s => .ok s
  | none => .error (.missingField name)

/-- The description of an entry, empty when there is none. -/
def description (entry : List (String × Json)) : String := (textField? entry "description").getD ""

/-- Whether a model is to be registered as the active version. -/
def isActive (entry : List (String × Json)) : Bool :=
  match textField? entry "activate" with
  | some s => Text.sameLetters s "true"
  | none => false

def modelTask (entry : List (String × Json)) : Except EntryFault (List Task) := do
  let name ← required entry "name"
  let path ← required entry "model"
  pure [.model name path (isActive entry) (description entry)]

def pipelineTask (entry : List (String × Json)) : Except EntryFault (List Task) := do
  let name ← required entry "name"
  let pipeline ← required entry "pipeline"
  pure [.pipeline name pipeline]

/-- The paths of a resource; none stands for a value that is not a text. -/
def paths (entry : List (String × Json)) : List (Option String) :=
  match Json.field? entry "path" with
  | none => []
  | some (.array items) => items.map Json.text?
  | some value => [value.text?]

/-- The tasks for the paths of a resource, counted from `index`. -/
def pathTasks (name description : String) : Nat → List (Option String) → List Task
  | _, [] => []
  | index, none :: ps => .skipPath name index :: pathTasks name description (index + 1) ps
  | index, some path :: ps =>
    .resource name path description :: pathTasks name description (index + 1) ps

def resourceTasks (entry : List (String × Json)) : Except EntryFault (List Task) := do
  let name ← required entry "name"
  if paths entry = [] then throw .noPath
  pure (pathTasks name (description entry) 0 (paths entry))

/-- What an entry asks for, if it is well formed. -/
def entryTasks? (category : Category) (entry : Json) : Except EntryFault (List Task) :=
  match entry.members? with
  | none => .error .notAnObject
  | some fields =>
    match category with
    | .model => modelTask fields
    | .pipeline => pipelineTask fields
    | .resource => resourceTasks fields

/-- The tasks of an entry. -/
def entryTasks (category : Category) (entry : Json) : List Task :=
  match entryTasks? category entry with
  | .ok tasks => tasks
  | .error fault => [.skipEntry category fault]

/-- The entries in the value of a key: the items of an array, or the value itself. -/
def entries : Json → List Json
  | .array items => items
  | value => [value]

/-! ## Documents -/

/-- All that a manifest asks for. -/
structure Plan where
  tasks : List Task
  /-- The first key that names no category; nothing after it is planned. -/
  unknownKey : Option String
  deriving DecidableEq, Repr

namespace Plan

/-- The plan for the members of the root. -/
def ofMembers : List (String × Json) → Plan
  | [] => ⟨[], none⟩
  | (key, value) :: members =>
    match Category.ofKey? key with
    | none => ⟨[], some key⟩
    | some category =>
      let later := ofMembers members
      { later with tasks := (entries value).flatMap (entryTasks category) ++ later.tasks }

/-- The plan of a manifest. -/
def ofDocument (document : Bytes) : Except ManifestError Plan :=
  match Json.parse document with
  | .error failure => .error (.malformed document failure)
  | .ok root =>
    match root.members? with
    | none => .error .notAnObject
    | some members => .ok (ofMembers (Json.distinct members))

/-- The registrations of a plan, in order. -/
def calls (appInfo : String) (plan : Plan) : List Call := plan.tasks.filterMap (Task.call? appInfo)

end Plan
end Manifest
end ModelRegistry
