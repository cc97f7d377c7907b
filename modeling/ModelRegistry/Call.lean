import ModelRegistry.Status

/-!
# Calls of the registry

The registry has nine methods.  A `Call` is a method with its arguments; the type of its result
depends on the method alone.  The same calls are made by the installer, travel over the wire and
are answered by a backend.

A `Backend` is any state machine that answers calls: what it answers may depend on everything that
was called before.
-/

namespace ModelRegistry

/-! ## Events

The names under which the bus knows the methods. -/

namespace Events

def register : String := "handle-register"
def describe : String := "handle-update-description"
def activate : String := "handle-activate"
def get : String := "handle-get"
def getActive : String := "handle-get-activated"
def getAll : String := "handle-get-all"
def delete : String := "handle-delete"
def setPipeline : String := "handle-set-pipeline-description"
def addResource : String := "handle-add-resource"

end Events

/-! ## Methods -/

/-- The methods of the registry, in the order in which handlers are attached. -/
inductive Method
  | register
  | describe
  | activate
  | get
  | getActive
  | getAll
  | delete
  | setPipeline
  | addResource
  deriving DecidableEq, Repr

namespace Method

def all : List Method :=
  [register, describe, activate, get, getActive, getAll, delete, setPipeline, addResource]

theorem mem_all (m : Method) : m ∈ all := by cases m <;> simp [all]

/-- The event that carries a method over the bus. -/
def event : Method → String
  | register => Events.register
  | describe => Events.describe
  | activate => Events.activate
  | get => Events.get
  | getActive => Events.getActive
  | getAll => Events.getAll
  | delete => Events.delete
  | setPipeline => Events.setPipeline
  | addResource => Events.addResource

/-- What a method returns: the version it assigned, the text of one or more records, or nothing. -/
abbrev Result : Method → Type
  | register => UInt32
  | get | getActive | getAll => String
  | describe | activate | delete | setPipeline | addResource => Unit

end Method

/-! ## Calls -/

/-- A method with its arguments. -/
inductive Call
  /-- Register the next version of a model. -/
  | register (name path : String) (active : Bool) (description appInfo : String)
  /-- Replace the description of one version. -/
  | describe (name : String) (version : UInt32) (description : String)
  /-- Make one version the active one of its name. -/
  | activate (name : String) (version : UInt32)
  /-- Look up one version. -/
  | get (name : String) (version : UInt32)
  /-- Look up the active version. -/
  | getActive (name : String)
  /-- Look up every version. -/
  | getAll (name : String)
  /-- Delete one version; an active one only by force. -/
  | delete (name : String) (version : UInt32) (force : Bool)
  /-- Set or replace the description of a pipeline. -/
  | setPipeline (name description : String)
  /-- Register one more path of a resource. -/
  | addResource (name path description appInfo : String)
  deriving DecidableEq, Repr

namespace Call

def method : Call → Method
  | register .. => .register
  | describe .. => .describe
  | activate .. => .activate
  | get .. => .get
  | getActive .. => .getActive
  | getAll .. => .getAll
  | delete .. => .delete
  | setPipeline .. => .setPipeline
  | addResource .. => .addResource

/-- The event that carries the call. -/
def event (c : Call) : String := c.method.event

/-- What the call returns. -/
abbrev Result (c : Call) : Type := c.method.Result

/-- The name of the model, pipeline or resource that the call is about. -/
def name : Call → String
  | register n .. | describe n .. | activate n .. | get n .. | getActive n | getAll n
  | delete n .. | setPipeline n .. | addResource n .. => n

end Call

/-- What a backend says to a call. -/
abbrev Answer (c : Call) := Except Refusal c.Result

/-- A state machine that answers calls. -/
def Backend (σ : Type) := (c : Call) → σ → Answer c × σ

end ModelRegistry
