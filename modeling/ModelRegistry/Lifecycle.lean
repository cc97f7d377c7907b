import ModelRegistry.Bus
import ModelRegistry.Log.Action

/-!
# Modules and their lifecycle

The daemon is made of modules.  A module has a name and three hooks, and its state only ever goes
forward: from unregistered to probed when its probe succeeds, from there to active, and from probed
or active to torn down.  A module whose probe fails stays where it is and can be probed again.

The modules share a `Context`: the bus, the registry behind the services, and the services published
at object paths.
-/

namespace ModelRegistry

/-- What the modules share. -/
structure Context (β σ : Type) where
  bus : β
  backend : σ
  /-- The published services by object path. -/
  services : Table (Service σ)

namespace Context

variable {β σ : Type}

/-- A context without services. -/
def new (bus : β) (backend : σ) : Context β σ := ⟨bus, backend, .empty⟩

def service? (c : Context β σ) (objectPath : String) : Option (Service σ) :=
  c.services.find? objectPath

/-- Keep a service so that calls reach it. -/
def insertService (objectPath : String) (s : Service σ) (c : Context β σ) : Context β σ :=
  { c with services := c.services.set objectPath s }

/-- Take a service away. -/
def takeService (objectPath : String) (c : Context β σ) : Option (Service σ) × Context β σ :=
  (c.service? objectPath, { c with services := c.services.erase objectPath })

/-- Answer a call with the service at its object path. -/
def dispatch (m : Message) (c : Context β σ) : Reply × Context β σ :=
  match c.service? m.objectPath with
  | some s =>
    let (reply, backend) := s.invoke m.call c.backend
    (reply, { c with backend })
  | none => (.error .unavailable ("no object at '" ++ m.objectPath ++ "'"), c)

/-- Work on the bus of a context. -/
def onBus {α : Type} (f : β → α × β) : Action (Context β σ) α :=
  Action.step fun c => ((f c.bus).1, { c with bus := (f c.bus).2 })

/-- Work on the registry of a context. -/
def onBackend {α : Type} (a : Action σ α) : Action (Context β σ) α :=
  Action.within (·.backend) (fun backend c => { c with backend }) a

end Context

/-- Why a module cannot be used. -/
inductive ModuleError
  | unavailable (error : BusError)
  deriving DecidableEq, Repr

namespace ModuleError

def message : ModuleError → String
  | unavailable error => "Service unavailable: " ++ error.message

/-- The status of a module that cannot be used. -/
def status : ModuleError → Status
  | unavailable _ => .unavailable

end ModuleError

/-- The hooks of a module. -/
structure Module (β σ : Type) where
  name : String
  probe : Action (Context β σ) (Except ModuleError Unit)
  init : Action (Context β σ) Unit
  exit : Action (Context β σ) Unit

/-- How far a module has got. -/
inductive ModuleState
  | unregistered
  | probed
  | active
  | tornDown
  deriving DecidableEq, Repr

/-- A module and how far it has got. -/
structure ModuleEntry (β σ : Type) where
  hooks : Module β σ
  state : ModuleState

/-- The modules of a daemon in the order of registration. -/
abbrev Modules (β σ : Type) := List (ModuleEntry β σ)

namespace Modules

variable {β σ : Type}

/-- Add a module at the end. -/
def register (m : Module β σ) (ms : Modules β σ) : Modules β σ := ms ++ [⟨m, .unregistered⟩]

/-- The state of the first module of a name. -/
def state? (ms : Modules β σ) (name : String) : Option ModuleState :=
  (ms.find? fun e => e.hooks.name = name).map (·.state)

/-- How many modules have been probed and not gone further. -/
def probedCount (ms : Modules β σ) : Nat := ms.countP fun e => e.state = .probed

/-- Probe one module if it has not been. -/
def probe (e : ModuleEntry β σ) : Action (Context β σ) (ModuleEntry β σ) :=
  if e.state = .unregistered then do
    match ← e.hooks.probe with
    | .ok () => pure { e with state := .probed }
    | .error fault =>
      Action.report (.moduleDisabled e.hooks.name fault.status fault.message)
      pure e
  else pure e

/-- Make one module active if it has been probed. -/
def init (e : ModuleEntry β σ) : Action (Context β σ) (ModuleEntry β σ) :=
  if e.state = .probed then do
    e.hooks.init
    Action.report (.moduleActive e.hooks.name)
    pure { e with state := .active }
  else pure e

/-- Tear one module down if it is probed or active. -/
def exit (e : ModuleEntry β σ) : Action (Context β σ) (ModuleEntry β σ) :=
  if e.state = .probed ∨ e.state = .active then do
    e.hooks.exit
    Action.report (.moduleTornDown e.hooks.name)
    pure { e with state := .tornDown }
  else pure e

/-- Treat every module in turn. -/
def each (f : ModuleEntry β σ → Action (Context β σ) (ModuleEntry β σ)) :
    Modules β σ → Action (Context β σ) (Modules β σ)
  | [] => pure []
  | e :: es => do
    let e ← f e
    let es ← each f es
    pure (e :: es)

def probeAll (ms : Modules β σ) : Action (Context β σ) (Modules β σ) := each probe ms

def initAll (ms : Modules β σ) : Action (Context β σ) (Modules β σ) := each init ms

def exitAll (ms : Modules β σ) : Action (Context β σ) (Modules β σ) := each exit ms

end Modules
end ModelRegistry
