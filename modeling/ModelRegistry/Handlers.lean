import ModelRegistry.Operations
import ModelRegistry.Service

/-!
# The handlers of the model service

There is a handler for each method.  It takes the arguments out of the call, carries out one
operation of the registry with them and completes the call with what the operation returned: the
result with status zero, or no result with the code of the refusal.  A call of another method is
none of its business.

The table says which handler goes to which event.  `attachAll` attaches all of them or none.  When
one event is taken, every event of the table is freed again, also those that others had taken.
-/

namespace ModelRegistry

/-- The status of an answer. -/
def statusOf {α : Type} : Except Refusal α → Status
  | .ok _ => .ok
  | .error refusal => refusal.code

namespace Reply

/-- The reply that carries a version, or none. -/
def ofVersion : Except Refusal UInt32 → Reply
  | .ok v => .version v .ok
  | .error refusal => .version 0 refusal.code

/-- The reply that carries a text, or an empty one. -/
def ofInfo : Except Refusal String → Reply
  | .ok text => .info text .ok
  | .error refusal => .info "" refusal.code

/-- The reply that carries nothing but whether the operation succeeded. -/
def ofDone (result : Except Refusal Unit) : Reply := .status (statusOf result)

end Reply

namespace Handlers

variable {σ : Type}

/-- The reply to a call that another handler should have got. -/
def mismatched (call : Call) : Reply :=
  .error .invalidParameter ("arguments do not match handler for '" ++ call.event ++ "'")

section Methods

variable (ops : Operations σ)

def register : Handler σ
  | .register name path active description appInfo, s =>
    (ops.addModel name path active description appInfo s).map .ofVersion id
  | call, s => (mismatched call, s)

def describe : Handler σ
  | .describe name version description, s =>
    (ops.updateModelDescription name version description s).map .ofDone id
  | call, s => (mismatched call, s)

def activate : Handler σ
  | .activate name version, s => (ops.activateModel name version s).map .ofDone id
  | call, s => (mismatched call, s)

def get : Handler σ
  | .get name version, s => (ops.getModel name version s).map .ofInfo id
  | call, s => (mismatched call, s)

def getActive : Handler σ
  | .getActive name, s => (ops.getActivatedModel name s).map .ofInfo id
  | call, s => (mismatched call, s)

def getAll : Handler σ
  | .getAll name, s => (ops.getAllModels name s).map .ofInfo id
  | call, s => (mismatched call, s)

def delete : Handler σ
  | .delete name version force, s => (ops.deleteModel name version force s).map .ofDone id
  | call, s => (mismatched call, s)

def setPipeline : Handler σ
  | .setPipeline name description, s =>
    (ops.setPipelineDescription name description s).map .ofDone id
  | call, s => (mismatched call, s)

def addResource : Handler σ
  | .addResource name path description appInfo, s =>
    (ops.addResource name path description appInfo s).map .ofDone id
  | call, s => (mismatched call, s)

end Methods

/-! ## The table -/

/-- An event with its handler, which works on the operations of any registry. -/
structure Row (σ : Type) where
  event : String
  handle : Operations σ → Handler σ

/-- The events of the model service with their handlers, in the order of attaching. -/
def table : List (Row σ) :=
  [⟨Events.register, register⟩, ⟨Events.describe, describe⟩, ⟨Events.activate, activate⟩,
    ⟨Events.get, get⟩, ⟨Events.getActive, getActive⟩, ⟨Events.getAll, getAll⟩,
    ⟨Events.delete, delete⟩, ⟨Events.setPipeline, setPipeline⟩,
    ⟨Events.addResource, addResource⟩]

/-- Detach the handlers of some events. -/
def detach (rows : List (Row σ)) (s : Service σ) : Service σ :=
  rows.foldl (fun s row => (s.detach row.event).2) s

/-- Detach the handlers of all events of the table. -/
def detachAll (s : Service σ) : Service σ := detach table s

/-- Attach some handlers, up to the first event that is taken. -/
def attach (ops : Operations σ) : List (Row σ) → Service σ → Except BusError Unit × Service σ
  | [], s => (.ok (), s)
  | row :: rows, s =>
    match s.attach row.event (row.handle ops) with
    | (.ok _, s) => attach ops rows s
    | (.error e, s) => (.error e, s)

/-- Attach all handlers of the table, or leave none of their events taken. -/
def attachAll (backend : Backend σ) (s : Service σ) : Except BusError Unit × Service σ :=
  match attach (.of backend) table s with
  | (.ok (), s) => (.ok (), s)
  | (.error e, s) => (.error e, detachAll s)

end Handlers
end ModelRegistry
