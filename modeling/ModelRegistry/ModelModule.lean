import ModelRegistry.Handlers
import ModelRegistry.Lifecycle

/-!
# The module of the model service

Its probe makes the service object, attaches the handlers, publishes the service and keeps it in the
context, in this order; a step that fails ends the probe and leaves the context without the service.
On exit the service is taken away again and withdrawn.
-/

namespace ModelRegistry
namespace ModelModule

variable {β σ : Type}

def name : String := "model-interface"

/-- Publish the model service. -/
def probe (bus : Bus β σ) (backend : Backend σ) :
    Action (Context β σ) (Except ModuleError Unit) := do
  match ← Context.onBus (bus.acquire modelInterface) with
  | .error e =>
    Action.report (.noServiceObject modelInterface e.message)
    pure (.error (.unavailable e))
  | .ok service =>
    match Handlers.attachAll backend service with
    | (.error e, _) =>
      Action.report (.handlersNotAttached e.message)
      pure (.error (.unavailable e))
    | (.ok (), service) =>
      match ← Context.onBus (bus.publish service modelObjectPath) with
      | .error e =>
        Action.report (.notPublished modelInterface modelObjectPath e.message)
        pure (.error (.unavailable e))
      | .ok () =>
        Action.step fun c => ((), c.insertService modelObjectPath service)
        pure (.ok ())

/-- Make the bus ready. -/
def init (bus : Bus β σ) : Action (Context β σ) Unit :=
  Context.onBus fun b => ((), bus.boot b)

/-- Withdraw the model service, if it is there. -/
def exit (bus : Bus β σ) : Action (Context β σ) Unit := do
  match ← Action.step (Context.takeService modelObjectPath) with
  | none => pure ()
  | some _ =>
    match ← Context.onBus (bus.withdraw modelObjectPath) with
    | .ok () => pure ()
    | .error e => Action.report (.wasNotPublished e.message)

/-- The module of the model service. -/
def hooks (bus : Bus β σ) (backend : Backend σ) : Module β σ where
  name := name
  probe := probe bus backend
  init := init bus
  exit := exit bus

end ModelModule

/-- The modules that are built in. -/
def Modules.builtIn {β σ : Type} (bus : Bus β σ) (backend : Backend σ) : Modules β σ :=
  Modules.register (ModelModule.hooks bus backend) []

end ModelRegistry
