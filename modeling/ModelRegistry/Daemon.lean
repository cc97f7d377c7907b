import ModelRegistry.ModelModule

/-!
# The daemon

The daemon owns the modules and what they share.  Starting it probes and then initialises the
modules; the number it answers is that of the modules that have just been enabled, taken between the
two.  Stopping it tears down all that was enabled.  In between it dispatches calls.
-/

namespace ModelRegistry

/-- The modules with what they share. -/
structure Daemon (β σ : Type) where
  context : Context β σ
  modules : Modules β σ

namespace Daemon

variable {β σ : Type}

/-- A daemon with the modules that are built in. -/
def new (bus : Bus β σ) (backend : Backend σ) (b : β) (s : σ) : Daemon β σ :=
  ⟨.new b s, .builtIn bus backend⟩

/-- Work on the context of a daemon. -/
def onContext {α : Type} (a : Action (Context β σ) α) : Action (Daemon β σ) α :=
  Action.within (·.context) (fun context d => { d with context }) a

/-- Replace the modules of a daemon by what an action makes of them. -/
def onModules (f : Modules β σ → Action (Context β σ) (Modules β σ)) :
    Action (Daemon β σ) Unit := do
  let modules ← onContext (f (← Action.get).modules)
  Action.step fun d => ((), { d with modules })

/-- Start the daemon and answer how many modules were enabled. -/
def start : Action (Daemon β σ) Nat := do
  onModules Modules.probeAll
  let enabled := (← Action.get).modules.probedCount
  onModules Modules.initAll
  Action.report (.daemonStarted enabled)
  pure enabled

/-- Stop the daemon. -/
def stop : Action (Daemon β σ) Unit := do
  onModules Modules.exitAll
  Action.report .daemonStopped

/-- Answer a call. -/
def dispatch (m : Message) (d : Daemon β σ) : Reply × Daemon β σ :=
  let (reply, context) := d.context.dispatch m
  (reply, { d with context })

end Daemon
end ModelRegistry
