import ModelRegistry.Hook
import ModelRegistry.Manifest.Registration
import ModelRegistry.Package

/-!
# Plugins

A plugin answers the eight hooks of the package manager.  All that it has to supply is what happens
on installation; the other hooks are put together from installing and uninstalling, and uninstalling
does nothing unless the plugin says otherwise.  An upgrade always succeeds: failures of its two
steps are reported and go no further.

`Hook.run` is what the package manager sees: zero for success and minus one for failure.
-/

namespace ModelRegistry

/-- What the package manager passes to every hook. -/
structure HookArgs where
  pkgId : String
  appId : Option String
  /-- Keys with values, in order. -/
  metadata : List (String × String)
  deriving DecidableEq, Repr

/-- Why an installation fails. -/
inductive InstallError
  | packageInfo (error : PackageError)
  | manifest (path : Path) (error : ManifestError)
  deriving DecidableEq, Repr

namespace InstallError

def message : InstallError → String
  | packageInfo error => "Package info unavailable: " ++ error.message
  | manifest path error => "Manifest " ++ path.text ++ " rejected: " ++ error.message

end InstallError

/-- What an installation came to. -/
inductive Installation
  /-- The package is of another type, so nothing was registered. -/
  | skipped (packageType : String)
  | installed (manifest : Path) (report : Manifest.Report)
  deriving DecidableEq, Repr

/-- A step of a plugin on a state of type `σ`. -/
abbrev PluginStep (σ α : Type) := HookArgs → Action σ (Except InstallError α)

namespace PluginStep

variable {σ : Type}

/-- Nothing to do. -/
def nothing : PluginStep σ Unit := fun _ => pure (.ok ())

/-- Leave what is registered in place. -/
def leaveInPlace : PluginStep σ Unit := fun args => do
  Action.report (.nothingToClean args.pkgId)
  pure (.ok ())

/-- Uninstall and then install; failures are only reported. -/
def upgrade (uninstall : PluginStep σ Unit) (install : PluginStep σ Installation) :
    PluginStep σ Unit := fun args => do
  match ← uninstall args with
  | .ok () => pure ()
  | .error e => Action.report (.upgradeUninstallFailed args.pkgId e.message)
  match ← install args with
  | .ok _ => pure ()
  | .error e => Action.report (.upgradeInstallFailed args.pkgId e.message)
  pure (.ok ())

end PluginStep

/-- The answers to the eight hooks. -/
structure Plugin (σ : Type) where
  install : PluginStep σ Installation
  uninstall : PluginStep σ Unit := .leaveInPlace
  upgrade : PluginStep σ Unit := .upgrade uninstall install
  recoverInstall : PluginStep σ Unit := uninstall
  recoverUpgrade : PluginStep σ Unit := upgrade
  recoverUninstall : PluginStep σ Installation := install
  clean : PluginStep σ Unit := .nothing
  undo : PluginStep σ Unit := .nothing

namespace Plugin

variable {σ : Type}

/-- Answer a hook. -/
def answer (p : Plugin σ) : Hook → PluginStep σ Unit
  | .install => fun args => return (← p.install args).map fun _ => ()
  | .uninstall => p.uninstall
  | .upgrade => p.upgrade
  | .recoverInstall => p.recoverInstall
  | .recoverUpgrade => p.recoverUpgrade
  | .recoverUninstall => fun args => return (← p.recoverUninstall args).map fun _ => ()
  | .clean => p.clean
  | .undo => p.undo

end Plugin

/-- Run a hook as the package manager does. -/
def Hook.run {σ : Type} (h : Hook) (p : Plugin σ) (args : HookArgs) : Action σ Int := do
  Action.report (.hookCalled h.name args.pkgId (args.appId.getD ""))
  match ← p.answer h args with
  | .ok () => pure 0
  | .error e =>
    Action.report (.hookFailed h.name args.pkgId e.message)
    pure (-1)

end ModelRegistry
