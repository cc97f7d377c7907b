import ModelRegistry.AppContext
import ModelRegistry.Plugin

/-!
# The installer of resource packages

On installation the manifest of a resource package is registered.  Its path is made from the root
of the package and the kind of its resources, and every model and resource is tagged with where it
comes from.  Packages of other types are left alone.
-/

namespace ModelRegistry
namespace Installer

/-- The type of package that is installed. -/
def packageType : String := "rpk"

/-- What a manifest is called. -/
def manifestFile : String := "rpk_config.json"

/-- Where the manifest of a package is. -/
def manifestPath (root : Path) (resType : String) : Path :=
  ((((root.join (.ofText "res")).join (.ofText "global")).join (.ofText resType)).join
    (.ofText manifestFile))

/-- All that the manifest of a package needs: where it is and the tag of its registrations. -/
structure Target where
  manifest : Path
  appInfo : String
  deriving DecidableEq, Repr

/-- What there is to install of a package: nothing for another type, which is then the answer. -/
def target (source : PackageSource) (args : HookArgs) : Except PackageError (String ⊕ Target) := do
  let package ← source args.pkgId
  let type ← package.packageType
  if type ≠ packageType then return .inl type
  let root ← package.rootPath
  let resType ← package.resType
  let resVersion ← package.resVersion
  return .inr
    { manifest := manifestPath root resType
      appInfo := (AppContext.of args.pkgId args.appId resType resVersion).appInfo }

variable {σ : Type}

/-- Report what the package manager passed along. -/
def reportMetadata : List (String × String) → Action σ Unit
  | [] => pure ()
  | (key, value) :: rest => do
    Action.report (.packageMetadata key value)
    reportMetadata rest

/-- Install a package. -/
def install (source : PackageSource) (files : Files) (backend : Backend σ) :
    PluginStep σ Installation := fun args => do
  reportMetadata args.metadata
  match target source args with
  | .error e => pure (.error (.packageInfo e))
  | .ok (.inl type) =>
    Action.report (.packageSkipped args.pkgId type)
    pure (.ok (.skipped type))
  | .ok (.inr t) =>
    match ← Manifest.registerFile backend files t.appInfo t.manifest with
    | .error e => pure (.error (.manifest t.manifest e))
    | .ok report =>
      Action.report (.packageInstalled args.pkgId t.manifest.text report.registered)
      pure (.ok (.installed t.manifest report))

/-- The installer as a plugin. -/
def plugin (source : PackageSource) (files : Files) (backend : Backend σ) : Plugin σ where
  install := install source files backend

end Installer
end ModelRegistry
