import ModelRegistry.Manifest.Basic

/-!
# Events

While it works the program reports what happens.  An `Event` is one such report, with all that it
says; its level, its message, its fields and the part of the program that it comes from are read off
it.  Errors are carried in words, as the report shows them.
-/

namespace ModelRegistry

/-- How serious an event is. -/
inductive Level
  | error
  | warn
  | info
  | debug
  | trace
  deriving DecidableEq, Repr

namespace Level

/-- The more serious, the lower. -/
def rank : Level → Nat
  | error => 1
  | warn => 2
  | info => 3
  | debug => 4
  | trace => 5

def name : Level → String
  | error => "ERROR"
  | warn => "WARN"
  | info => "INFO"
  | debug => "DEBUG"
  | trace => "TRACE"

end Level

/-- The value of one field of an event. -/
inductive EventValue
  | text (value : String)
  | number (value : Int)
  | flag (value : Bool)
  deriving DecidableEq, Repr

/-- What the program reports. -/
inductive Event
  /-- A manifest names a category that there is not. -/
  | unknownCategory (key : String)
  | modelRegistered (name path : String) (version : UInt32) (active : Bool)
  | pipelineRegistered (name : String)
  | resourceRegistered (name path : String)
  /-- The backend refused a model or a pipeline. -/
  | registrationRefused (category : Category) (refusal : Refusal)
  /-- The backend refused one path of a resource. -/
  | resourceRefused (name path : String) (refusal : Refusal)
  | entrySkipped (category : Category) (fault : Manifest.EntryFault)
  /-- One path of a resource is not a text. -/
  | pathSkipped (name : String) (index : Nat)
  | manifestDone (report : Manifest.Report)
  /-- A hook begins. -/
  | hookCalled (hook pkgId appId : String)
  | hookFailed (hook pkgId error : String)
  /-- One item of what the package manager passes along. -/
  | packageMetadata (key value : String)
  | packageSkipped (pkgId packageType : String)
  | packageInstalled (pkgId manifest : String) (registered : Nat)
  | nothingToClean (pkgId : String)
  | upgradeUninstallFailed (pkgId error : String)
  | upgradeInstallFailed (pkgId error : String)
  /-- A module could not be probed. -/
  | moduleDisabled (name : String) (status : Status) (error : String)
  | moduleActive (name : String)
  | moduleTornDown (name : String)
  | noServiceObject (interface error : String)
  | handlersNotAttached (error : String)
  | notPublished (interface objectPath error : String)
  | wasNotPublished (error : String)
  | daemonStarted (enabled : Nat)
  | daemonStopped
  | noModuleEnabled
  | listening (socket : String)
  | connectionLimitReached (limit : Nat)
  | settingRejected (error : String)
  | daemonFailed (error : String)
  | shutdownRequested
  | drained
  | drainTimedOut (remaining : Nat)
  | manifestRejected (manifest error : String)
  deriving DecidableEq, Repr

namespace Event

def level : Event → Level
  | unknownCategory .. | registrationRefused .. | resourceRefused .. | hookFailed ..
  | noServiceObject .. | handlersNotAttached .. | notPublished .. | daemonFailed ..
  | manifestRejected .. => .error
  | entrySkipped .. | pathSkipped .. | upgradeUninstallFailed .. | upgradeInstallFailed ..
  | moduleDisabled .. | wasNotPublished .. | noModuleEnabled | connectionLimitReached ..
  | settingRejected .. | drainTimedOut .. => .warn
  | _ => .info

def message : Event → String
  | unknownCategory .. => "unknown manifest category"
  | modelRegistered .. => "model registered"
  | pipelineRegistered .. => "pipeline registered"
  | resourceRegistered .. => "resource registered"
  | registrationRefused .. => "registration failed"
  | resourceRefused .. => "resource registration failed"
  | entrySkipped .. => "manifest entry skipped"
  | pathSkipped .. => "resource path is not a string, skipped"
  | manifestDone .. => "manifest parsed"
  | hookCalled .. => "plugin hook called"
  | hookFailed .. => "plugin hook failed"
  | packageMetadata .. => "package metadata"
  | packageSkipped .. => "not an rpk package, skipped"
  | packageInstalled .. => "rpk package installed"
  | nothingToClean .. => "uninstall: nothing to clean up"
  | upgradeUninstallFailed .. => "upgrade: uninstall step failed"
  | upgradeInstallFailed .. => "upgrade: install step failed"
  | moduleDisabled .. => "module disabled"
  | moduleActive .. => "module active"
  | moduleTornDown .. => "module torn down"
  | noServiceObject .. => "cannot get a service object"
  | handlersNotAttached .. => "cannot attach the method handlers"
  | notPublished .. => "cannot export the interface"
  | wasNotPublished .. => "model interface was not exported"
  | daemonStarted .. => "daemon modules started"
  | daemonStopped => "daemon modules stopped"
  | noModuleEnabled => "no module enabled, serving bus-level errors only"
  | listening .. => "listening"
  | connectionLimitReached .. => "connection limit reached, dropping client"
  | settingRejected .. => "configuration fallback"
  | daemonFailed .. => "daemon failed"
  | shutdownRequested => "shutdown signal received, draining"
  | drained => "all calls drained"
  | drainTimedOut .. => "drain timed out"
  | manifestRejected .. => "manifest rejected"

/-- A number that counts something. -/
def count (n : Nat) : EventValue := .number n

/-- A status code. -/
def code (s : Status) : EventValue := .number s.toInt

/-- The fields of an event, in the order in which they are written. -/
def fields : Event → List (String × EventValue)
  | unknownCategory key => [("key", .text key)]
  | modelRegistered name path version active =>
    [("name", .text name), ("path", .text path), ("version", count version.toNat),
      ("active", .flag active)]
  | pipelineRegistered name => [("name", .text name)]
  | resourceRegistered name path => [("name", .text name), ("path", .text path)]
  | registrationRefused category refusal =>
    [("category", .text category.name), ("code", code refusal.code),
      ("error", .text refusal.report)]
  | resourceRefused name path refusal =>
    [("name", .text name), ("path", .text path), ("code", code refusal.code),
      ("error", .text refusal.report)]
  | entrySkipped category fault =>
    [("category", .text category.name), ("error", .text fault.message)]
  | pathSkipped name index => [("name", .text name), ("index", count index)]
  | manifestDone report =>
    [("models", count report.models), ("pipelines", count report.pipelines),
      ("resources", count report.resources), ("skipped", count report.skipped),
      ("failed", count report.failed)]
  | hookCalled hook pkgId appId =>
    [("hook", .text hook), ("pkg_id", .text pkgId), ("app_id", .text appId)]
  | hookFailed hook pkgId error =>
    [("hook", .text hook), ("pkg_id", .text pkgId), ("error", .text error)]
  | packageMetadata key value => [("key", .text key), ("value", .text value)]
  | packageSkipped pkgId packageType =>
    [("pkg_id", .text pkgId), ("package_type", .text packageType)]
  | packageInstalled pkgId manifest registered =>
    [("pkg_id", .text pkgId), ("manifest", .text manifest), ("registered", count registered)]
  | nothingToClean pkgId => [("pkg_id", .text pkgId)]
  | upgradeUninstallFailed pkgId error | upgradeInstallFailed pkgId error =>
    [("pkg_id", .text pkgId), ("error", .text error)]
  | moduleDisabled name status error =>
    [("module", .text name), ("status", code status), ("error", .text error)]
  | moduleActive name | moduleTornDown name => [("module", .text name)]
  | noServiceObject interface error => [("interface", .text interface), ("error", .text error)]
  | notPublished interface objectPath error =>
    [("interface", .text interface), ("object_path", .text objectPath), ("error", .text error)]
  | daemonStarted enabled => [("enabled", count enabled)]
  | listening socket => [("socket", .text socket)]
  | connectionLimitReached limit => [("max", count limit)]
  | handlersNotAttached error | wasNotPublished error | settingRejected error
  | daemonFailed error => [("error", .text error)]
  | drainTimedOut remaining => [("remaining", count remaining)]
  | manifestRejected manifest error => [("manifest", .text manifest), ("error", .text error)]
  | daemonStopped | noModuleEnabled | shutdownRequested | drained => []

/-- The part of the program that an event comes from, by which a log filter can select it. -/
def origin : Event → String
  | unknownCategory .. | modelRegistered .. | pipelineRegistered .. | resourceRegistered ..
  | registrationRefused .. | resourceRefused .. | entrySkipped .. | pathSkipped ..
  | manifestDone .. => "mlops_agent::installer::manifest"
  | hookCalled .. | hookFailed .. | packageMetadata .. | packageSkipped .. | packageInstalled ..
  | nothingToClean .. | upgradeUninstallFailed .. | upgradeInstallFailed .. =>
    "mlops_agent::installer::plugin"
  | moduleDisabled .. | moduleActive .. | moduleTornDown .. => "mlops_agent::modules"
  | noServiceObject .. | handlersNotAttached .. | notPublished .. | wasNotPublished .. =>
    "mlops_agent::modules::model"
  | daemonStarted .. | daemonStopped => "mlops_agent::daemon"
  | listening .. | connectionLimitReached .. => "mlops_agent::ipc::server"
  | noModuleEnabled | settingRejected .. | daemonFailed .. | shutdownRequested | drained
  | drainTimedOut .. | manifestRejected .. => "mlops_agent"

end Event
end ModelRegistry
