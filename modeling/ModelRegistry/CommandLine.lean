import ModelRegistry.Client
import ModelRegistry.Installer
import ModelRegistry.Settings
import ModelRegistry.Text.Cut

/-!
# The command line

The first argument names a `Command`; without one the daemon is run.  The rest of the arguments is
read by the command: `HookRequest.ofArgs` accepts two or three words with any number of
`--metadata KEY=VALUE` pairs among them, `ManifestRequest.ofArgs` a path with at most one tag.
Arguments that are not understood end in a `UsageError` before anything is done.
-/

namespace ModelRegistry

/-- What the program is asked to do, with the arguments that are still to be read. -/
inductive Command
  | help
  | version
  | serve
  | plugin (args : List String)
  | parse (args : List String)
  | unknown (name : String)
  deriving DecidableEq, Repr

namespace Command

/-- The command in the arguments of the program. -/
def ofArgs : List String → Command
  | [] => serve
  | name :: args =>
    if name = "help" ∨ name = "--help" ∨ name = "-h" then help
    else if name = "version" ∨ name = "--version" ∨ name = "-V" then version
    else if name = "serve" ∨ name = "" then serve
    else if name = "plugin" then plugin args
    else if name = "parse" then parse args
    else unknown name

end Command

/-- How the program ends. -/
inductive ExitCode
  | success
  | failure
  /-- Arguments or settings that cannot be used. -/
  | misuse
  deriving DecidableEq, Repr

def ExitCode.number : ExitCode → UInt8
  | success => 0
  | failure => 1
  | misuse => 2

/-- What a command leaves behind: its exit code and what it wrote to the two standard streams. -/
structure Finish where
  code : ExitCode
  output : String
  errors : String
  deriving DecidableEq, Repr

namespace CommandLine

def programName : String := "mlops-agent"

def programVersion : String := "0.3.0"

/-- What `version` prints. -/
def versionLine : String := programName ++ " " ++ programVersion ++ "\n"

/-- What `help` prints. -/
def usage : String :=
  "\n".intercalate
    [programName ++ " " ++ programVersion ++ " - model registry daemon and RPK installer",
      "",
      "USAGE:",
      "    mlops-agent [COMMAND] [OPTIONS]",
      "",
      "COMMANDS:",
      "    serve                              Run the daemon (default)",
      "    plugin <HOOK> <PKGID> [APPID]      Run a package-manager hook",
      "        [--metadata KEY=VALUE]...      Metadata passed by the package manager",
      "    parse <MANIFEST> [--app-info JSON] Register a manifest with the daemon",
      "    version                            Show version information",
      "    help                               Show this help message",
      "",
      "HOOKS:",
      "    INSTALL UNINSTALL UPGRADE RECOVERINSTALL RECOVERUPGRADE",
      "    RECOVERUNINSTALL CLEAN UNDO",
      "",
      "ENVIRONMENT:",
      "    MLOPS_AGENT_SOCKET_PATH  Daemon socket (default: " ++ Settings.defaultSocketPath ++ ")",
      "    MLOPS_AGENT_PACKAGE_DB   Package descriptor directory (default: " ++
        Settings.defaultPackageDb ++ ")",
      "    MLOPS_AGENT_LOG_LEVEL    Log filter (default: info)",
      "    MLOPS_AGENT_LOG_FORMAT   json or pretty (default: json)",
      "",
      "EXIT CODES:",
      "    0  Success",
      "    1  Failure",
      "    2  Usage or configuration error",
      "",
      ""]

end CommandLine

/-! ## Arguments -/

/-- Arguments that are not understood. -/
inductive UsageError
  | metadata
  | plugin
  | hook (name : String)
  | parse
  | command (name : String)
  deriving DecidableEq, Repr

/-- What is said about arguments that are not understood. -/
def UsageError.message : UsageError → String
  | metadata => "--metadata expects KEY=VALUE\n"
  | plugin => "usage: mlops-agent plugin <HOOK> <PKGID> [APPID]\n"
  | hook name => Hook.unknown name ++ "\n"
  | parse => "usage: mlops-agent parse <MANIFEST> [--app-info JSON]\n"
  | command name => "Unknown command: " ++ name ++ "\n" ++ CommandLine.usage

/-- The end of a command whose arguments are not understood. -/
def Finish.misuse (e : UsageError) : Finish := ⟨.misuse, "", e.message⟩

/-- A hook with what the package manager passes to it. -/
structure HookRequest where
  hook : Hook
  args : HookArgs
  deriving DecidableEq, Repr

namespace HookRequest

/-- The word before a key and its value. -/
def metadataFlag : String := "--metadata"

/-- Tell the words from the keys with values. -/
def sort? : List String → Option (List String × List (String × String))
  | [] => some ([], [])
  | [word] => if word = metadataFlag then none else some ([word], [])
  | word :: next :: rest =>
    if word = metadataFlag then do
      let item ← Text.cut? "=" next
      let (words, metadata) ← sort? rest
      pure (words, item :: metadata)
    else do
      let (words, metadata) ← sort? (next :: rest)
      pure (word :: words, metadata)

/-- The hook of a name with its arguments. -/
def of (hook pkgId : String) (appId : Option String) (metadata : List (String × String)) :
    Except UsageError HookRequest :=
  match Hook.ofName? hook with
  | some hook => .ok { hook, args := { pkgId, appId, metadata } }
  | none => .error (.hook hook)

/-- Read the arguments of `plugin`. -/
def ofArgs (args : List String) : Except UsageError HookRequest :=
  match sort? args with
  | none => .error .metadata
  | some ([hook, pkgId], metadata) => of hook pkgId none metadata
  | some ([hook, pkgId, appId], metadata) => of hook pkgId (some appId) metadata
  | some _ => .error .plugin

end HookRequest

/-- A manifest to be registered, with the tag of its registrations. -/
structure ManifestRequest where
  manifest : Path
  appInfo : String
  deriving DecidableEq, Repr

/-- Read the arguments of `parse`. -/
def ManifestRequest.ofArgs : List String → Except UsageError ManifestRequest
  | [manifest] => .ok ⟨.ofText manifest, "\x7b\x7d"⟩
  | [manifest, flag, appInfo] =>
    if flag = "--app-info" then .ok ⟨.ofText manifest, appInfo⟩ else .error .parse
  | _ => .error .parse

/-! ## Commands -/

namespace CommandLine

variable {σ : Type}

/-- What `parse` prints about the registrations. -/
def summary (r : Manifest.Report) : String :=
  "registered " ++ toString r.models ++ " model(s), " ++ toString r.pipelines ++ " pipeline(s), " ++
    toString r.resources ++ " resource(s); " ++ toString r.skipped ++ " skipped, " ++
    toString r.failed ++ " failed\n"

/-- Run a hook on the installer. -/
def runPlugin (source : PackageSource) (files : Files) (backend : Backend σ) (args : List String) :
    Action σ Finish :=
  match HookRequest.ofArgs args with
  | .error e => pure (.misuse e)
  | .ok request => do
    let code ← request.hook.run (Installer.plugin source files backend) request.args
    pure ⟨if code = 0 then .success else .failure, "", ""⟩

/-- Register a manifest. -/
def runParse (files : Files) (backend : Backend σ) (args : List String) : Action σ Finish :=
  match ManifestRequest.ofArgs args with
  | .error e => pure (.misuse e)
  | .ok request => do
    match ← Manifest.registerFile backend files request.appInfo request.manifest with
    | .ok report => pure ⟨.success, summary report, ""⟩
    | .error e =>
      Action.report (.manifestRejected request.manifest.text e.message)
      pure ⟨.failure, "", ""⟩

end CommandLine
end ModelRegistry
