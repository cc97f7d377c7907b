import ModelRegistry.CommandLine
import ModelRegistry.Log.Line
import ModelRegistry.Server
import ModelRegistry.Store

/-!
# A run of the program

The program runs on a `Host`: the files it sees and the peer at the other end of its socket.  Help
and version are answered at once.  For everything else the settings are loaded and the log is set
up, the settings that were rejected are reported, and then the command is carried out.  All commands
but one come to an end; a daemon that listens goes on until it is stopped.
-/

namespace ModelRegistry

/-- What a program runs on. -/
structure Host (τ : Type) where
  files : FileTree
  peer : τ

/-- The server of the program: an empty store behind the bus inside the process. -/
abbrev Serving := Server LocalBus Store

namespace Serving

/-- Start the daemon and listen.  When that fails the daemon is stopped again. -/
def start (settings : Settings) (t : FileTree) : Outcome FileTree (Except IoFault Serving) :=
  let started := Daemon.start.run (Daemon.new LocalBus.bus Store.backend .new .empty)
  let events := started.events ++ if started.value = 0 then [.noModuleEnabled] else []
  match Server.openSocket settings.socketPath t with
  | .ok t =>
    ⟨.ok (Server.new started.state settings.frameLimit settings.maxConnections), t,
      events ++ [.listening settings.socketPath.text]⟩
  | .error fault =>
    ⟨.error fault, t,
      events ++ (Daemon.stop.run started.state).events ++ [.daemonFailed fault.message]⟩

/-- Let the calls under way finish, stop the daemon and remove the socket. -/
def stop (settings : Settings) (s : Serving) (t : FileTree) : Outcome FileTree Serving :=
  let s := s.beginDrain
  let ending : Event :=
    match s.drain.result with
    | .complete => .drained
    | .timeout remaining => .drainTimedOut remaining
  let stopped := Daemon.stop.run s.daemon
  ⟨{ s with daemon := stopped.state }, Server.closeSocket settings.socketPath t,
    .shutdownRequested :: ending :: stopped.events⟩

end Serving

/-- A program that has been started. -/
inductive Program (τ : Type)
  | finished (finish : Finish) (host : Host τ)
  /-- The daemon listens; what it has written to standard error so far is kept. -/
  | serving (settings : Settings) (log : Log) (server : Serving) (errors : String) (host : Host τ)

namespace Program

variable {τ : Type}

/-- A command that talks to the daemon, run with a client that is closed at the end. -/
def asClient (machine : Peer τ) (settings : Settings)
    (command : Backend (Client τ) → Action (Client τ) Finish) : Action τ Finish := fun peer =>
  let address : Address := ⟨settings.socketPath, settings.frameLimit⟩
  let o := (command (Client.backend machine address)).run (Client.new peer)
  ⟨o.value, (o.state.disconnect machine).peer, o.events⟩

/-- Carry out a command other than `serve`, `help` and `version`. -/
def runCommand (machine : Peer τ) (settings : Settings) (files : Files) :
    Command → Action τ Finish
  | .plugin args =>
    asClient machine settings fun backend =>
      CommandLine.runPlugin (PackageDb.source ⟨settings.packageDb⟩ files) files backend args
  | .parse args => asClient machine settings fun backend => CommandLine.runParse files backend args
  | .unknown name => pure (.misuse (.command name))
  | .serve | .help | .version => pure ⟨.success, "", ""⟩

/-- Carry out a command once the log is there. -/
def runLogged (machine : FileTree → Peer τ) (time : String) (settings : Settings) (log : Log)
    (command : Command) (host : Host τ) : Program τ :=
  let (warnings, files) :=
    log.write time (settings.faults.map fun fault => .settingRejected fault.message) host.files
  match command with
  | .serve =>
    let o := Serving.start settings files
    let (lines, files) := log.write time o.events o.state
    match o.value with
    | .ok server => .serving settings log server (warnings ++ lines) { host with files }
    | .error _ => .finished ⟨.failure, "", warnings ++ lines⟩ { host with files }
  | command =>
    let o := (runCommand (machine files) settings files.files command).run host.peer
    let (lines, files) := log.write time o.events files
    .finished { o.value with errors := warnings ++ lines ++ o.value.errors } ⟨files, o.state⟩

/-- Start the program.  What a client can reach depends on the files. -/
def start (machine : FileTree → Peer τ) (time : String) (env : Environment) (args : List String)
    (host : Host τ) : Program τ :=
  match Command.ofArgs args with
  | .help => .finished ⟨.success, "", CommandLine.usage⟩ host
  | .version => .finished ⟨.success, CommandLine.versionLine, ""⟩ host
  | command =>
    let settings := Settings.load env
    match Log.ofSettings settings.log host.files with
    | .error e =>
      .finished ⟨.misuse, "", "Logging setup failed: " ++ e.message ++ "\n"⟩ host
    | .ok (log, files) => runLogged machine time settings log command { host with files }

end Program
end ModelRegistry
