import ModelRegistry.Link
import ModelRegistry.Program
import Std.Time.Format

/-!
# The program on a machine

The program itself is `Program.start`.  What is here looks at the files that it is going to need,
runs it on a tree of them, and carries out what came of it: the two standard streams, the log and
the exit code.

There are no sockets here, so the daemon speaks on its standard streams as on one connection, until
they end, and a client finds nobody who listens.
-/

namespace ModelRegistry
namespace Main

/-! ## Before the run -/

/-- The value of every variable. -/
def readEnvironment : IO Environment := do
  let values ← Variable.all.mapM fun v => do return (v, ← IO.getEnv v.name)
  return fun v => ((values.lookup v).join).map Text.bytes

/-- The time of day as the log writes it. -/
def readTime : IO String := do
  let now ← Std.Time.Timestamp.now
  return (Std.Time.DateTime.ofTimestampWithZone now .UTC).format "uuuu-MM-dd'T'HH:mm:ss.SSSSSS'Z'"

/-- Note what is at a path.  The numbers are those of a directory and of a socket that are opened as
if they were files. -/
def note (t : FileTree) (p : Path) : IO FileTree := do
  let some name := Text.ofBytes? p.bytes | return t
  if (FileTree.refusal? p).isSome then return t
  match ← (IO.FS.readBinFile name).toBaseIO with
  | .ok content => return t.place p content.toList
  | .error (.inappropriateType _ 21 _) => return (t.makeDirectories p).toOption.getD t
  | .error (.noSuchThing _ 6 _) => return (t.bind p).toOption.getD t
  | .error _ => return t

/-- Note what is at a path and on the way to it. -/
def survey (t : FileTree) (p : Path) : IO FileTree := do
  let ways := (List.range p.components.length).map fun n =>
    Path.ofNames p.isAbsolute (p.components.take (n + 1))
  ways.foldlM note t

/-- The files that a command needs. -/
def surveyCommand (settings : Settings) (t : FileTree) : Command → IO FileTree
  | .plugin args => do
    let .ok request := HookRequest.ofArgs args | return t
    let db : PackageDb := ⟨settings.packageDb⟩
    let some descriptor := db.descriptorPath? request.args.pkgId | return t
    let t ← survey t descriptor
    let .ok (.inr target) := Installer.target (db.source t.files) request.args | return t
    survey t target.manifest
  | .parse args => do
    let .ok request := ManifestRequest.ofArgs args | return t
    survey t request.manifest
  | _ => return t

/-- The files that a run needs. -/
def surveyRun (settings : Settings) (command : Command) : IO FileTree := do
  let here := Path.ofText (← IO.currentDir).toString
  let t ← survey (.bare here.names) here
  let t ← survey t settings.socketPath
  let t ← settings.log.file.toList.foldlM survey t
  surveyCommand settings t command

/-! ## After the run -/

/-- Add to the log what is new in it. -/
def keepLog (settings : Settings) (before after : FileTree) : IO Unit := do
  let some path := settings.log.file | return
  let some name := Text.ofBytes? path.bytes | return
  let .ok content := after.read path | return
  let known := ((before.read path).toOption.getD []).length
  let file ← IO.FS.Handle.mk name .append
  file.write ⟨(content.drop known).toArray⟩

/-- Write to the two standard streams. -/
def tell (output errors : String) : IO Unit := do
  (← IO.getStderr).putStr errors
  let stdout ← IO.getStdout
  stdout.putStr output
  stdout.flush

/-- Answer what comes in on a connection until it ends. -/
partial def converse (input output : IO.FS.Stream) (id : Nat) (s : Serving) : IO Serving := do
  let some unread := s.connections.lookup id | return s
  let bytes ← input.read (USize.ofNat (Frame.missing unread))
  if bytes.isEmpty then return s
  let (answer, s) := s.feed id bytes.toList
  output.write ⟨answer.toArray⟩
  output.flush
  converse input output id s

/-- Serve the one connection there is, and stop. -/
def serve (settings : Settings) (log : Log) (server : Serving) (t : FileTree) : IO FileTree := do
  let accepted := Server.accept.run server
  let (errors, t) := log.write (← readTime) accepted.events t
  tell "" errors
  let server ← converse (← IO.getStdin) (← IO.getStdout) accepted.value accepted.state
  let o := Serving.stop settings server t
  let (errors, t) := log.write (← readTime) o.events o.state
  tell "" errors
  return t

/-- Nobody listens. -/
def nobody (t : FileTree) : Peer Unit :=
  .nobody fun socket =>
    match t.findSocket socket with
    | .error fault => fault
    | .ok () => .connectionRefused

end Main
end ModelRegistry

open ModelRegistry in
/-- Run the program with the arguments after its name. -/
def main (args : List String) : IO UInt32 := do
  let env ← Main.readEnvironment
  let settings := Settings.load env
  let files ← Main.surveyRun settings (Command.ofArgs args)
  match Program.start Main.nobody (← Main.readTime) env args ⟨files, ()⟩ with
  | .finished finish host =>
    Main.keepLog settings files host.files
    Main.tell finish.output finish.errors
    return finish.code.number.toUInt32
  | .serving settings log server errors host =>
    Main.tell "" errors
    let after ← Main.serve settings log server host.files
    Main.keepLog settings files after
    return ExitCode.success.number.toUInt32
