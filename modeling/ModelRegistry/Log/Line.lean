import ModelRegistry.Files
import ModelRegistry.Json.Printer
import ModelRegistry.Log.Filter
import ModelRegistry.Log.Format

/-!
# The log

A `Log` is where events end up: those that pass its filter are written one on a line, either as a
JSON object or as plain text, to the end of a file or to standard error.  Setting it up can fail,
and the filter is looked at before the file.
-/

namespace ModelRegistry

/-! ## Lines -/

namespace EventValue

def toJson : EventValue → Json
  | text s => .text s
  | number n => .number (.integer n)
  | flag b => .flag b

/-- The value in a plain line. -/
def plain : EventValue → String
  | text s => Text.quoted s
  | number n => toString n
  | flag b => toString b

end EventValue

namespace Event

/-- The event at a time as an object. -/
def toJson (time : String) (e : Event) : Json :=
  .object
    [("timestamp", .text time), ("level", .text e.level.name),
      ("fields",
        .object (("message", .text e.message) :: e.fields.map fun f => (f.1, f.2.toJson))),
      ("target", .text e.origin)]

/-- The event at a time as plain text. -/
def plain (time : String) (e : Event) : String :=
  time ++ " " ++ e.level.name ++ " " ++ e.origin ++ ": " ++ e.message ++
    String.join (e.fields.map fun f => " " ++ f.1 ++ "=" ++ f.2.plain)

end Event

/-- One event as it is written. -/
def LogFormat.line (time : String) (e : Event) : LogFormat → String
  | json => (e.toJson time).compact ++ "\n"
  | pretty => e.plain time ++ "\n"

/-! ## Logs -/

/-- A log that is ready to be written. -/
structure Log where
  filter : LogFilter
  format : LogFormat
  /-- The file that is added to; none for standard error. -/
  file : Option Path

namespace Log

/-- Set a log up, which makes its file if there is none. -/
def ofSettings (settings : LogSettings) (t : FileTree) : Except LogError (Log × FileTree) :=
  match LogFilter.ofText? settings.level with
  | none => .error .invalidFilter
  | some filter =>
    let log := { filter, format := settings.format, file := settings.file }
    match settings.file with
    | none => .ok (log, t)
    | some path =>
      match t.openForAppend path with
      | .error fault => .error (.cannotOpen path fault)
      | .ok t => .ok (log, t)

/-- What is written for events. -/
def lines (log : Log) (time : String) (events : List Event) : String :=
  String.join ((events.filter log.filter.passes).map fun e => log.format.line time e)

/-- Write events; what belongs on standard error is the answer. -/
def write (log : Log) (time : String) (events : List Event) (t : FileTree) : String × FileTree :=
  match log.file with
  | none => (log.lines time events, t)
  | some path => ("", t.append path (Text.bytes (log.lines time events)))

end Log
end ModelRegistry
