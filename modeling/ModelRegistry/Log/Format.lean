import ModelRegistry.IoFault
import ModelRegistry.Path
import ModelRegistry.Text.Blank

/-!
# Settings of the log

Where events are written, in which form, and which of them: the last is a filter, kept here as the
text that spells it.
-/

namespace ModelRegistry

/-- The form in which events are written. -/
inductive LogFormat
  | json
  | pretty
  deriving DecidableEq, Repr

/-- Why there is no log. -/
inductive LogError
  | invalidFilter
  | unknownFormat (name : String)
  | cannotOpen (path : Path) (fault : IoFault)
  deriving DecidableEq, Repr

namespace LogError

def message : LogError → String
  | invalidFilter => "Invalid log filter: invalid filter directive"
  | unknownFormat name => "Unknown log format: " ++ name
  | cannotOpen path fault =>
    "Failed to open log file: " ++ path.text ++ ": " ++ fault.message

end LogError

namespace LogFormat

/-- The format of a name, in any case. -/
def ofName (name : String) : Except LogError LogFormat :=
  let name := Text.lower name
  if name = "json" then .ok json
  else if name = "pretty" ∨ name = "text" then .ok pretty
  else .error (.unknownFormat name)

end LogFormat

/-- What the settings say about the log. -/
structure LogSettings where
  format : LogFormat
  /-- The spelling of the filter. -/
  level : String
  /-- The file that the log is added to; without one it goes to standard error. -/
  file : Option Path
  deriving DecidableEq, Repr

end ModelRegistry
