import ModelRegistry.Log.Format
import ModelRegistry.Wire

/-!
# Settings

The program is set up by eight environment variables.  Each setting depends on its own variable and
on nothing else: `Settings.load` reads them one by one, and every number or name that is set but
cannot be used counts as unset and leaves a `SettingFault`.

A blank value counts as unset, with one exception: a path is unset only when it is empty, so a path
of blanks is a path.
-/

namespace ModelRegistry

/-- The variables that the program reads. -/
inductive Variable
  | socketPath
  | packageDb
  | frameLimit
  | maxConnections
  | shutdownTimeout
  | logLevel
  | logFormat
  | logFile
  deriving DecidableEq, Repr

namespace Variable

def all : List Variable :=
  [socketPath, packageDb, frameLimit, maxConnections, shutdownTimeout, logLevel, logFormat, logFile]

/-- What the name of a variable ends with. -/
def key : Variable → String
  | socketPath => "SOCKET_PATH"
  | packageDb => "PACKAGE_DB"
  | frameLimit => "FRAME_LIMIT"
  | maxConnections => "MAX_CONNECTIONS"
  | shutdownTimeout => "SHUTDOWN_TIMEOUT"
  | logLevel => "LOG_LEVEL"
  | logFormat => "LOG_FORMAT"
  | logFile => "LOG_FILE"

def name (v : Variable) : String := "MLOPS_AGENT_" ++ v.key

end Variable

/-- The values of the variables; none for one that is not set. -/
abbrev Environment := Variable → Option Bytes

/-- A variable whose value cannot be used. -/
inductive SettingFault
  | invalidValue (source : Variable) (value reason : String)
  | notText (source : Variable)
  deriving DecidableEq, Repr

namespace SettingFault

def message : SettingFault → String
  | invalidValue v value reason =>
    "Invalid value for " ++ v.name ++ ": '" ++ value ++ "' (" ++ reason ++ "), using default"
  | notText v => v.name ++ " is not valid UTF-8, using default"

end SettingFault

/-! ## Numbers -/

/-- Why a text is not a number below `2 ^ 64`. -/
inductive NumberFault
  | invalidDigit
  | tooLarge
  deriving DecidableEq, Repr

namespace NumberFault

def message : NumberFault → String
  | invalidDigit => "invalid digit found in string"
  | tooLarge => "number too large to fit in target type"

end NumberFault

/-- Numbers are below this. -/
def numberBound : Nat := UInt64.size

/-- Take up the digits from left to right; the first that does not fit decides the fault. -/
def readDigits : Nat → List Char → Except NumberFault Nat
  | n, [] => .ok n
  | n, c :: cs =>
    if !c.isDigit then .error .invalidDigit
    else
      let n := n * 10 + (c.toNat - '0'.toNat)
      if numberBound ≤ n then .error .tooLarge else readDigits n cs

/-- Read a decimal number with an optional plus sign. -/
def readNumber (s : String) : Except NumberFault Nat :=
  let digits :=
    match s.toList with
    | '+' :: cs => cs
    | cs => cs
  if digits = [] then .error .invalidDigit else readDigits 0 digits

/-! ## Values -/

/-- The text of a variable; none when it is unset or blank. -/
def Environment.text? (env : Environment) (v : Variable) : Except SettingFault (Option String) :=
  match env v with
  | none => .ok none
  | some value =>
    match Text.ofBytes? value with
    | none => .error (.notText v)
    | some s => .ok (if Text.trim s = "" then none else some s)

/-- The value of a variable, read from its text without the blanks around it. -/
def Environment.value? {α : Type} (env : Environment) (v : Variable)
    (read : String → Except String α) : Except SettingFault (Option α) :=
  match env.text? v with
  | .error e => .error e
  | .ok none => .ok none
  | .ok (some s) =>
    match read (Text.trim s) with
    | .ok a => .ok (some a)
    | .error reason => .error (.invalidValue v s reason)

/-- The value of a variable or its default, and the fault if there is one. -/
def Environment.valueOr {α : Type} (env : Environment) (v : Variable) (default : α)
    (read : String → Except String α) : α × List SettingFault :=
  match env.value? v read with
  | .ok a => (a.getD default, [])
  | .error e => (default, [e])

/-- The path in a variable, or the default when it is unset or empty. -/
def Environment.path? (env : Environment) (v : Variable) : Option Path :=
  match env v with
  | none => none
  | some value => if value = [] then none else some ⟨value⟩

/-! ## All settings -/

/-- The settings of the program. -/
structure Settings where
  socketPath : Path
  packageDb : Path
  frameLimit : Nat
  maxConnections : Nat
  shutdownSeconds : Nat
  log : LogSettings
  /-- The variables that were set and could not be used. -/
  faults : List SettingFault
  deriving DecidableEq, Repr

namespace Settings

def defaultSocketPath : String := "/run/mlops-agent/mlops-agent.sock"

def defaultPackageDb : String := "/var/lib/mlops-agent/packages"

/-- The least limit on a frame. -/
def leastFrameLimit : Nat := 4096

/-- The reader of numbers. -/
def number (s : String) : Except String Nat := (readNumber s).mapError NumberFault.message

/-- The settings that an environment makes. -/
def load (env : Environment) : Settings :=
  let frameLimit := env.valueOr .frameLimit defaultLimit number
  let maxConnections := env.valueOr .maxConnections 64 number
  let shutdownTimeout := env.valueOr .shutdownTimeout 10 number
  let level := env.valueOr .logLevel "info" .ok
  let format := env.valueOr .logFormat .json fun s => (LogFormat.ofName s).mapError LogError.message
  { socketPath := (env.path? .socketPath).getD (.ofText defaultSocketPath)
    packageDb := (env.path? .packageDb).getD (.ofText defaultPackageDb)
    frameLimit := max frameLimit.1 leastFrameLimit
    maxConnections := max maxConnections.1 1
    shutdownSeconds := max shutdownTimeout.1 1
    log := { format := format.1, level := level.1, file := env.path? .logFile }
    faults := frameLimit.2 ++ maxConnections.2 ++ shutdownTimeout.2 ++ level.2 ++ format.2 }

end Settings
end ModelRegistry
