import ModelRegistry.Call
import ModelRegistry.Json.Printer
import ModelRegistry.Json.Schema

/-!
# Messages on the wire

A `Message` addresses a call to an object; a `Reply` completes it.  Both are JSON documents in
UTF-8, with a limit on their size in bytes that is checked before a document is read and after one
has been written.

A call is a union tagged with its method, a reply one tagged with its kind.
-/

namespace ModelRegistry

/-- What the interface of the model service is called. -/
def modelInterface : String := "org.tizen.machinelearning.service.model"

/-- Where the model service is found. -/
def modelObjectPath : String := "/Org/Tizen/MachineLearning/Service/Model"

/-- The size limit of a message when nothing else is said. -/
def defaultLimit : Nat := 1024 * 1024

open Json (PlainField Values Kind Field Reader)

/-! ## Calls -/

namespace Method

/-- The tag a method is written with. -/
def tag : Method → String
  | register => "handle-register"
  | describe => "handle-update-description"
  | activate => "handle-activate"
  | get => "handle-get"
  | getActive => "handle-get-activated"
  | getAll => "handle-get-all"
  | delete => "handle-delete"
  | setPipeline => "handle-set-pipeline-description"
  | addResource => "handle-add-resource"

/-- Calls are written with the events that carry them. -/
theorem tag_eq_event (m : Method) : m.tag = m.event := by cases m <;> rfl

/-- What messages call a method. -/
def caseName : Method → String
  | register => "Register"
  | describe => "UpdateDescription"
  | activate => "Activate"
  | get => "Get"
  | getActive => "GetActivated"
  | getAll => "GetAll"
  | delete => "Delete"
  | setPipeline => "SetPipelineDescription"
  | addResource => "AddResource"

/-- The arguments of a method. -/
def fields : Method → List PlainField
  | register =>
    [.text "name", .text "path", .flag "is_active", .optionalText "description",
      .optionalText "app_info"]
  | describe => [.text "name", .version "version", .text "description"]
  | activate => [.text "name", .version "version"]
  | get => [.text "name", .version "version"]
  | getActive => [.text "name"]
  | getAll => [.text "name"]
  | delete => [.text "name", .version "version", .optionalFlag "force"]
  | setPipeline => [.text "name", .text "description"]
  | addResource =>
    [.text "name", .text "path", .optionalText "description", .optionalText "app_info"]

end Method

namespace Call

/-- Calls as a union tagged with their methods. -/
def union : Json.Union Method where
  tag := "method"
  typeName := "ModelCall"
  cases := Method.all
  name := Method.tag
  caseName := Method.caseName
  fields := Method.fields

def ofValues : (m : Method) → Values m.fields → Call
  | .register, (name, path, active, description, appInfo, ()) =>
    register name path active description appInfo
  | .describe, (name, version, description, ()) => describe name version description
  | .activate, (name, version, ()) => activate name version
  | .get, (name, version, ()) => get name version
  | .getActive, (name, ()) => getActive name
  | .getAll, (name, ()) => getAll name
  | .delete, (name, version, force, ()) => delete name version force
  | .setPipeline, (name, description, ()) => setPipeline name description
  | .addResource, (name, path, description, appInfo, ()) =>
    addResource name path description appInfo

def values : (c : Call) → Values c.method.fields
  | register name path active description appInfo => (name, path, active, description, appInfo, ())
  | describe name version description => (name, version, description, ())
  | activate name version => (name, version, ())
  | get name version => (name, version, ())
  | getActive name => (name, ())
  | getAll name => (name, ())
  | delete name version force => (name, version, force, ())
  | setPipeline name description => (name, description, ())
  | addResource name path description appInfo => (name, path, description, appInfo, ())

theorem ofValues_values (c : Call) : ofValues c.method c.values = c := by cases c <;> rfl

def toJson (c : Call) : Json := union.toJson c.method c.values

/-- A call inside a message, two levels below the root. -/
def reader : Reader Call :=
  (union.reader (Reader.value (Json.depthLimit - 2))).map fun c => ofValues c.1 c.2

end Call

/-! ## Messages -/

/-- A call addressed to an object. -/
structure Message where
  objectPath : String
  call : Call
  deriving DecidableEq, Repr

namespace Message

/-- A call of the model service. -/
def toModel (call : Call) : Message := ⟨modelObjectPath, call⟩

/-- The two parts of a message. -/
inductive Part
  | address
  | call

abbrev Part.Value : Part → Type
  | address => String
  | call => Call

def Part.read : (p : Part) → Reader p.Value
  | address => Kind.read .text
  | call => Call.reader

def Part.toJson : (p : Part) → p.Value → Json
  | address, s => .text s
  | call, c => c.toJson

def fields : List (Field Part Part.Value) :=
  [⟨"object_path", .address, none⟩, ⟨"call", .call, none⟩]

def ofValues : Values fields → Message
  | (objectPath, call, ()) => { objectPath, call }

def values (m : Message) : Values fields := (m.objectPath, m.call, ())

def toJson (m : Message) : Json := .object (Json.toMembers Part.toJson fields m.values)

def reader : Reader Message :=
  (Json.recordReader Part.read "struct BusMessage" fields).map ofValues

end Message

/-! ## Replies -/

/-- The completion of a call.  `error` comes from the bus itself, when no handler was reached. -/
inductive Reply
  | status (status : Status)
  | version (version : UInt32) (status : Status)
  | info (info : String) (status : Status)
  | error (status : Status) (message : String)
  deriving DecidableEq, Repr

/-- The kinds of reply. -/
inductive ReplyKind
  | status
  | version
  | info
  | error
  deriving DecidableEq, Repr

namespace ReplyKind

def tag : ReplyKind → String
  | status => "status"
  | version => "version"
  | info => "info"
  | error => "error"

/-- What messages call a kind. -/
def caseName : ReplyKind → String
  | status => "Status"
  | version => "Version"
  | info => "Info"
  | error => "Error"

def fields : ReplyKind → List PlainField
  | status => [.status "status"]
  | version => [.version "version", .status "status"]
  | info => [.text "info", .status "status"]
  | error => [.status "status", .text "message"]

end ReplyKind

namespace Reply

def kind : Reply → ReplyKind
  | status .. => .status
  | version .. => .version
  | info .. => .info
  | error .. => .error

/-- The status every reply carries. -/
def code : Reply → Status
  | status s | version _ s | info _ s | error s _ => s

def isSuccess (r : Reply) : Bool := r.code == .ok

def union : Json.Union ReplyKind where
  tag := "kind"
  typeName := "MethodReply"
  cases := [.status, .version, .info, .error]
  name := ReplyKind.tag
  caseName := ReplyKind.caseName
  fields := ReplyKind.fields

def ofValues : (k : ReplyKind) → Values k.fields → Reply
  | .status, (s, ()) => status s
  | .version, (v, s, ()) => version v s
  | .info, (i, s, ()) => info i s
  | .error, (s, m, ()) => error s m

def values : (r : Reply) → Values r.kind.fields
  | status s => (s, ())
  | version v s => (v, s, ())
  | info i s => (i, s, ())
  | error s m => (s, m, ())

theorem ofValues_values (r : Reply) : ofValues r.kind r.values = r := by cases r <;> rfl

def toJson (r : Reply) : Json := union.toJson r.kind r.values

def reader : Reader Reply :=
  (union.reader (Reader.value (Json.depthLimit - 1))).map fun c => ofValues c.1 c.2

/-- A reply as a message about it shows it. -/
def describe : Reply → String
  | status s => "Status \x7b status: " ++ s.text ++ " \x7d"
  | version v s => "Version \x7b version: " ++ toString v.toNat ++ ", status: " ++ s.text ++ " \x7d"
  | info i s => "Info \x7b info: " ++ Text.quoted i ++ ", status: " ++ s.text ++ " \x7d"
  | error s m => "Error \x7b status: " ++ s.text ++ ", message: " ++ Text.quoted m ++ " \x7d"

end Reply

/-! ## Documents under a limit -/

/-- Why a document was not read or not written. -/
inductive WireError
  | unreadable (document : Bytes) (failure : Json.Failure)
  | tooLarge (size limit : Nat)
  deriving DecidableEq, Repr

namespace WireError

def message : WireError → String
  | unreadable document failure => "Serialization error: " ++ failure.report document
  | tooLarge size limit =>
    "Message too large: " ++ toString size ++ " bytes (max " ++ toString limit ++ ")"

end WireError

namespace Wire

/-- Write a value within the limit. -/
def encode (limit : Nat) (j : Json) : Except WireError Bytes :=
  let document := Text.bytes j.compact
  if limit < document.length then .error (.tooLarge document.length limit) else .ok document

/-- Read a document within the limit.  The size is looked at first. -/
def decode {α : Type} (reader : Reader α) (limit : Nat) (document : Bytes) :
    Except WireError α :=
  if limit < document.length then .error (.tooLarge document.length limit)
  else
    match Json.document reader document with
    | .ok v => .ok v
    | .error failure => .error (.unreadable document failure)

end Wire

def Message.encode (limit : Nat) (m : Message) : Except WireError Bytes :=
  Wire.encode limit m.toJson

def Message.decode (limit : Nat) (document : Bytes) : Except WireError Message :=
  Wire.decode Message.reader limit document

def Reply.encode (limit : Nat) (r : Reply) : Except WireError Bytes :=
  Wire.encode limit r.toJson

def Reply.decode (limit : Nat) (document : Bytes) : Except WireError Reply :=
  Wire.decode Reply.reader limit document

end ModelRegistry
