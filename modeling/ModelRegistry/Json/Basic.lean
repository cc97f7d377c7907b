import ModelRegistry.Decimal.Shortest
import ModelRegistry.Text.Quoted

/-!
# JSON values

`Json` is a document as it is written: the members of an object are kept in order, with repeated
names.  `Json.field?` and `Json.distinct` give the reading of an object in which a repeated name
keeps its first place and its last value.

`Found` is what a reader met where it wanted something else: a scalar in full, but of an array or
an object only that one begins there.
-/

namespace ModelRegistry

/-- A number: an integer between `-2 ^ 63` and `2 ^ 64 - 1`, or else a double. -/
inductive Number
  | integer (value : Int)
  | real (negative : Bool) (magnitude : Binary64)
  deriving DecidableEq, Repr

/-- A JSON value as it is written. -/
inductive Json
  | null
  | flag (value : Bool)
  | number (value : Number)
  | text (value : String)
  | array (items : List Json)
  | object (members : List (String × Json))

/-- What begins at a place in a document. -/
inductive Found
  | null
  | flag (value : Bool)
  | number (value : Number)
  | text (value : String)
  | array
  | object
  deriving DecidableEq, Repr

namespace Found

/-- How a message names what was found. -/
def describe : Found → String
  | null => "null"
  | flag true => "boolean `true`"
  | flag false => "boolean `false`"
  | number (.integer n) => "integer `" ++ toString n ++ "`"
  | number (.real negative x) => "floating point `" ++ x.text negative ++ "`"
  | text s => "string " ++ Text.quoted s
  | array => "sequence"
  | object => "map"

end Found

namespace Json

/-- What a reader meets first in a value. -/
def found : Json → Found
  | null => .null
  | flag b => .flag b
  | number n => .number n
  | text s => .text s
  | array _ => .array
  | object _ => .object

/-- The text, if the value is one. -/
def text? : Json → Option String
  | text s => some s
  | _ => none

/-- The members, if the value is an object. -/
def members? : Json → Option (List (String × Json))
  | object ms => some ms
  | _ => none

/-- The last value written for a name. -/
def field? (members : List (String × Json)) (name : String) : Option Json :=
  members.foldl (fun seen m => if m.1 = name then some m.2 else seen) none

/-- Put a member in its place: a known name keeps its place and takes the new value. -/
def place (members : List (String × Json)) (name : String) (value : Json) :
    List (String × Json) :=
  if members.any (fun m => m.1 = name) then
    members.map fun m => if m.1 = name then (name, value) else m
  else members ++ [(name, value)]

/-- The members with each name once, in the order of first mention, holding the last value. -/
def distinct (members : List (String × Json)) : List (String × Json) :=
  members.foldl (fun seen m => place seen m.1 m.2) []

end Json
end ModelRegistry
