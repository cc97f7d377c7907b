import ModelRegistry.Text.Cut
import ModelRegistry.Text.Lossy

/-!
# Paths

A `Path` is the bytes that name a file.  `Path.join` is the only way in which paths are put
together: an absolute right side replaces the left side, and otherwise one slash separates the two,
unless the left side is empty or ends with one.  Nothing is normalised, so a joined path can leave
the directory that it was joined to.

`Path.steps` is how a path is walked: the names between the slashes, with a final slash standing for
a step to the directory itself.
-/

namespace ModelRegistry

/-- The bytes that name a file. -/
structure Path where
  bytes : Bytes
  deriving DecidableEq, Repr

namespace Path

def slash : UInt8 := 0x2F

/-- The path that a text spells. -/
def ofText (s : String) : Path := ⟨Text.bytes s⟩

/-- The path as messages show it. -/
def text (p : Path) : String := Text.shown p.bytes

@[simp] theorem text_ofText (s : String) : (ofText s).text = s := Text.shown_bytes s

/-- Whether the path starts at the root. -/
def isAbsolute (p : Path) : Bool := p.bytes.head? = some slash

/-- The path of `q` as seen from `p`. -/
def join (p q : Path) : Path :=
  if q.isAbsolute then q
  else if p.bytes = [] ∨ p.bytes.getLast? = some slash then ⟨p.bytes ++ q.bytes⟩
  else ⟨p.bytes ++ slash :: q.bytes⟩

/-- The name of a directory in itself. -/
def here : Bytes := [0x2E]

/-- The name of a directory's parent in it. -/
def up : Bytes := [0x2E, 0x2E]

/-- The names between the slashes. -/
def names (p : Path) : List Bytes := (Text.cutAt slash p.bytes).filter (· ≠ [])

/-- Whether the path ends with a slash. -/
def endsWithSlash (p : Path) : Bool := p.bytes.getLast? = some slash

/-- The steps of a walk along the path. -/
def steps (p : Path) : List Bytes :=
  if p.endsWithSlash then p.names ++ [here] else p.names

/-- The names that matter to where a path leads: a dot counts only where a relative path begins. -/
def components (p : Path) : List Bytes :=
  match p.names with
  | [] => []
  | n :: ns =>
    let rest := ns.filter (· ≠ here)
    if n = here ∧ p.isAbsolute then rest else n :: rest

/-- A path made of names. -/
def ofNames (absolute : Bool) (ns : List Bytes) : Path :=
  let body := [slash].intercalate ns
  ⟨if absolute then slash :: body else body⟩

/-- The path without its last component, unless it has none. -/
def parent? (p : Path) : Option Path :=
  if p.components = [] then none else some (ofNames p.isAbsolute p.components.dropLast)

end Path
end ModelRegistry
