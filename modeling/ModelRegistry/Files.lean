import ModelRegistry.IoFault
import ModelRegistry.Path

/-!
# Files

`Files` is all that reading manifests and package descriptors needs to know of a file system.
`FileTree` is a file system in memory: a tree of directories with regular files, devices and sockets
in them.  A path is walked step by step from the root or from the working directory, and every step
needs a directory to stand on.
-/

namespace ModelRegistry

/-- A view of the files there are. -/
structure Files where
  /-- Whether a path leads to a regular file; none when it leads nowhere. -/
  isRegular? : Path → Option Bool
  read : Path → Except IoFault Bytes

/-- What is at a place. -/
inductive Node
  | directory (entries : List (Bytes × Node))
  | file (content : Bytes)
  | device
  | socket

/-- The names from the root to a place. -/
abbrev Location := List Bytes

namespace Node

/-- What a directory holds under a name. -/
def entry? (name : Bytes) : Node → Option Node
  | directory entries => entries.lookup name
  | _ => none

/-- Entries of a directory with one of them set, or taken away. -/
def withEntry (name : Bytes) (entry : Option Node) (entries : List (Bytes × Node)) :
    List (Bytes × Node) :=
  let others := entries.filter fun e => e.1 ≠ name
  match entry with
  | none => others
  | some node => (name, node) :: others

/-- Set or take away what is at a location below a node.  Nothing changes where the location leads
through something that is no directory. -/
def put (entry : Option Node) : Location → Node → Node
  | [name], directory entries => directory (withEntry name entry entries)
  | name :: l, directory entries =>
    match entries.lookup name with
    | some inner => directory (withEntry name (some (put entry l inner)) entries)
    | none => directory entries
  | _, node => node

end Node

/-- A place in a tree: what is there, and the way back to the root, which is each name that leads
there with the directory that it stands in. -/
structure Place where
  node : Node
  way : List (Bytes × Node)

namespace Place

def location (p : Place) : Location := (p.way.map (·.1)).reverse

/-- The place above; the root is above itself. -/
def parent (p : Place) : Place :=
  match p.way with
  | [] => p
  | (_, node) :: way => ⟨node, way⟩

/-- The longest name of a file. -/
def nameLimit : Nat := 255

/-- The place reached by a walk. -/
def walk : Place → List Bytes → Except IoFault Place
  | p, [] => .ok p
  | p, name :: names =>
    match p.node with
    | .directory entries =>
      if name = Path.here then p.walk names
      else if name = Path.up then p.parent.walk names
      else if nameLimit < name.length then .error .nameTooLong
      else
        match entries.lookup name with
        | none => .error .notFound
        | some node => walk ⟨node, (name, p.node) :: p.way⟩ names
    | _ => .error .notADirectory

end Place

/-- A file system in memory. -/
structure FileTree where
  root : Node
  workingDirectory : Location

namespace FileTree

/-- A tree with nothing in it. -/
def bare (workingDirectory : Location) : FileTree := ⟨.directory [], workingDirectory⟩

/-- Put something under a name in a directory, in place of what is there. -/
def put (t : FileTree) (directory : Place) (name : Bytes) (node : Node) : FileTree :=
  { t with root := t.root.put (some node) (directory.location ++ [name]) }

/-- Take away what is under a name in a directory. -/
def take (t : FileTree) (directory : Place) (name : Bytes) : FileTree :=
  { t with root := t.root.put none (directory.location ++ [name]) }

/-! ## Walking -/

/-- A path must be shorter than this. -/
def pathLimit : Nat := 4096

/-- The place where a walk along a path begins. -/
def origin (t : FileTree) (p : Path) : Except IoFault Place :=
  Place.walk ⟨t.root, []⟩ (if p.isAbsolute then [] else t.workingDirectory)

/-- What makes a path unusable whatever files there are. -/
def refusal? (p : Path) : Option IoFault :=
  if 0 ∈ p.bytes then some .nulInName
  else if p.bytes = [] then some .notFound
  else if pathLimit ≤ p.bytes.length then some .nameTooLong
  else none

/-- The place that steps along a path lead to. -/
def follow (t : FileTree) (p : Path) (steps : List Bytes) : Except IoFault Place :=
  match refusal? p with
  | some e => .error e
  | none => do (← t.origin p).walk steps

/-- What a path leads to. -/
def stat (t : FileTree) (p : Path) : Except IoFault Node :=
  (t.follow p p.steps).map (·.node)

/-- The directory that a path's last name stands in, with the name; no name when the path ends in
the root or in a dot or two. -/
def slot (t : FileTree) (p : Path) : Except IoFault (Place × Option Bytes) := do
  let directory ← t.follow p (p.names.dropLast ++ [Path.here])
  match p.names.getLast? with
  | none => pure (directory, none)
  | some last =>
    if last = Path.here ∨ last = Path.up then pure (directory, none)
    else if Place.nameLimit < last.length then .error .nameTooLong
    else pure (directory, some last)

/-! ## Operations -/

/-- The content of a file. -/
def read (t : FileTree) (p : Path) : Except IoFault Bytes :=
  match t.stat p with
  | .error e => .error e
  | .ok (.directory _) => .error .isADirectory
  | .ok (.file content) => .ok content
  | .ok .device => .ok []
  | .ok .socket => .error .noSuchDevice

/-- The files of the tree. -/
def files (t : FileTree) : Files where
  isRegular? p :=
    match t.stat p with
    | .error _ => none
    | .ok (.file _) => some true
    | .ok _ => some false
  read := t.read

/-- Whether a path leads anywhere. -/
def has (t : FileTree) (p : Path) : Bool := (t.stat p).toOption.isSome

def isDirectory (t : FileTree) (p : Path) : Bool :=
  match t.stat p with
  | .ok (.directory _) => true
  | _ => false

/-- Make one directory. -/
def makeDirectory (t : FileTree) (p : Path) : Except IoFault FileTree :=
  match t.slot p with
  | .error e => .error e
  | .ok (_, none) => .error .alreadyExists
  | .ok (d, some name) =>
    if (d.node.entry? name).isSome then .error .alreadyExists
    else .ok (t.put d name (.directory []))

/-- Make a directory unless it is there. -/
def ensureDirectory (t : FileTree) (p : Path) : Except IoFault FileTree :=
  match t.makeDirectory p with
  | .ok t => .ok t
  | .error e => if t.isDirectory p then .ok t else .error e

/-- Make a directory with all that lead to it, with a bound on how many these are. -/
def makeDirectoriesWithin : Nat → FileTree → Path → Except IoFault FileTree
  | 0, _, _ => .error .noWholeTree
  | depth + 1, t, p =>
    if p.bytes = [] then .ok t
    else
      match t.makeDirectory p with
      | .ok t => .ok t
      | .error .notFound =>
        match p.parent? with
        | none => .error .noWholeTree
        | some parent =>
          match makeDirectoriesWithin depth t parent with
          | .error e => .error e
          | .ok t => t.ensureDirectory p
      | .error e => if t.isDirectory p then .ok t else .error e

/-- Make a directory with all that lead to it. -/
def makeDirectories (t : FileTree) (p : Path) : Except IoFault FileTree :=
  makeDirectoriesWithin (p.components.length + 1) t p

/-- Remove a file that is not a directory. -/
def removeFile (t : FileTree) (p : Path) : Except IoFault FileTree :=
  match t.slot p with
  | .error e => .error e
  | .ok (_, none) => .error .isADirectory
  | .ok (d, some name) =>
    match d.node.entry? name with
    | none => .error .notFound
    | some (.directory _) => .error .isADirectory
    | some _ => if p.endsWithSlash then .error .notADirectory else .ok (t.take d name)

/-- Open a file for additions to its end, making it if there is none. -/
def openForAppend (t : FileTree) (p : Path) : Except IoFault FileTree :=
  match t.slot p with
  | .error e => .error e
  | .ok (_, none) => .error .isADirectory
  | .ok (d, some name) =>
    if p.endsWithSlash then .error .isADirectory
    else
      match d.node.entry? name with
      | none => .ok (t.put d name (.file []))
      | some (.directory _) => .error .isADirectory
      | some .socket => .error .noSuchDevice
      | some _ => .ok t

/-- Add to the end of a file; where there is no file nothing happens. -/
def append (t : FileTree) (p : Path) (content : Bytes) : FileTree :=
  match t.slot p with
  | .ok (d, some name) =>
    match d.node.entry? name with
    | some (.file before) => t.put d name (.file (before ++ content))
    | _ => t
  | _ => t

/-- Put a file at a path, together with the directories that lead to it. -/
def place (t : FileTree) (p : Path) (content : Bytes) : FileTree :=
  let t := (p.parent?.bind fun parent => (t.makeDirectories parent).toOption).getD t
  match t.slot p with
  | .ok (d, some name) => t.put d name (.file content)
  | _ => t

/-! ## Sockets -/

/-- The name of a socket must be shorter than this. -/
def socketNameLimit : Nat := 108

/-- Put a socket at a path.  An empty path, or one that begins with a NUL byte, names no file. -/
def bind (t : FileTree) (p : Path) : Except IoFault FileTree :=
  if p.bytes.head? = some 0 then .ok t
  else if 0 ∈ p.bytes then .error .nulInSocket
  else if socketNameLimit ≤ p.bytes.length then .error .socketNameTooLong
  else if p.bytes = [] then .ok t
  else
    match t.slot p with
    | .error e => .error e
    | .ok (_, none) => .error .addressInUse
    | .ok (d, some name) =>
      if (d.node.entry? name).isSome then .error .addressInUse
      else if p.endsWithSlash then .error .notFound
      else .ok (t.put d name .socket)

/-- Look for a socket at a path to connect to. -/
def findSocket (t : FileTree) (p : Path) : Except IoFault Unit :=
  if 0 ∈ p.bytes then .error .nulInSocket
  else if socketNameLimit ≤ p.bytes.length then .error .socketNameTooLong
  else if p.bytes = [] then .error .invalidArgument
  else
    match t.stat p with
    | .error e => .error e
    | .ok .socket => .ok ()
    | .ok _ => .error .connectionRefused

end FileTree
end ModelRegistry
