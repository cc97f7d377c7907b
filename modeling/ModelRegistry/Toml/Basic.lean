/-!
# TOML documents

A TOML document is a table.  Tables come about in four ways, which decide who may still add to them:
a header opens a table once; the path of a header makes the tables on the way, which a later header
may open; a dotted key makes tables that only dotted keys beside it may extend; and a table written
between braces is closed from the start.
-/

namespace ModelRegistry

/-- How a table came about. -/
inductive TableOrigin
  | header
  | path
  | dotted
  | inline
  deriving DecidableEq, Repr

/-- A value of a TOML document. -/
inductive Toml
  | text (value : String)
  | integer (value : Int)
  | real (spelling : String)
  | flag (value : Bool)
  /-- A date, a time of day or both. -/
  | moment (spelling : String)
  | array (items : List Toml)
  | table (origin : TableOrigin) (members : List (String × Toml))
  /-- The tables opened by the headers between double brackets: the one that was opened last, and
  those before it, the latest first. -/
  | tables (last : List (String × Toml)) (earlier : List (List (String × Toml)))

namespace Toml

/-- The members of a table, the latest first. -/
abbrev Members := List (String × Toml)

/-- The text, if the value is one. -/
def text? : Toml → Option String
  | text s => some s
  | _ => none

/-- The value under a key. -/
def find? (ms : Members) (key : String) : Option Toml := (ms.find? fun m => m.1 = key).map (·.2)

/-- Replace the value under a key that has one. -/
def replace (ms : Members) (key : String) (value : Toml) : Members :=
  ms.map fun m => if m.1 = key then (key, value) else m

/-- Change the table that a path leads to.  Tables that are missing on the way are made; a dotted
key may not pass through a table that a header opened; and no path leads into a closed table. -/
def descend (made : TableOrigin) :
    List String → (TableOrigin → Members → Option Members) → TableOrigin → Members → Option Members
  | [], change, origin, ms => change origin ms
  | key :: path, change, _, ms =>
    match find? ms key with
    | none =>
      (descend made path change made []).map fun inner => (key, table made inner) :: ms
    | some (table origin inner) =>
      if origin = .inline ∨ (made = .dotted ∧ origin = .header) then none
      else
        (descend made path change origin inner).map fun inner =>
          replace ms key (table origin inner)
    | some (tables last earlier) =>
      (descend made path change .header last).map fun inner =>
        replace ms key (tables inner earlier)
    | some _ => none

/-- Give a dotted key its value, once. -/
def assign (path : List String) (key : String) (value : Toml) :
    TableOrigin → Members → Option Members :=
  descend .dotted path fun origin ms =>
    if (origin = .dotted) = (path = []) then none
    else if (find? ms key).isSome then none
    else some ((key, value) :: ms)

/-- Open a table by its header. -/
def openTable (path : List String) (key : String) (root : Members) : Option Members :=
  descend .path path (fun _ ms =>
    match find? ms key with
    | none => some ((key, table .header []) :: ms)
    | some (table .path inner) => some (replace ms key (table .header inner))
    | some _ => none) .header root

/-- Open one more of the tables that share a header. -/
def openNext (path : List String) (key : String) (root : Members) : Option Members :=
  descend .path path (fun _ ms =>
    match find? ms key with
    | none => some ((key, tables [] []) :: ms)
    | some (tables last earlier) => some (replace ms key (tables [] (last :: earlier)))
    | some _ => none) .header root

/-- Give a dotted key its value inside the table that was opened last. -/
def assignIn (opened : List String) (path : List String) (key : String) (value : Toml)
    (root : Members) : Option Members :=
  descend .path opened (assign path key value) .header root

end Toml
end ModelRegistry
