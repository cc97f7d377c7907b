import ModelRegistry.Json.Basic

/-!
# Writing JSON

`compact` writes a value without blanks, `pretty` with one member or item on a line and two blanks
for each level.  In a text only the quote, the backslash and the control characters below U+0020
are escaped, with the short form where there is one; every other character stands for itself.
-/

namespace ModelRegistry
namespace Json

/-- A lower-case hexadecimal digit. -/
def hexDigit (n : Nat) : Char :=
  if n < 10 then Char.ofNat (0x30 + n) else Char.ofNat (0x61 + (n - 10))

/-- One character inside a written text. -/
def escapeChar (c : Char) : List Char :=
  match c.toNat with
  | 0x22 => ['\\', '\x22']
  | 0x5C => ['\\', '\\']
  | 0x08 => ['\\', 'b']
  | 0x09 => ['\\', 't']
  | 0x0A => ['\\', 'n']
  | 0x0C => ['\\', 'f']
  | 0x0D => ['\\', 'r']
  | n => if n < 0x20 then ['\\', 'u', '0', '0', hexDigit (n / 16), hexDigit (n % 16)] else [c]

/-- A text between quotes. -/
def writeText (s : String) : List Char :=
  '\x22' :: (s.toList.flatMap escapeChar ++ ['\x22'])

def writeNumber : Number → List Char
  | .integer n => (toString n).toList
  | .real negative x => (x.text negative).toList

def writeFlag (b : Bool) : List Char := if b then "true".toList else "false".toList

mutual

/-- A value without blanks. -/
def write : Json → List Char
  | null => "null".toList
  | flag b => writeFlag b
  | number n => writeNumber n
  | text s => writeText s
  | array items => '[' :: (writeItems items ++ [']'])
  | object members => '\x7b' :: (writeMembers members ++ ['\x7d'])

/-- The items of an array with commas between them. -/
def writeItems : List Json → List Char
  | [] => []
  | [item] => write item
  | item :: next :: items => write item ++ ',' :: writeItems (next :: items)

/-- The members of an object with commas between them. -/
def writeMembers : List (String × Json) → List Char
  | [] => []
  | [(name, value)] => writeText name ++ ':' :: write value
  | (name, value) :: next :: members =>
    writeText name ++ ':' :: (write value ++ ',' :: writeMembers (next :: members))

end

/-- The text of a value without blanks. -/
def compact (j : Json) : String := String.ofList (write j)

/-- A new line indented to a level. -/
def newLine (level : Nat) : List Char := '\n' :: List.replicate (2 * level) ' '

mutual

/-- A value with one member or item on a line; `level` is that of the line it begins on. -/
def writeLines (level : Nat) : Json → List Char
  | null => "null".toList
  | flag b => writeFlag b
  | number n => writeNumber n
  | text s => writeText s
  | array [] => ['[', ']']
  | array (item :: items) =>
    '[' :: newLine (level + 1) ++ writeItemLines (level + 1) (item :: items) ++
      newLine level ++ [']']
  | object [] => ['\x7b', '\x7d']
  | object (member :: members) =>
    '\x7b' :: newLine (level + 1) ++ writeMemberLines (level + 1) (member :: members) ++
      newLine level ++ ['\x7d']

/-- Items on a line each. -/
def writeItemLines (level : Nat) : List Json → List Char
  | [] => []
  | [item] => writeLines level item
  | item :: next :: items =>
    writeLines level item ++ ',' :: newLine level ++ writeItemLines level (next :: items)

/-- Members on a line each. -/
def writeMemberLines (level : Nat) : List (String × Json) → List Char
  | [] => []
  | [(name, value)] => writeText name ++ ':' :: ' ' :: writeLines level value
  | (name, value) :: next :: members =>
    writeText name ++ ':' :: ' ' :: writeLines level value ++ ',' :: newLine level ++
      writeMemberLines level (next :: members)

end

/-- The text of a value with one member or item on a line. -/
def pretty (j : Json) : String := String.ofList (writeLines 0 j)

end Json
end ModelRegistry
